import RollCall.Json.Basic
import RollCall.Number.Layout

/-!
# RollCall.Json.Writer — compact JSON text

No blank stands between tokens. A quote, a backslash and the characters below U+0020 are escaped
inside strings, five of the latter by a letter and the others as four lower case hexadecimal digits;
everything else is written as it is. So no written text holds a character below U+0020.
-/

namespace RollCall.Json

/-- Numbers with a leading digit between `10 ^ -5` and `10 ^ 15` have no exponent, whole ones keep
`.0`, and a positive exponent shows its sign. -/
def numbers : Layout := ⟨some (-5, 15), true, true⟩

/-- The digit of a value below sixteen, in lower case. -/
def hexDigit (n : Nat) : Char :=
  if n < 10 then Char.ofNat ('0'.toNat + n) else Char.ofNat ('a'.toNat + (n - 10))

/-- A character as it stands inside a written string. -/
def escaped (c : Char) : List Char :=
  if c == '"' then ['\\', '"']
  else if c == '\\' then ['\\', '\\']
  else if c.toNat == 8 then ['\\', 'b']
  else if c.toNat == 9 then ['\\', 't']
  else if c.toNat == 10 then ['\\', 'n']
  else if c.toNat == 12 then ['\\', 'f']
  else if c.toNat == 13 then ['\\', 'r']
  else if c.toNat < 32 then ['\\', 'u', '0', '0', hexDigit (c.toNat / 16), hexDigit (c.toNat % 16)]
  else [c]

/-- A written string. -/
def quoted (s : String) : List Char := '"' :: s.toList.flatMap escaped ++ ['"']

/-- An integer in decimal digits. -/
def decimal : Int → List Char
  | .ofNat n => Nat.toDigits 10 n
  | .negSucc n => '-' :: Nat.toDigits 10 (n + 1)

mutual

/-- A written value. -/
def chars : Json → List Char
  | .null => ['n', 'u', 'l', 'l']
  | .bool true => ['t', 'r', 'u', 'e']
  | .bool false => ['f', 'a', 'l', 's', 'e']
  | .int n => decimal n
  | .float x => (numbers.write x).toList
  | .str s => quoted s
  | .arr [] => ['[', ']']
  | .arr (v :: vs) => '[' :: chars v ++ itemChars vs
  | .obj [] => ['{', '}']
  | .obj ((k, v) :: ms) => '{' :: quoted k ++ ':' :: chars v ++ memberChars ms

/-- The items after the first one, and the bracket that closes the array. -/
def itemChars : List Json → List Char
  | [] => [']']
  | v :: vs => ',' :: chars v ++ itemChars vs

/-- The members after the first one, and the brace that closes the object. -/
def memberChars : List (String × Json) → List Char
  | [] => ['}']
  | (k, v) :: ms => ',' :: quoted k ++ ':' :: chars v ++ memberChars ms

end

/-- A value as compact JSON text. -/
def compact (v : Json) : String := String.ofList (chars v)

end RollCall.Json
