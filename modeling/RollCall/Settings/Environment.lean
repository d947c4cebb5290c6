import RollCall.Text.Blank
import RollCall.Toml.Document

/-!
# RollCall.Settings.Environment — settings from environment variables

A variable whose name starts with the lead, in any letter case and perhaps behind blanks, sets a
value. What follows the lead is the path: its parts are separated by two underscores or by a point, and are taken in lower case.
A name with an empty part sets nothing.

The value of a variable may be a truth value, a number, a quoted text, a character, a list in square
brackets or a table in braces; everything else is a text. A value that starts like one of these and
goes on differently is a text as a whole.
-/

namespace RollCall.Settings

open RollCall.Text

/-! ## §A Values -/

/-- The blanks around values. -/
def isGap (c : Char) : Bool := c == ' ' || c == '\t' || c == '\n' || c == '\r' || c.toNat == 12

/-- A character that ends a plain value. -/
def isSeparator (c : Char) : Bool := c == ',' || c == '{' || c == '}' || c == '[' || c == ']'

/-- A character of a table's key without quotes. -/
def isKeyChar (c : Char) : Bool := c.isAlphanum || c == '_' || c == '-'

/-- Skips blanks. -/
def skipGap (cs : List Char) : List Char := cs.dropWhile isGap

/-- A floating point number with a point: digits on at least one side of it, and perhaps an
exponent. One beyond the largest number is infinite. -/
def pointNumber? (cs : List Char) : Option Setting := do
  let (negative, rest) := Toml.signed cs
  let whole := rest.takeWhile Char.isDigit
  let rest ← Toml.eat? '.' (rest.drop whole.length)
  let fraction := rest.takeWhile Char.isDigit
  let rest := rest.drop fraction.length
  let exponent ←
    match rest with
    | [] => some 0
    | c :: rest =>
      let (negative, digits) := Toml.signed rest
      if (c == 'e' || c == 'E') && !digits.isEmpty && digits.all Char.isDigit then
        let n : Int := Toml.valueIn 10 digits
        some (if negative then -n else n)
      else none
  if whole.isEmpty && fraction.isEmpty then none
  else
    let n := Toml.valueIn 10 (whole ++ fraction)
    match Binary64.ofDecimal negative n (exponent - fraction.length) with
    | some x => pure (.real (.finite x))
    | none => pure (.real (.infinite negative))

/-- An integer that fits 64 bits: without a sign in mind if it can be, with one otherwise. -/
def integer? (cs : List Char) : Option Setting :=
  let (negative, digits) := Toml.signed cs
  if digits.isEmpty || !digits.all Char.isDigit then none
  else
    let n := Toml.valueIn 10 digits
    if negative then if n ≤ Nat.pow 2 63 then some (.signed (-(n : Int))) else none
    else if n < Nat.pow 2 64 then some (.unsigned n) else none

/-- The value of a text without separators. -/
def plainValue (cs : List Char) : Setting :=
  let cs := trim cs
  let number := if cs.contains '.' then pointNumber? cs else none
  (number.or (integer? cs)).getD (.text (String.ofList cs))

/-- The longest beginning of a text that has at most that many bytes. -/
def fitting : Nat → List Char → List Char
  | _, [] => []
  | room, c :: cs => if c.utf8Size ≤ room then c :: fitting (room - c.utf8Size) cs else []

/-- A text between double quotes, after the opening one. In front of the first escape as many bytes
are kept as there are characters, so wide characters there push others out. -/
def readQuoted (cs : List Char) : Option (String × List Char) :=
  let plain := cs.takeWhile fun c => c != '"' && c != '\\'
  (Toml.readBasic (cs.length + 1) cs).map fun (decoded, rest) =>
    if (cs.drop plain.length).head? == some '\\' then
      (String.ofList (fitting plain.length plain ++ decoded.drop plain.length), rest)
    else (String.ofList decoded, rest)

/-- The key of a table's entry. -/
def readKey (cs : List Char) : Option (String × List Char) :=
  match cs with
  | '"' :: rest => readQuoted rest
  | _ =>
    let word := cs.takeWhile isKeyChar
    if word.isEmpty then none else some (String.ofList word, cs.drop word.length)

mutual

/-- A value with the blanks around it. -/
def readValue : Nat → List Char → Option (Setting × List Char)
  | 0, _ => none
  | fuel + 1, cs =>
    let cs := skipGap cs
    let value : Option (Setting × List Char) :=
      match cs with
      | 't' :: 'r' :: 'u' :: 'e' :: rest => some (.bool true, rest)
      | 'f' :: 'a' :: 'l' :: 's' :: 'e' :: rest => some (.bool false, rest)
      | '{' :: rest =>
        (readEntries fuel rest).map fun (entries, rest) =>
          (.table (Dictionary.ofList entries), rest)
      | '[' :: rest => (readItems fuel rest).map fun (items, rest) => (.list items, rest)
      | '"' :: rest => (readQuoted rest).map fun (s, rest) => (.text s, rest)
      | quote :: rest =>
        if quote == Toml.apostrophe then
          match rest with
          | c :: close :: rest =>
            if close == Toml.apostrophe then some (.text (String.singleton c), rest) else none
          | _ => none
        else
          let word := cs.takeWhile fun c => !isSeparator c
          some (plainValue word, cs.drop word.length)
      | [] => some (plainValue [], [])
    value.map fun (v, rest) => (v, skipGap rest)

/-- The items of a list and the bracket that closes it. -/
def readItems : Nat → List Char → Option (List Setting × List Char)
  | 0, _ => none
  | fuel + 1, cs =>
    match cs with
    | ']' :: rest => some ([], rest)
    | _ =>
      match readValue fuel cs with
      | some (v, ',' :: rest) => (readItems fuel rest).map fun (vs, rest) => (v :: vs, rest)
      | some (v, ']' :: rest) => some ([v], rest)
      | _ => none

/-- The entries of a table and the brace that closes it. -/
def readEntries : Nat → List Char → Option (List (String × Setting) × List Char)
  | 0, _ => none
  | fuel + 1, cs =>
    match cs with
    | '}' :: rest => some ([], rest)
    | _ =>
      match readKey (skipGap cs) with
      | none => none
      | some (key, rest) =>
        match skipGap rest with
        | '=' :: rest =>
          match readValue fuel rest with
          | some (v, ',' :: rest) =>
            (readEntries fuel rest).map fun (entries, rest) => ((key, v) :: entries, rest)
          | some (v, '}' :: rest) => some ([(key, v)], rest)
          | _ => none
        | _ => none

end

/-- The value of a variable. -/
def variableValue (text : String) : Setting :=
  let cs := text.toList
  match readValue (2 * cs.length + 2) cs with
  | some (v, []) => v
  | _ => .text text

/-! ## §B Names -/

/-- The lead of the names that set something. -/
def lead : List Char := "schemagen_".toList

/-- A name in lower case, as far as its letters are ASCII. -/
def lower (cs : List Char) : List Char := cs.map Char.toLower

/-- Puts a point for every two underscores, from left to right. -/
def pointed : List Char → List Char
  | '_' :: '_' :: rest => '.' :: pointed rest
  | c :: rest => c :: pointed rest
  | [] => []

/-- The path that a variable sets. -/
def variablePath? (name : String) : Option (List String) :=
  match afterLead? lead (lower (trim name.toList)) with
  | none => none
  | some rest =>
    let parts := pieces (· == '.') (trim (pointed rest))
    if parts.any List.isEmpty then none else some (parts.map String.ofList)

/-- The layer of variables in the given order, a later one over an earlier one. -/
def environmentLayer (environment : List (String × String)) : Setting :=
  environment.foldl
    (fun layer (name, text) =>
      match variablePath? name with
      | some path => layer.merge (Setting.nest path (variableValue text))
      | none => layer)
    (.table [])

end RollCall.Settings
