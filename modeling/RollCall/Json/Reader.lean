import RollCall.Json.Basic

/-!
# RollCall.Json.Reader — reading JSON text

`read?` accepts one value with nothing but blanks around it. Arrays and objects nest at most 127
deep. Of two members with one name the later one counts.

A number without fraction and exponent is an integer as long as it fits 64 bits with or without a
sign. Every other number is scaled in floating point: its digits are taken up as long as they fit
64 bits, that integer is rounded, and the rounded integer is multiplied or divided by a rounded
power of ten. A number beyond the largest one is refused.
-/

namespace RollCall.Json

/-! ## §A Strings -/

/-- The value of a hexadecimal digit of either case. -/
def hexValue? (c : Char) : Option Nat :=
  if '0' ≤ c && c ≤ '9' then some (c.toNat - '0'.toNat)
  else if 'a' ≤ c && c ≤ 'f' then some (c.toNat - 'a'.toNat + 10)
  else if 'A' ≤ c && c ≤ 'F' then some (c.toNat - 'A'.toNat + 10)
  else none

/-- Four hexadecimal digits. -/
def readHex4 : List Char → Option (Nat × List Char)
  | a :: b :: c :: d :: rest => do
    let a ← hexValue? a
    let b ← hexValue? b
    let c ← hexValue? c
    let d ← hexValue? d
    pure (((a * 16 + b) * 16 + c) * 16 + d, rest)
  | _ => none

/-- The character of four hexadecimal digits after `\u`. A high surrogate needs the low one right
after it. -/
def readUnicode (cs : List Char) : Option (Char × List Char) := do
  let (n, rest) ← readHex4 cs
  if 0xDC00 ≤ n && n ≤ 0xDFFF then none
  else if 0xD800 ≤ n && n ≤ 0xDBFF then
    match rest with
    | '\\' :: 'u' :: rest => do
      let (m, rest) ← readHex4 rest
      if 0xDC00 ≤ m && m ≤ 0xDFFF then
        pure (Char.ofNat (0x10000 + (n - 0xD800) * 0x400 + (m - 0xDC00)), rest)
      else none
    | _ => none
  else pure (Char.ofNat n, rest)

/-- What stands after a backslash. -/
def readEscape : List Char → Option (Char × List Char)
  | [] => none
  | c :: cs =>
    if c == '"' || c == '\\' || c == '/' then some (c, cs)
    else if c == 'b' then some (Char.ofNat 8, cs)
    else if c == 'f' then some (Char.ofNat 12, cs)
    else if c == 'n' then some (Char.ofNat 10, cs)
    else if c == 'r' then some (Char.ofNat 13, cs)
    else if c == 't' then some (Char.ofNat 9, cs)
    else if c == 'u' then readUnicode cs
    else none

/-- The rest of a string after its opening quote. -/
def readChars : Nat → List Char → Option (List Char × List Char)
  | 0, _ => none
  | _ + 1, [] => none
  | fuel + 1, c :: cs =>
    if c == '"' then some ([], cs)
    else if c == '\\' then
      match readEscape cs with
      | none => none
      | some (d, rest) => (readChars fuel rest).map fun (ds, rest) => (d :: ds, rest)
    else if c.toNat < 32 then none
    else (readChars fuel cs).map fun (ds, rest) => (c :: ds, rest)

/-! ## §B Numbers -/

/-- The greatest integer that fits 64 bits. -/
def wordMax : Nat := Nat.pow 2 64 - 1

/-- Takes up digits as long as the integer fits 64 bits: the integer, and how many digits are left
over. -/
def absorb : Nat → List Nat → Nat × Nat
  | n, [] => (n, 0)
  | n, d :: ds => if wordMax < n * 10 + d then (n, ds.length + 1) else absorb (n * 10 + d) ds

/-- Scales a number by a power of ten in floating point. Far below the range it passes through
division by `10 ^ 308`, a few of which leave zero. -/
def scale : Nat → Binary64 → Int → Option Binary64
  | 0, x, _ => some (Binary64.zero x.negative)
  | fuel + 1, x, e =>
    if e.natAbs ≤ 308 then do
      let power ← Binary64.ofDecimal false 1 e.natAbs
      if 0 ≤ e then x.mul power else x.div power
    else if x.significand == 0 then some x
    else if 0 ≤ e then none
    else do
      let power ← Binary64.ofDecimal false 1 308
      let y ← x.div power
      scale fuel y (e + 308)

/-- The floating point number of the digits before and after the point and a power of ten. -/
def scaled (negative : Bool) (whole fraction : List Nat) (e : Int) : Option Json := do
  let (n, left) := absorb 0 whole
  let (n, unread) := absorb n fraction
  let taken : Int := fraction.length - unread
  let x ← Binary64.ofRatio false n 1
  let y ← scale 5 x ((left : Int) - taken + e)
  pure (.float (if negative then y.neg else y))

/-- The decimal digits at the front of a text. -/
def digits (cs : List Char) : List Nat :=
  (cs.takeWhile Char.isDigit).map fun c => c.toNat - '0'.toNat

/-- The natural number that digits spell. -/
def ofDigits (ds : List Nat) : Nat := ds.foldl (fun n d => n * 10 + d) 0

/-- The exponent after the digits, nothing where there is none. -/
def readExponent (cs : List Char) : Option (Option Int × List Char) :=
  match cs with
  | c :: cs =>
    if c == 'e' || c == 'E' then
      let (negative, cs) :=
        match cs with
        | '-' :: cs => (true, cs)
        | '+' :: cs => (false, cs)
        | cs => (false, cs)
      let ds := digits cs
      if ds.isEmpty then none
      else
        let n : Int := ofDigits ds
        some (some (if negative then -n else n), cs.drop ds.length)
    else some (none, c :: cs)
  | [] => some (none, [])

/-- The digits after a point; nothing where there is no point. -/
def readFraction (cs : List Char) : Option (Option (List Nat) × List Char) :=
  match cs with
  | '.' :: cs =>
    let ds := digits cs
    if ds.isEmpty then none else some (some ds, cs.drop ds.length)
  | cs => some (none, cs)

/-- An integer that has neither fraction nor exponent. -/
def whole (negative : Bool) (ds : List Nat) : Option Json :=
  let n := ofDigits ds
  if negative then
    if n == 0 then some (.float (Binary64.zero true))
    else if n ≤ Nat.pow 2 63 then some (.int (-(n : Int)))
    else scaled true ds [] 0
  else if n ≤ wordMax then some (.int n)
  else scaled false ds [] 0

/-- A number. A zero in front of another digit is refused. -/
def readNumber (cs : List Char) : Option (Json × List Char) := do
  let (negative, cs) :=
    match cs with
    | '-' :: cs => (true, cs)
    | cs => (false, cs)
  let ds := digits cs
  if ds.isEmpty || (ds.head? == some 0 && 1 < ds.length) then none
  else
    let (fraction, rest) ← readFraction (cs.drop ds.length)
    let (exponent, rest) ← readExponent rest
    match fraction, exponent with
    | none, none => (whole negative ds).map fun v => (v, rest)
    | _, _ => (scaled negative ds (fraction.getD []) (exponent.getD 0)).map fun v => (v, rest)

/-! ## §C Values -/

/-- The blanks between tokens. -/
def isGap (c : Char) : Bool := c == ' ' || c == '\n' || c == '\t' || c == '\r'

/-- Skips blanks. -/
def skipGap (cs : List Char) : List Char := cs.dropWhile isGap

mutual

/-- A value after optional blanks. `depth` levels of nesting are left. -/
def readValue : Nat → Nat → List Char → Option (Json × List Char)
  | 0, _, _ => none
  | fuel + 1, depth, cs =>
    match skipGap cs with
    | '"' :: cs =>
      (readChars (cs.length + 1) cs).map fun (s, rest) => (.str (String.ofList s), rest)
    | '[' :: cs =>
      if depth == 0 then none
      else
        match skipGap cs with
        | ']' :: cs => some (.arr [], cs)
        | cs => (readItems fuel (depth - 1) cs).map fun (vs, rest) => (.arr vs, rest)
    | '{' :: cs =>
      if depth == 0 then none
      else
        match skipGap cs with
        | '}' :: cs => some (.obj [], cs)
        | cs => (readMembers fuel (depth - 1) cs).map fun (ms, rest) => (Json.object ms, rest)
    | 'n' :: 'u' :: 'l' :: 'l' :: cs => some (.null, cs)
    | 't' :: 'r' :: 'u' :: 'e' :: cs => some (.bool true, cs)
    | 'f' :: 'a' :: 'l' :: 's' :: 'e' :: cs => some (.bool false, cs)
    | cs => readNumber cs

/-- Items and the bracket that closes them. -/
def readItems : Nat → Nat → List Char → Option (List Json × List Char)
  | 0, _, _ => none
  | fuel + 1, depth, cs =>
    match readValue fuel depth cs with
    | none => none
    | some (v, rest) =>
      match skipGap rest with
      | ',' :: rest => (readItems fuel depth rest).map fun (vs, rest) => (v :: vs, rest)
      | ']' :: rest => some ([v], rest)
      | _ => none

/-- Members and the brace that closes them. -/
def readMembers : Nat → Nat → List Char → Option (List (String × Json) × List Char)
  | 0, _, _ => none
  | fuel + 1, depth, cs =>
    match skipGap cs with
    | '"' :: cs =>
      match readChars (cs.length + 1) cs with
      | none => none
      | some (k, rest) =>
        match skipGap rest with
        | ':' :: rest =>
          match readValue fuel depth rest with
          | none => none
          | some (v, rest) =>
            match skipGap rest with
            | ',' :: rest =>
              (readMembers fuel depth rest).map fun (ms, rest) => ((String.ofList k, v) :: ms, rest)
            | '}' :: rest => some ([(String.ofList k, v)], rest)
            | _ => none
        | _ => none
    | _ => none

end

/-- The deepest nesting of arrays and objects that is read. -/
def maxDepth : Nat := 127

/-- Reads a text that is one JSON value. -/
def read? (s : String) : Option Json :=
  let cs := s.toList
  match readValue (2 * cs.length + 2) maxDepth cs with
  | some (v, rest) => if (skipGap rest).isEmpty then some v else none
  | none => none

end RollCall.Json
