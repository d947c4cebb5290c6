import RollCall.Json.Reader
import RollCall.Settings.Value

/-!
# RollCall.Toml.Scalar — the strings, numbers and dates of TOML

Readers take characters from the front of a text and give back what is left. A number, a date or a
truth value is first cut off as a whole word and then recognised by its form.

A date or time is a table with one entry, whose text is the date in its normal form: `T` between
date and time, `Z` for no offset, and a fraction without zeros at its end.
-/

namespace RollCall.Toml

/-! ## §A Characters -/

/-- A blank inside a line. -/
def isBlank (c : Char) : Bool := c == ' ' || c == '\t'

/-- A character that may stand in a comment or a string: a tab, or what is no control character. -/
def isPlain (c : Char) : Bool := c == '\t' || (0x20 ≤ c.toNat && c.toNat != 0x7F)

/-- Takes a newline, with or without a carriage return. -/
def newline? : List Char → Option (List Char)
  | '\n' :: rest => some rest
  | '\r' :: '\n' :: rest => some rest
  | _ => none

/-! ## §B Strings -/

/-- The character of `n` hexadecimal digits, unless it is none. -/
def readCode (n : Nat) (cs : List Char) : Option (Char × List Char) :=
  let digits := (cs.take n).filterMap Json.hexValue?
  if digits.length == n then
    let code := digits.foldl (fun m d => m * 16 + d) 0
    if code < 0xD800 || (0xDFFF < code && code < 0x110000) then some (Char.ofNat code, cs.drop n)
    else none
  else none

/-- What stands after a backslash. -/
def readEscape : List Char → Option (Char × List Char)
  | [] => none
  | c :: cs =>
    if c == '"' || c == '\\' then some (c, cs)
    else if c == 'b' then some (Char.ofNat 8, cs)
    else if c == 'f' then some (Char.ofNat 12, cs)
    else if c == 'n' then some (Char.ofNat 10, cs)
    else if c == 'r' then some (Char.ofNat 13, cs)
    else if c == 't' then some (Char.ofNat 9, cs)
    else if c == 'u' then readCode 4 cs
    else if c == 'U' then readCode 8 cs
    else none

/-- The rest of a string on one line with escapes, after its opening quote. -/
def readBasic : Nat → List Char → Option (List Char × List Char)
  | 0, _ => none
  | _ + 1, [] => none
  | fuel + 1, c :: cs =>
    if c == '"' then some ([], cs)
    else if c == '\\' then
      match readEscape cs with
      | none => none
      | some (d, rest) => (readBasic fuel rest).map fun (ds, rest) => (d :: ds, rest)
    else if isPlain c then (readBasic fuel cs).map fun (ds, rest) => (c :: ds, rest)
    else none

/-- The quote of strings without escapes. -/
def apostrophe : Char := Char.ofNat 39

/-- The rest of a string on one line without escapes, after its opening quote. -/
def readRaw : List Char → Option (List Char × List Char)
  | [] => none
  | c :: cs =>
    if c == apostrophe then some ([], cs)
    else if isPlain c then (readRaw cs).map fun (ds, rest) => (c :: ds, rest)
    else none

/-- What follows a backslash at the end of a line: all blanks and newlines are skipped. -/
def skipFold : Nat → List Char → List Char
  | 0, cs => cs
  | fuel + 1, cs =>
    let cs := cs.dropWhile isBlank
    match newline? cs with
    | some rest => skipFold fuel rest
    | none => cs

/-- The rest of a string over several lines, after its opening quotes. Up to two quotes stand for
themselves, and up to two may stand in front of the three that close the string. -/
def readLong (quote : Char) (escapes : Bool) : Nat → List Char → Option (List Char × List Char)
  | 0, _ => none
  | _ + 1, [] => none
  | fuel + 1, c :: cs =>
    if c == quote then
      let more := (cs.takeWhile (· == quote)).length
      if more < 2 then
        (readLong quote escapes fuel (cs.drop more)).map fun (ds, rest) =>
          (List.replicate (more + 1) quote ++ ds, rest)
      else
        let own := min (more - 2) 2
        some (List.replicate own quote, cs.drop (own + 2))
    else if escapes && c == '\\' then
      match newline? (cs.dropWhile isBlank) with
      | some rest => readLong quote escapes fuel (skipFold rest.length rest)
      | none =>
        match readEscape cs with
        | none => none
        | some (d, rest) => (readLong quote escapes fuel rest).map fun (ds, rest) => (d :: ds, rest)
    else
      match newline? (c :: cs) with
      | some rest => (readLong quote escapes fuel rest).map fun (ds, rest) => ('\n' :: ds, rest)
      | none =>
        if isPlain c then (readLong quote escapes fuel cs).map fun (ds, rest) => (c :: ds, rest)
        else none

/-- Skips a newline right after the opening quotes. -/
def skipNewline (cs : List Char) : List Char := (newline? cs).getD cs

/-- A string on one line. -/
def readShortString : List Char → Option (List Char × List Char)
  | c :: cs =>
    if c == '"' then readBasic (cs.length + 1) cs
    else if c == apostrophe then readRaw cs
    else none
  | [] => none

/-- A string of any of the four kinds. -/
def readString (cs : List Char) : Option (List Char × List Char) :=
  match cs with
  | a :: b :: c :: rest =>
    if a == '"' && b == '"' && c == '"' then
      let rest := skipNewline rest
      readLong '"' true (rest.length + 1) rest
    else if a == apostrophe && b == apostrophe && c == apostrophe then
      let rest := skipNewline rest
      readLong apostrophe false (rest.length + 1) rest
    else readShortString cs
  | _ => readShortString cs

/-! ## §C Numbers -/

/-- A character of a word that is a number, a date or a truth value. -/
def isWordChar (c : Char) : Bool :=
  c.isAlphanum || c == '_' || c == '+' || c == '-' || c == '.' || c == ':'

/-- Digits of a class with single underscores between them, the underscores left out. -/
def grouped? (isDigit : Char → Bool) : List Char → Option (List Char)
  | [] => none
  | [c] => if isDigit c then some [c] else none
  | c :: d :: rest =>
    if !isDigit c then none
    else if d == '_' then (grouped? isDigit rest).map (c :: ·)
    else (grouped? isDigit (d :: rest)).map (c :: ·)

/-- The value of digits in a base up to sixteen. -/
def valueIn (base : Nat) (digits : List Char) : Nat :=
  digits.foldl (fun n c => n * base + (Json.hexValue? c).getD 0) 0

/-- A sign and what follows it. -/
def signed (cs : List Char) : Bool × List Char :=
  match cs with
  | '-' :: rest => (true, rest)
  | '+' :: rest => (false, rest)
  | cs => (false, cs)

/-- Decimal digits without a zero in front of others. -/
def decimal? (cs : List Char) : Option (List Char) := do
  let digits ← grouped? Char.isDigit cs
  if digits.head? == some '0' && 1 < digits.length then none else pure digits

/-- An integer with a sign, as long as it fits 64 bits. -/
def integer? (word : List Char) : Option Setting :=
  let based (base : Nat) (isDigit : Char → Bool) (digits : List Char) : Option Setting := do
    let digits ← grouped? isDigit digits
    let n := valueIn base digits
    if n < Nat.pow 2 63 then pure (.signed n) else none
  match word with
  | '0' :: 'x' :: rest => based 16 (fun c => (Json.hexValue? c).isSome) rest
  | '0' :: 'o' :: rest => based 8 (fun c => '0' ≤ c && c ≤ '7') rest
  | '0' :: 'b' :: rest => based 2 (fun c => c == '0' || c == '1') rest
  | _ =>
    let (negative, rest) := signed word
    (decimal? rest).bind fun digits =>
      let n := valueIn 10 digits
      if negative then if n ≤ Nat.pow 2 63 then some (.signed (-(n : Int))) else none
      else if n < Nat.pow 2 63 then some (.signed n) else none

/-- A fraction or an exponent makes a floating point number. One above the largest is refused, one
below the least is infinite. -/
def float? (word : List Char) : Option Setting := do
  let (negative, rest) := signed word
  let whole := rest.takeWhile fun c => c.isDigit || c == '_'
  let rest := rest.drop whole.length
  let whole ← decimal? whole
  let (fraction, rest) ←
    match rest with
    | '.' :: rest => do
      let digits := rest.takeWhile fun c => c.isDigit || c == '_'
      let fraction ← grouped? Char.isDigit digits
      pure (some fraction, rest.drop digits.length)
    | rest => pure (none, rest)
  let exponent ←
    match rest with
    | [] => pure none
    | c :: rest =>
      if c == 'e' || c == 'E' then do
        let (negative, rest) := signed rest
        let digits ← grouped? Char.isDigit rest
        let n : Int := valueIn 10 digits
        pure (some (if negative then -n else n))
      else none
  match fraction, exponent with
  | none, none => none
  | _, _ =>
    let digits := whole ++ fraction.getD []
    let shift : Int := (fraction.getD []).length
    match Binary64.ofDecimal negative (valueIn 10 digits) (exponent.getD 0 - shift) with
    | some x => pure (.real (.finite x))
    | none => if negative then pure (.real (.infinite true)) else none

/-- The values that are no numbers. -/
def special? (word : List Char) : Option Setting :=
  let (negative, rest) := signed word
  if rest == "inf".toList then some (.real (.infinite negative))
  else if rest == "nan".toList then some (.real .notANumber)
  else none

/-! ## §D Dates and times -/

/-- The name under which the text of a date stands. -/
def dateKey : String := "$__toml_private_datetime"

/-- Exactly `n` decimal digits, as a number. -/
def digits? (n : Nat) (cs : List Char) : Option (Nat × List Char) :=
  let digits := (cs.take n).takeWhile Char.isDigit
  if digits.length == n then some (valueIn 10 digits, cs.drop n) else none

/-- Takes a given character. -/
def eat? (c : Char) : List Char → Option (List Char)
  | d :: rest => if c == d then some rest else none
  | [] => none

/-- The days of a month. -/
def daysIn (year month : Nat) : Nat :=
  if month == 2 then
    if year % 4 == 0 && (year % 100 != 0 || year % 400 == 0) then 29 else 28
  else if month == 4 || month == 6 || month == 9 || month == 11 then 30
  else 31

/-- A number with zeros in front up to a width. -/
def padded (width n : Nat) : List Char :=
  let digits := Nat.toDigits 10 n
  List.replicate (width - digits.length) '0' ++ digits

/-- A date, written out again, and what is left. -/
def date? (cs : List Char) : Option (List Char × List Char) := do
  let (year, cs) ← digits? 4 cs
  let cs ← eat? '-' cs
  let (month, cs) ← digits? 2 cs
  let cs ← eat? '-' cs
  let (day, cs) ← digits? 2 cs
  if 1 ≤ month && month ≤ 12 && 1 ≤ day && day ≤ daysIn year month then
    pure (padded 4 year ++ '-' :: padded 2 month ++ '-' :: padded 2 day, cs)
  else none

/-- The fraction of a second: nine digits count, and zeros at the end are not written. -/
def fraction? (cs : List Char) : Option (List Char × List Char) :=
  match cs with
  | '.' :: rest =>
    let digits := rest.takeWhile Char.isDigit
    if digits.isEmpty then none
    else
      let kept := ((digits.take 9).reverse.dropWhile (· == '0')).reverse
      some (if kept.isEmpty then [] else '.' :: kept, rest.drop digits.length)
  | cs => some ([], cs)

/-- A time of day, written out again, and what is left. -/
def time? (cs : List Char) : Option (List Char × List Char) := do
  let (hour, cs) ← digits? 2 cs
  let cs ← eat? ':' cs
  let (minute, cs) ← digits? 2 cs
  let cs ← eat? ':' cs
  let (second, cs) ← digits? 2 cs
  let (fraction, cs) ← fraction? cs
  if hour ≤ 23 && minute ≤ 59 && second ≤ 60 then
    pure (padded 2 hour ++ ':' :: padded 2 minute ++ ':' :: padded 2 second ++ fraction, cs)
  else none

/-- The offset of a time, written out again; nothing where there is none. An offset of zero has a
plus sign. -/
def offset? (cs : List Char) : Option (List Char) :=
  match cs with
  | [] => some []
  | ['Z'] => some ['Z']
  | ['z'] => some ['Z']
  | c :: rest =>
    if c == '+' || c == '-' then do
      let (hour, rest) ← digits? 2 rest
      let rest ← eat? ':' rest
      let (minute, rest) ← digits? 2 rest
      let sign := if hour == 0 && minute == 0 then '+' else c
      if hour ≤ 23 && minute ≤ 59 && rest.isEmpty then
        pure (sign :: padded 2 hour ++ ':' :: padded 2 minute)
      else none
    else none

/-- A date, a time, or both with or without an offset, in normal form. -/
def dateTime? (word : List Char) : Option (List Char) :=
  match date? word with
  | some (date, []) => some date
  | some (date, c :: rest) =>
    if c == 'T' || c == 't' || c == ' ' then do
      let (time, rest) ← time? rest
      let offset ← offset? rest
      pure (date ++ 'T' :: time ++ offset)
    else none
  | none =>
    match time? word with
    | some (time, []) => some time
    | _ => none

/-! ## §E Words -/

/-- Whether a word is a date behind which a time may follow after a space. -/
def isDateWord (word : List Char) : Bool :=
  match date? word with
  | some (_, []) => true
  | _ => false

/-- Whether a time of day starts after a space. -/
def timeFollows : List Char → Bool
  | ' ' :: a :: b :: ':' :: _ => a.isDigit && b.isDigit
  | _ => false

/-- The value of a word. -/
def word? (word : List Char) : Option Setting :=
  if word == "true".toList then some (.bool true)
  else if word == "false".toList then some (.bool false)
  else
    match dateTime? word with
    | some text => some (.table [(dateKey, .text (String.ofList text))])
    | none => (float? word).or ((integer? word).or (special? word))

/-- A number, a date or a truth value. -/
def readWord (cs : List Char) : Option (Setting × List Char) :=
  let word := cs.takeWhile isWordChar
  let rest := cs.drop word.length
  if isDateWord word && timeFollows rest then
    let time := (rest.drop 1).takeWhile isWordChar
    (word? (word ++ ' ' :: time)).map fun v => (v, rest.drop (time.length + 1))
  else (word? word).map fun v => (v, rest)

end RollCall.Toml
