/-!
# RollCall.Text.Numeral — whole numbers in decimal digits
-/

namespace RollCall.Text

/-- The value of decimal digits. -/
def decimalValue (digits : List Char) : Nat :=
  digits.foldl (fun n c => n * 10 + (c.toNat - '0'.toNat)) 0

/-- The number that a text is: decimal digits, perhaps after a plus sign, of a number that fits 64
bits. -/
def wholeNumber? (text : List Char) : Option Nat :=
  let digits :=
    match text with
    | '+' :: rest => rest
    | text => text
  if digits.isEmpty || !digits.all Char.isDigit then none
  else
    let n := decimalValue digits
    if n < Nat.pow 2 64 then some n else none

end RollCall.Text
