import RollCall.Number.Shortest

/-!
# RollCall.Number.Layout — writing out the digits of a number

A `Layout` is the record of one format's decisions: for which exponents of the leading digit a
number is written with a point and zeros, whether a whole number keeps `.0`, and whether a positive
exponent shows its sign.
-/

namespace RollCall

/-- The decisions of a number format. -/
structure Layout where
  /-- Least and greatest exponent of the leading digit that is written without `e`; no bounds when
  every number is. -/
  positional : Option (Int × Int)
  /-- Whether a whole number written without `e` ends in `.0`. -/
  wholePoint : Bool
  /-- Whether a non-negative exponent is written with `+`. -/
  plusSign : Bool

namespace Layout

/-- Digits with a point at the given place: zeros fill the way to the point on either side. -/
def withPoint (wholePoint : Bool) (digits : List Char) (point : Int) : List Char :=
  if point ≤ 0 then '0' :: '.' :: List.replicate (-point).toNat '0' ++ digits
  else if (digits.length : Int) ≤ point then
    digits ++ List.replicate (point.toNat - digits.length) '0'
      ++ (if wholePoint then ['.', '0'] else [])
  else digits.take point.toNat ++ '.' :: digits.drop point.toNat

/-- One digit, a point before the others if there are any, and the exponent. -/
def withExponent (plusSign : Bool) (digits : List Char) (exponent : Int) : List Char :=
  let mantissa :=
    match digits with
    | [] => []
    | [d] => [d]
    | d :: ds => d :: '.' :: ds
  let sign := if exponent < 0 then ['-'] else if plusSign then ['+'] else []
  mantissa ++ 'e' :: sign ++ Nat.toDigits 10 exponent.natAbs

/-- A number in a format, with the fewest digits that read back. -/
def write (layout : Layout) (x : Binary64) : String :=
  let d := x.shortest
  let digits := Nat.toDigits 10 d.digits
  let exponent := d.point - 1
  let positional :=
    match layout.positional with
    | none => true
    | some (least, greatest) => least ≤ exponent && exponent ≤ greatest
  let body :=
    if positional then withPoint layout.wholePoint digits d.point
    else withExponent layout.plusSign digits exponent
  String.ofList (if x.negative then '-' :: body else body)

end Layout

end RollCall
