/-!
# RollCall.Number.Binary64 — finite binary floating point numbers, exactly

A number is a sign and `significand · 2 ^ exponent` with a significand of at most 53 bits. All
arithmetic is on natural numbers: a quotient is rounded once, to the nearest number and to the even
significand at a tie, and what lies beyond the largest number has no value here. Infinities and
"not a number" are not numbers of this type; who reads a text that spells them decides what they
are.
-/

namespace RollCall

/-- A finite binary floating point number. Values built by this module keep `significand < 2 ^ 53`,
`-1074 ≤ exponent ≤ 971`, and the top bit of the significand set whenever `exponent ≠ -1074`. -/
structure Binary64 where
  negative : Bool
  significand : Nat
  exponent : Int
deriving DecidableEq, Repr

namespace Binary64

/-- The least exponent. -/
def minExponent : Int := -1074

/-- The greatest exponent. -/
def maxExponent : Int := 971

/-- Zero with a sign. -/
def zero (negative : Bool) : Binary64 := ⟨negative, 0, minExponent⟩

/-- The quotient rounded to the nearest natural number, a half to the even one. -/
def roundDiv (num den : Nat) : Nat :=
  let q := num / den
  let twice := 2 * (num % den)
  if twice < den then q
  else if den < twice then q + 1
  else if q % 2 == 0 then q else q + 1

/-- The numerator and denominator of `num / den` over `2 ^ e`. -/
def overPower (num den : Nat) (e : Int) : Nat × Nat :=
  if 0 ≤ e then (num, den * Nat.pow 2 e.toNat) else (num * Nat.pow 2 (-e).toNat, den)

/-- The exponent that gives `num / den` a significand of 53 bits, or the least exponent. -/
def exponentOf (num den : Nat) : Int :=
  let guess : Int := (Nat.log2 num : Int) - (Nat.log2 den : Int) - 52
  let (n, d) := overPower num den guess
  let e := if n / d < Nat.pow 2 52 then guess - 1 else guess
  if e < minExponent then minExponent else e

/-- The number nearest to `num / den`, unless it lies beyond the largest one. -/
def ofRatio (negative : Bool) (num den : Nat) : Option Binary64 :=
  if num == 0 || den == 0 then some (zero negative)
  else
    let e := exponentOf num den
    let (n, d) := overPower num den e
    let m := roundDiv n d
    let (m, e) := if m == Nat.pow 2 53 then (Nat.pow 2 52, e + 1) else (m, e)
    if maxExponent < e then none else some ⟨negative, m, e⟩

/-- A number as a quotient of natural numbers, its sign apart. -/
def ratio (x : Binary64) : Nat × Nat :=
  if 0 ≤ x.exponent then (x.significand * Nat.pow 2 x.exponent.toNat, 1)
  else (x.significand, Nat.pow 2 (-x.exponent).toNat)

/-- The rounded product. -/
def mul (x y : Binary64) : Option Binary64 :=
  let (a, b) := x.ratio
  let (c, d) := y.ratio
  ofRatio (x.negative != y.negative) (a * c) (b * d)

/-- The rounded quotient. -/
def div (x y : Binary64) : Option Binary64 :=
  let (a, b) := x.ratio
  let (c, d) := y.ratio
  ofRatio (x.negative != y.negative) (a * d) (b * c)

/-- The opposite number. -/
def neg (x : Binary64) : Binary64 := { x with negative := !x.negative }

/-- The number of decimal digits, none for zero. -/
def digitCount (n : Nat) : Nat := if n == 0 then 0 else (Nat.toDigits 10 n).length

/-- The number nearest to `n · 10 ^ e`. Magnitudes far outside the range are settled without
computing the power. -/
def ofDecimal (negative : Bool) (n : Nat) (e : Int) : Option Binary64 :=
  if n == 0 then some (zero negative)
  else
    let magnitude : Int := (digitCount n : Int) + e
    if 400 < magnitude then none
    else if magnitude < -400 then some (zero negative)
    else if 0 ≤ e then ofRatio negative (n * Nat.pow 10 e.toNat) 1
    else ofRatio negative n (Nat.pow 10 (-e).toNat)

end Binary64

end RollCall
