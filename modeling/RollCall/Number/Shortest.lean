import RollCall.Number.Binary64

/-!
# RollCall.Number.Shortest — the fewest decimal digits that read back

Every finite number stands for an interval of reals: those that round to it, the ends included
exactly when its significand is even. `shortest` looks for the decimal with the fewest digits in
that interval. For one digit, two digits and so on it tries the two neighbours of the number on the
grid of decimals with that many digits, and takes the nearer one of those that lie in the interval.
Seventeen digits always suffice.

How the digits are written out (point, zeros, exponent) is the matter of
`RollCall.Number.Layout`.
-/

namespace RollCall

/-- A decimal `0.d₁d₂… · 10 ^ point`, digits as a natural number without trailing zeros. -/
structure Digits where
  digits : Nat
  point : Int
deriving DecidableEq, Repr

namespace Binary64

/-- A non-negative rational, as numerator and denominator. -/
abbrev Ratio := Nat × Nat

/-- Whether one rational is below another. -/
def Ratio.below (a b : Ratio) : Bool := a.1 * b.2 < b.1 * a.2

/-- `n · 10 ^ e` as a rational. -/
def Ratio.ofDecimal (n : Nat) (e : Int) : Ratio :=
  if 0 ≤ e then (n * Nat.pow 10 e.toNat, 1) else (n, Nat.pow 10 (-e).toNat)

/-- `n · 2 ^ e` as a rational. -/
def Ratio.ofBinary (n : Nat) (e : Int) : Ratio :=
  if 0 ≤ e then (n * Nat.pow 2 e.toNat, 1) else (n, Nat.pow 2 (-e).toNat)

/-- The reals that round to a positive number: the two ends, and whether they belong to it. Below a
power of two the neighbours are twice as close, so the lower end is nearer there. -/
def interval (x : Binary64) : Ratio × Ratio × Bool :=
  let closeBelow := x.significand == Nat.pow 2 52 && minExponent < x.exponent
  let low := 4 * x.significand - (if closeBelow then 1 else 2)
  let high := 4 * x.significand + 2
  (Ratio.ofBinary low (x.exponent - 2), Ratio.ofBinary high (x.exponent - 2),
    x.significand % 2 == 0)

/-- Whether a rational rounds to the number. -/
def rounds (x : Binary64) (r : Ratio) : Bool :=
  let (low, high, closed) := x.interval
  if closed then !r.below low && !high.below r else low.below r && r.below high

/-- The exponent of the leading decimal digit of a positive rational: the `e` with
`10 ^ e ≤ r < 10 ^ (e + 1)`. -/
def Ratio.leading (r : Ratio) : Int :=
  if r.2 ≤ r.1 then (digitCount (r.1 / r.2) : Int) - 1
  else -(digitCount ((r.2 + r.1 - 1) / r.1 - 1) : Int)

/-- Of the two decimals around the number with `n` digits, the nearer one that rounds to it, the
even one at a tie; with the exponent of its last digit. -/
def neighbour (x : Binary64) (n : Nat) : Option (Nat × Int) :=
  let v := Ratio.ofBinary x.significand x.exponent
  let e := v.leading - (n : Int) + 1
  let unit := Ratio.ofDecimal 1 e
  let f := (v.1 * unit.2) / (v.2 * unit.1)
  let low := Ratio.ofDecimal f e
  let high := Ratio.ofDecimal (f + 1) e
  let middle := Ratio.ofDecimal (10 * f + 5) (e - 1)
  let preferLow := v.below middle || (!middle.below v && f % 2 == 0)
  match x.rounds low, x.rounds high with
  | false, false => none
  | true, false => some (f, e)
  | false, true => some (f + 1, e)
  | true, true => some (if preferLow then f else f + 1, e)

/-- Takes the zeros off the end, at most `fuel` of them. -/
def stripZeros : Nat → Nat → Int → Nat × Int
  | 0, n, e => (n, e)
  | fuel + 1, n, e => if n % 10 == 0 then stripZeros fuel (n / 10) (e + 1) else (n, e)

/-- The shortest decimal that reads back as the number, its sign apart. -/
def shortest (x : Binary64) : Digits :=
  if x.significand == 0 then ⟨0, 1⟩
  else
    match (List.range 17).findSome? fun i => neighbour x (i + 1) with
    | none => ⟨0, 1⟩
    | some (n, e) =>
      let (n, e) := stripZeros 20 n e
      ⟨n, e + digitCount n⟩

end Binary64

end RollCall
