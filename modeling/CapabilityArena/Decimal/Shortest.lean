import CapabilityArena.Decimal.Binary64

/-!
The shortest decimal that reads back as a given binary number. A decimal is a point of a grid: the
multiples of a power of ten. Every point of a grid that rounds to the number has one of the number's two
neighbours on that grid beside it which rounds to it too, so those two are all that has to be tried.
-/

namespace CapabilityArena.Decimal

/-- A positive decimal `digits * 10 ^ exponent`. -/
structure Digits where
  digits : Nat
  exponent : Int
  deriving DecidableEq

/-- The reals that round to a positive number, as numerators over one denominator; the ends belong to the
    interval when the significand is even. -/
structure Interval where
  low : Nat
  value : Nat
  high : Nat
  den : Nat
  closed : Bool

namespace Interval

/-- The gap below a power of two is half the gap above it, except at the bottom of the range. -/
def around (x : Binary64) : Interval :=
  let m := x.significand
  let scale := 1 <<< x.exponent.toNat
  let lowGap := if m = Binary64.fractions ∧ -1074 < x.exponent then 1 else 2
  { low := (4 * m - lowGap) * scale
    value := 4 * m * scale
    high := (4 * m + 2) * scale
    den := 4 <<< (-x.exponent).toNat
    closed := m % 2 = 0 }

/-- `num / den'` rounds to the number. -/
def holds (i : Interval) (num den : Nat) : Bool :=
  let low := i.low * den
  let high := i.high * den
  let point := num * i.den
  if i.closed then decide (low ≤ point) && decide (point ≤ high)
  else decide (low < point) && decide (point < high)

/-- The exponent of the first significant digit of the value. -/
def leading (i : Interval) : Int :=
  if i.den ≤ i.value then ((Nat.toDigits 10 (i.value / i.den)).length : Int) - 1
  else
    let inverse := (i.den + i.value - 1) / i.value
    if inverse ≤ 1 then 0 else -((Nat.toDigits 10 (inverse - 1)).length : Int)

/-- The point of the grid of multiples of `10 ^ p` that rounds to the number and is nearest to it. -/
def onGrid? (i : Interval) (tie : Tie) (p : Int) : Option Digits :=
  let up := Nat.pow 10 p.toNat
  let down := Nat.pow 10 (-p).toNat
  let num := i.value * down
  let den := i.den * up
  let below := num / den
  let nearest := roundedQuotient num den tie
  let rounds (d : Nat) := i.holds (d * up) down
  if rounds nearest then some ⟨nearest, p⟩
  else if rounds below then some ⟨below, p⟩
  else if rounds (below + 1) then some ⟨below + 1, p⟩
  else none

end Interval

/-- Drops zeros at the end; a number of `n` digits is done after `n` rounds. -/
def Digits.trim (d : Digits) : Digits :=
  go (Nat.toDigits 10 d.digits).length d
where
  go : Nat → Digits → Digits
    | 0, d => d
    | rounds + 1, d =>
      if d.digits ≠ 0 ∧ d.digits % 10 = 0 then go rounds ⟨d.digits / 10, d.exponent + 1⟩ else d

/-- The shortest decimal of a finite number other than zero, without its sign: the first of the grids with
    one, two, … seventeen significant digits that has a point which rounds to the number. -/
def shortest (x : Binary64) (tie : Tie) : Digits :=
  let i := Interval.around x
  let first := i.leading
  let found := (List.range 17).findSome? fun (k : Nat) => i.onGrid? tie (first - k)
  (found.getD ⟨x.significand, 0⟩).trim

end CapabilityArena.Decimal
