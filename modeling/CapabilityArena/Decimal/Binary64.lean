/-!
Binary floating-point numbers of sixty-four bits, kept as their bits. Everything here is exact: a finite
number is `significand * 2 ^ exponent`, and the nearest number to a ratio is found by dividing naturals.
Numbers are equal as data when their bits are; `same` is the arithmetic comparison, for which a NaN
differs from itself and both zeros agree.
-/

namespace CapabilityArena.Decimal

/-- How a value exactly halfway between two neighbours is decided. -/
inductive Tie where
  | up
  | even
  deriving DecidableEq

/-- The quotient rounded to a nearest whole number, a tie going as asked. -/
def roundedQuotient (num den : Nat) (tie : Tie) : Nat :=
  let below := num / den
  let twice := 2 * (num % den)
  if twice < den then below
  else if den < twice then below + 1
  else match tie with
    | .up => below + 1
    | .even => below + below % 2

structure Binary64 where
  bits : UInt64
  deriving DecidableEq

namespace Binary64

/-- The highest bit. -/
def signBit : Nat := 0x8000000000000000

/-- Two to the power of 52, how many numbers have the same sign and exponent. -/
def fractions : Nat := 0x10000000000000

/-- The magnitude of both infinities; NaNs lie above it. -/
def infinite : Nat := 0x7ff0000000000000

/-- The sign bit is set; true of negative numbers, of negative zero and of some NaNs. -/
def isNegative (x : Binary64) : Bool := decide (signBit ≤ x.bits.toNat)

/-- The bits without the sign. -/
def magnitude (x : Binary64) : Nat := x.bits.toNat % signBit

def isNaN (x : Binary64) : Bool := decide (infinite < x.magnitude)

def isInfinite (x : Binary64) : Bool := decide (x.magnitude = infinite)

def isZero (x : Binary64) : Bool := decide (x.magnitude = 0)

/-- The whole number that is scaled by a power of two; below `2 ^ 52` for the smallest numbers only. -/
def significand (x : Binary64) : Nat :=
  if x.magnitude < fractions then x.magnitude else fractions + x.magnitude % fractions

/-- The power of two that scales the significand. -/
def exponent (x : Binary64) : Int :=
  if x.magnitude < fractions then -1074 else (x.magnitude / fractions : Nat) - 1075

/-- Arithmetic equality. -/
def same (x y : Binary64) : Bool :=
  !x.isNaN && !y.isNaN && (x == y || (x.isZero && y.isZero))

def ofMagnitude (negative : Bool) (magnitude : Nat) : Binary64 :=
  ⟨UInt64.ofNat (if negative then signBit + magnitude else magnitude)⟩

def infinity (negative : Bool) : Binary64 := ofMagnitude negative infinite

def nan : Binary64 := ⟨0x7ff8000000000000⟩

def neg (x : Binary64) : Binary64 := ofMagnitude (!x.isNegative) x.magnitude

/-- Numerator and denominator of the value of a finite number, without its sign. -/
def ratio (x : Binary64) : Nat × Nat :=
  (x.significand <<< x.exponent.toNat, 1 <<< (-x.exponent).toNat)

/-- The number nearest to `num / den`, a tie going to the even significand. A significand that is rounded
    up to `2 ^ 53` carries into the exponent by itself, and so does the largest number into infinity. -/
def ofRatio (negative : Bool) (num den : Nat) : Binary64 :=
  if num = 0 then ofMagnitude negative 0 else
  let estimate : Int := (Nat.log2 num : Int) - Nat.log2 den - 53
  let scaled (q : Int) : Nat × Nat := (num <<< (-q).toNat, den <<< q.toNat)
  let first := scaled estimate
  let fitted := if first.1 / first.2 < 2 * fractions then estimate else estimate + 1
  let q := max fitted (-1074)
  let (n, d) := scaled q
  let m := roundedQuotient n d .even
  let magnitude := if m < fractions then m else (q + 1075).toNat * fractions + (m - fractions)
  ofMagnitude negative (min magnitude infinite)

def ofNat (n : Nat) : Binary64 := ofRatio false n 1

/-- The number nearest to `digits * 10 ^ exponent`. Far outside the range the answer is known without
    building the power. -/
def ofDecimal (negative : Bool) (digits : Nat) (exponent : Int) : Binary64 :=
  let width : Int := ((Nat.toDigits 10 digits).length : Nat)
  if digits = 0 ∨ width + exponent < -400 then ofMagnitude negative 0
  else if 400 < width + exponent then infinity negative
  else ofRatio negative (digits * Nat.pow 10 exponent.toNat) (Nat.pow 10 (-exponent).toNat)

/-- The product of two finite numbers, rounded once. -/
def mul (x y : Binary64) : Binary64 :=
  ofRatio (x.isNegative != y.isNegative) (x.ratio.1 * y.ratio.1) (x.ratio.2 * y.ratio.2)

/-- The quotient of a finite number by a finite number other than zero, rounded once. -/
def div (x y : Binary64) : Binary64 :=
  ofRatio (x.isNegative != y.isNegative) (x.ratio.1 * y.ratio.2) (x.ratio.2 * y.ratio.1)

end Binary64

end CapabilityArena.Decimal
