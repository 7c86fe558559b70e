import CapabilityArena.Decimal.Binary64

/-!
Decimal text in its parts, and the two ways in which this library turns it into a binary number: to the
nearest one, and by scaling a significand of sixty-four bits.
-/

namespace CapabilityArena.Decimal

/-- The parts of decimal text. Digits are kept as written, since scaling depends on how many there are. -/
structure Numeral where
  negative : Bool
  whole : List Char
  fraction : List Char
  /-- The sign (true below zero) and the digits of the power of ten. -/
  exponent : Option (Bool × List Char)
  deriving DecidableEq

/-- A positive exponent is written with its sign. -/
def exponentText : Option (Bool × List Char) → List Char
  | none => []
  | some (below, digits) => 'e' :: (if below then '-' else '+') :: digits

def digitsValue (digits : List Char) : Nat :=
  digits.foldl (fun n c => 10 * n + (c.toNat - '0'.toNat)) 0

namespace Numeral

def text (n : Numeral) : List Char :=
  (if n.negative then ['-'] else []) ++ n.whole ++
    (if n.fraction.isEmpty then [] else '.' :: n.fraction) ++ exponentText n.exponent

def ofInt (i : Int) : Numeral := ⟨decide (i < 0), Nat.toDigits 10 i.natAbs, [], none⟩

/-- The power of ten that is written out. -/
def writtenExponent (n : Numeral) : Int :=
  match n.exponent with
  | none => 0
  | some (below, digits) => if below then -(digitsValue digits : Int) else digitsValue digits

/-- The whole number of a numeral without fraction and exponent, if it fits sixty-four bits: unsigned
    without a sign, signed with one. Negative zero is no whole number. -/
def integer? (n : Numeral) : Option Int :=
  if n.fraction.isEmpty && n.exponent.isNone then
    let value := digitsValue n.whole
    if n.negative then
      if 0 < value ∧ value ≤ 0x8000000000000000 then some (-(value : Int)) else none
    else if value < 0x10000000000000000 then some value else none
  else none

/-- The number nearest to the decimal. -/
def nearest (n : Numeral) : Binary64 :=
  Binary64.ofDecimal n.negative (digitsValue (n.whole ++ n.fraction))
    (n.writtenExponent - n.fraction.length)

/-- Takes digits into a significand for as long as it fits sixty-four bits. -/
def significand : Nat → List Char → Nat × List Char
  | taken, [] => (taken, [])
  | taken, c :: rest =>
    let next := 10 * taken + (c.toNat - '0'.toNat)
    if next < 0x10000000000000000 then significand next rest else (taken, c :: rest)

/-- `f * 10 ^ e` in steps of one power each, the largest power being `10 ^ 308`; none when the result is
    too large. Dividing more than twice by the largest power leaves zero, so the rounds always suffice. -/
def scale : (rounds : Nat) → Binary64 → Int → Option Binary64
  | 0, f, _ => some f
  | rounds + 1, f, e =>
    if e.natAbs ≤ 308 then
      let power := Binary64.ofNat (Nat.pow 10 e.natAbs)
      if 0 ≤ e then
        let product := f.mul power
        if product.isInfinite then none else some product
      else some (f.div power)
    else if f.isZero then some f
    else if 0 ≤ e then none
    else scale rounds (f.div (Binary64.ofNat (Nat.pow 10 308))) (e + 308)

/-- The number got by scaling the leading digits. Digits of the whole part that no longer fit count as
    powers of ten; those of the fraction are dropped. -/
def scaled? (n : Numeral) : Option Binary64 :=
  let (whole, left) := significand 0 n.whole
  let (all, dropped) := significand whole n.fraction
  let e : Int := n.writtenExponent + left.length - (n.fraction.length - dropped.length : Nat)
  (scale (e.natAbs / 308 + 1) (Binary64.ofNat all) e).map fun f => if n.negative then f.neg else f

end Numeral

end CapabilityArena.Decimal
