import CapabilityArena.Decimal.Numeral
import CapabilityArena.Decimal.Shortest

/-!
Decimal text of binary numbers. The digits are always the shortest that read back; a `Layout` says how
they are set.
-/

namespace CapabilityArena.Decimal

/-- The decisions of one format. A number is set without an exponent when the power of ten of its first
    digit lies between `lowest` and `highest`, as far as these are given. -/
structure Layout where
  lowest : Option Int
  highest : Option Int
  /-- The fraction of a whole number. -/
  wholeFraction : List Char
  tie : Tie

namespace Layout

/-- Display of a value: never an exponent, and a whole number ends with its last digit. -/
def display : Layout := ⟨none, none, [], .up⟩

/-- Numbers in JSON: positional from four zeros after the point to sixteen whole digits, and a whole number
    has the fraction zero. -/
def json : Layout := ⟨some (-5), some 15, ['0'], .even⟩

/-- All digits, with the point where the exponent puts it. -/
def positional (l : Layout) (negative : Bool) (digits : List Char) (exponent : Int) : Numeral :=
  if 0 ≤ exponent then
    ⟨negative, digits ++ List.replicate exponent.toNat '0', l.wholeFraction, none⟩
  else
    let places := (-exponent).toNat
    if places < digits.length then
      ⟨negative, digits.take (digits.length - places), digits.drop (digits.length - places), none⟩
    else ⟨negative, ['0'], List.replicate (places - digits.length) '0' ++ digits, none⟩

/-- One digit before the point and an exponent. -/
def scientific (negative : Bool) (digits : List Char) (power : Int) : Numeral :=
  ⟨negative, digits.take 1, digits.drop 1, some (decide (power < 0), Nat.toDigits 10 power.natAbs)⟩

/-- A finite number set in the layout. -/
def numeral (l : Layout) (x : Binary64) : Numeral :=
  if x.isZero then ⟨x.isNegative, ['0'], l.wholeFraction, none⟩
  else
    let d := shortest x l.tie
    let digits := Nat.toDigits 10 d.digits
    let power := d.exponent + digits.length - 1
    if l.lowest.all (decide <| · ≤ power) && l.highest.all (decide <| power ≤ ·) then
      l.positional x.isNegative digits d.exponent
    else scientific x.isNegative digits power

end Layout

/-- How a value shows a number, infinities and NaN included. -/
def Binary64.display (x : Binary64) : String :=
  if x.isNaN then "NaN"
  else if x.isInfinite then (if x.isNegative then "-inf" else "inf")
  else String.ofList (Layout.display.numeral x).text

end CapabilityArena.Decimal
