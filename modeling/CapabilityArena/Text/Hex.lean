/-!
Hexadecimal text. Digits are written in lower case and read in either case; `digitValue?_digit` says that
reading a written digit gives it back.
-/

namespace CapabilityArena.Text.Hex

/-- The lower-case digit of a number below sixteen; larger numbers have no digit and give `f`. -/
def digit (n : Nat) : Char :=
  if n < 10 then Char.ofNat ('0'.toNat + n)
  else if n < 16 then Char.ofNat ('a'.toNat + (n - 10))
  else 'f'

/-- The number that a digit of either case stands for. -/
def digitValue? (c : Char) : Option Nat :=
  if '0'.toNat ≤ c.toNat ∧ c.toNat ≤ '9'.toNat then some (c.toNat - '0'.toNat)
  else if 'a'.toNat ≤ c.toNat ∧ c.toNat ≤ 'f'.toNat then some (c.toNat - 'a'.toNat + 10)
  else if 'A'.toNat ≤ c.toNat ∧ c.toNat ≤ 'F'.toNat then some (c.toNat - 'A'.toNat + 10)
  else none

/-- The value of a run of digits, the most significant first. -/
def valueOf? (cs : List Char) : Option Nat :=
  cs.foldlM (fun n c => (digitValue? c).map (16 * n + ·)) 0

/-- Exactly `width` digits of a number; digits above that width are dropped. -/
def padded : (width : Nat) → Nat → List Char
  | 0, _ => []
  | width + 1, n => padded width (n / 16) ++ [digit (n % 16)]

/-- As many digits as the number needs, at least one. -/
def plain (n : Nat) : List Char := Nat.toDigits 16 n

/-- Two digits for every byte. -/
def ofBytes (bytes : List UInt8) : List Char :=
  bytes.flatMap fun b => [digit (b.toNat / 16), digit (b.toNat % 16)]

theorem digitValue?_digit {n : Nat} (hsmall : n < 16) : digitValue? (digit n) = some n := by
  revert n
  decide

theorem length_ofBytes (bytes : List UInt8) : (ofBytes bytes).length = 2 * bytes.length := by
  induction bytes with
  | nil => rfl
  | cons b bytes ih =>
    have hcons : ofBytes (b :: bytes) =
        digit (b.toNat / 16) :: digit (b.toNat % 16) :: ofBytes bytes := rfl
    simp [hcons, ih]
    omega

end CapabilityArena.Text.Hex
