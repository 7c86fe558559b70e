import Mathlib.Algebra.Ring.Nat
import CapabilityArena.Text.Hex

/-!
Hexadecimal digits and what they spell. Bytes are spelled by two digits each, of either case; the written
form spells the bytes it was written for, and so does its upper-case form.
-/

namespace CapabilityArena.Text.Hex

variable {c : Char} {cs : List Char} {n : Nat} {bytes : List UInt8}

/-- A hexadecimal digit of either case. -/
def IsDigit (c : Char) : Prop :=
  ('0' ≤ c ∧ c ≤ '9') ∨ ('a' ≤ c ∧ c ≤ 'f') ∨ ('A' ≤ c ∧ c ≤ 'F')

/-- Two digits for every byte, the high one first. -/
inductive Spells : List Char → List UInt8 → Prop where
  | nil : Spells [] []
  | cons {high low : Char} {h l : Nat} {cs : List Char} {bytes : List UInt8}
    (hhigh : digitValue? high = some h) (hlow : digitValue? low = some l) (hrest : Spells cs bytes) :
    Spells (high :: low :: cs) (UInt8.ofNat (16 * h + l) :: bytes)

theorem valueOf?_append (cs : List Char) (c : Char) :
    valueOf? (cs ++ [c]) = (valueOf? cs).bind fun n => (digitValue? c).map (16 * n + ·) := by
  simp [valueOf?, List.foldlM_append]

/-- The padded form of a number is read back, less what did not fit the width. -/
theorem valueOf?_padded (width n : Nat) : valueOf? (padded width n) = some (n % 16 ^ width) := by
  induction width generalizing n with
  | zero => simp [padded, valueOf?, Nat.mod_one]
  | succ width ih =>
    have hdigit := digitValue?_digit (Nat.mod_lt n (show 0 < 16 by omega))
    rw [padded, valueOf?_append, ih, hdigit, Option.bind_some, Option.map_some, Nat.pow_succ',
      Nat.mod_mul, Nat.add_comm]

theorem le_iff_toNat_le {a b : Char} : a ≤ b ↔ a.toNat ≤ b.toNat := Iff.rfl

theorem isDigit_of_digitValue? (hvalue : digitValue? c = some n) : IsDigit c := by
  unfold digitValue? at hvalue
  simp only [IsDigit, le_iff_toNat_le]
  split at hvalue
  next hdecimal => exact .inl hdecimal
  split at hvalue
  next hlower => exact .inr (.inl hlower)
  split at hvalue
  next hupper => exact .inr (.inr hupper)
  next => cases hvalue

theorem lt_of_isDigit (hdigit : IsDigit c) : c.toNat < 128 := by
  simp only [IsDigit, le_iff_toNat_le] at hdigit
  have h9 : '9'.toNat = 57 := rfl
  have hf : 'f'.toNat = 102 := rfl
  have hF : 'F'.toNat = 70 := rfl
  omega

/-- Letters from `a` to `z` are moved by thirty-two places, and nothing else is moved. -/
theorem toNat_toUpper (c : Char) :
    c.toUpper.toNat = if 97 ≤ c.toNat ∧ c.toNat ≤ 122 then c.toNat - 32 else c.toNat := by
  have hletter : ('a'.val ≤ c.val ∧ c.val ≤ 'z'.val) ↔ (97 ≤ c.toNat ∧ c.toNat ≤ 122) := Iff.rfl
  unfold Char.toUpper
  split
  next h =>
    rw [if_pos (hletter.1 h)]
    have hrange := hletter.1 h
    change (c.val + ('A'.val - 'a'.val)).toNat = c.val.toNat - 32
    change 97 ≤ c.val.toNat ∧ c.val.toNat ≤ 122 at hrange
    rw [UInt32.toNat_add]
    have hstep : ('A'.val - 'a'.val).toNat = 2 ^ 32 - 32 := rfl
    omega
  next h => rw [if_neg fun hrange => h (hletter.2 hrange)]

/-- The case of a digit does not matter. -/
theorem digitValue?_toUpper (c : Char) : digitValue? c.toUpper = digitValue? c := by
  have hupper := toNat_toUpper c
  simp only [digitValue?, show '0'.toNat = 48 from rfl, show '9'.toNat = 57 from rfl,
    show 'a'.toNat = 97 from rfl, show 'f'.toNat = 102 from rfl, show 'A'.toNat = 65 from rfl,
    show 'F'.toNat = 70 from rfl]
  split at hupper <;> grind

theorem Spells.isDigit (hspells : Spells cs bytes) : ∀ c ∈ cs, IsDigit c := by
  induction hspells with
  | nil => simp
  | cons hhigh hlow _ ih =>
    exact List.forall_mem_cons.2 ⟨isDigit_of_digitValue? hhigh,
      List.forall_mem_cons.2 ⟨isDigit_of_digitValue? hlow, ih⟩⟩

theorem Spells.toUpper (hspells : Spells cs bytes) : Spells (cs.map Char.toUpper) bytes := by
  induction hspells with
  | nil => exact .nil
  | cons hhigh hlow _ ih =>
    exact .cons ((digitValue?_toUpper _).trans hhigh) ((digitValue?_toUpper _).trans hlow) ih

/-- Digits spell one list of bytes. -/
theorem Spells.unique {other : List UInt8} (hspells : Spells cs bytes) (hother : Spells cs other) :
    bytes = other := by
  induction hspells generalizing other with
  | nil =>
    cases hother
    rfl
  | cons hhigh hlow _ ih =>
    obtain _ | ⟨hhigh', hlow', hrest'⟩ := hother
    cases hhigh.symm.trans hhigh'
    cases hlow.symm.trans hlow'
    rw [ih hrest']

theorem spells_ofBytes (bytes : List UInt8) : Spells (ofBytes bytes) bytes := by
  induction bytes with
  | nil => exact .nil
  | cons b bytes ih =>
    have hbyte := b.toNat_lt
    have hhigh := digitValue?_digit (show b.toNat / 16 < 16 by omega)
    have hlow := digitValue?_digit (show b.toNat % 16 < 16 by omega)
    have hspells := Spells.cons hhigh hlow ih
    rwa [Nat.div_add_mod, UInt8.ofNat_toNat] at hspells

end CapabilityArena.Text.Hex
