import Mathlib.Algebra.Ring.Nat
import CapabilityArena.Address
import CapabilityArena.Proofs.Decimal.Whole

/-!
The word of an address in natural numbers: arena and offset are its two halves, so they come back from it
and determine it. The upper half decides the order of two words unless it is the same in both. An address
shows as its two halves in decimal digits with a colon between them, which is enough to tell it from every other.
-/

namespace CapabilityArena.Address

theorem raw_ofParts (arena : ArenaId) (offset : UInt32) :
    (ofParts arena offset).raw.toNat = arena.number.toNat * 2 ^ 32 + offset.toNat := by
  have harena := arena.number.toNat_lt
  have hoffset := offset.toNat_lt
  simp only [ofParts, UInt64.toNat_or, UInt64.toNat_shiftLeft, UInt32.toNat_toUInt64]
  rw [show (32 : UInt64).toNat % 64 = 32 from rfl, Nat.mod_eq_of_lt (by rw [Nat.shiftLeft_eq]; omega),
    ← Nat.shiftLeft_add_eq_or_of_lt hoffset, Nat.shiftLeft_eq]

theorem toNat_arena (a : Address) : a.arena.number.toNat = a.raw.toNat / 2 ^ 32 := by
  have hraw := a.raw.toNat_lt
  simp only [arena, UInt64.toNat_toUInt32, UInt64.toNat_shiftRight]
  rw [show (32 : UInt64).toNat % 64 = 32 from rfl, Nat.shiftRight_eq_div_pow]
  omega

theorem toNat_offset (a : Address) : a.offset.toNat = a.raw.toNat % 2 ^ 32 := by
  simp only [offset, UInt64.toNat_toUInt32, UInt64.toNat_and]
  rw [show (0xffffffff : UInt64).toNat = 2 ^ 32 - 1 from rfl, Nat.and_two_pow_sub_one_eq_mod]
  omega

@[simp] theorem arena_ofParts (arena : ArenaId) (offset : UInt32) :
    (ofParts arena offset).arena = arena := by
  cases arena with
  | mk number =>
    have hoffset := offset.toNat_lt
    refine congrArg ArenaId.mk (UInt32.toNat.inj ?_)
    have h := toNat_arena (ofParts ⟨number⟩ offset)
    rw [raw_ofParts] at h
    change (ofParts ⟨number⟩ offset).arena.number.toNat = number.toNat
    simp only at h
    omega

@[simp] theorem offset_ofParts (arena : ArenaId) (offset : UInt32) :
    (ofParts arena offset).offset = offset := by
  have hoffset := offset.toNat_lt
  apply UInt32.toNat.inj
  rw [toNat_offset, raw_ofParts]
  omega

theorem eq_of_parts {a b : Address} (harena : a.arena = b.arena) (hoffset : a.offset = b.offset) :
    a = b := by
  have h1 := congrArg (fun id : ArenaId => id.number.toNat) harena
  have h2 := congrArg UInt32.toNat hoffset
  simp only [toNat_arena, toNat_offset] at h1 h2
  cases a
  cases b
  refine congrArg Address.mk (UInt64.toNat.inj ?_)
  simp only at h1 h2
  omega

variable {a b : Address}

theorem ofParts_arena_offset (a : Address) : ofParts a.arena a.offset = a :=
  eq_of_parts (arena_ofParts a.arena a.offset) (offset_ofParts a.arena a.offset)

theorem toNat_raw (a : Address) : a.raw.toNat = a.arena.number.toNat * 2 ^ 32 + a.offset.toNat := by
  rw [toNat_arena, toNat_offset]
  omega

/-- The upper half comes first. -/
theorem raw_lt_of_arena_lt (harena : a.arena.number < b.arena.number) : a.raw < b.raw := by
  have hoffset := a.offset.toNat_lt
  rw [UInt32.lt_iff_toNat_lt] at harena
  rw [UInt64.lt_iff_toNat_lt, toNat_raw, toNat_raw]
  omega

theorem raw_lt_iff_of_arena_eq (harena : a.arena = b.arena) : a.raw < b.raw ↔ a.offset < b.offset := by
  rw [UInt64.lt_iff_toNat_lt, UInt32.lt_iff_toNat_lt, toNat_raw, toNat_raw, harena]
  omega

theorem compare_raw (a b : Address) :
    compare a.raw b.raw = (compare a.arena b.arena).then (compare a.offset b.offset) := by
  cases harena : compare a.arena b.arena with
  | lt => exact Std.compare_eq_lt.2 (raw_lt_of_arena_lt (Std.compare_eq_lt.1 harena))
  | gt => exact Std.compare_eq_gt.2 (raw_lt_of_arena_lt (Std.compare_eq_gt.1 harena))
  | eq =>
    have hsame : a.arena = b.arena := Std.compare_eq_iff_eq.1 harena
    cases hoffset : compare a.offset b.offset with
    | lt =>
      apply Std.compare_eq_lt.2
      exact (raw_lt_iff_of_arena_eq hsame).2 (Std.compare_eq_lt.1 hoffset)
    | gt =>
      apply Std.compare_eq_gt.2
      exact (raw_lt_iff_of_arena_eq hsame.symm).2 (Std.compare_eq_gt.1 hoffset)
    | eq =>
      apply Std.compare_eq_iff_eq.2
      exact congrArg raw (eq_of_parts hsame (Std.compare_eq_iff_eq.1 hoffset))

theorem toList_text (a : Address) :
    a.text.toList = '@' :: (Nat.toDigits 10 a.arena.number.toNat ++ ':' :: Nat.toDigits 10 a.offset.toNat) := by
  simp [text]

/-- The colon is no digit, so it is seen where the arena ends. -/
theorem eq_of_text_eq (htext : a.text = b.text) : a = b := by
  have hchars := congrArg String.toList htext
  rw [toList_text, toList_text] at hchars
  obtain ⟨harena, hoffset⟩ := Decimal.toDigits_append_inj (by decide) (List.cons.inj hchars).2
  apply eq_of_parts
  · exact congrArg ArenaId.mk (UInt32.toNat.inj harena)
  · exact UInt32.toNat.inj (Decimal.eq_of_toDigits_eq hoffset)

/-- Packing arena and offset into a word is a bijection that keeps the order: both halves come back from the word,
    every word is that of its own halves, and words compare as their arenas do and, in one arena, as their offsets
    do. The text of an address determines it. -/
theorem packing_order_bijection (arena : ArenaId) (offset : UInt32) (raw : UInt64) (a b : Address) :
    (ofParts arena offset).arena = arena ∧ (ofParts arena offset).offset = offset ∧
    (ofParts (mk raw).arena (mk raw).offset).raw = raw ∧
    compare a.raw b.raw = (compare a.arena b.arena).then (compare a.offset b.offset) ∧
    (a.text = b.text ↔ a = b) := by
  refine ⟨arena_ofParts arena offset, offset_ofParts arena offset, ?_, compare_raw a b, eq_of_text_eq, ?_⟩
  · rw [ofParts_arena_offset]
  · intro hsame
    rw [hsame]

end CapabilityArena.Address
