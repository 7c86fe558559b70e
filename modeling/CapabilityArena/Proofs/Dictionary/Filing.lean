import Mathlib.Data.List.Nodup
import CapabilityArena.Dictionary.Basic

/-!
Dictionaries that file things under names of their own. Such a dictionary is determined by the things that
are in it.
-/

namespace CapabilityArena.Dictionary

variable {κ ν : Type} [Ord κ]

/-- Names are keys in increasing order. -/
theorem pairwise_keys (d : Dictionary String ν) : d.keys.Pairwise (· < ·) :=
  List.pairwise_map.2 (d.sorted.imp compareOfLessAndEq_eq_lt.1)

/-- The dictionary files exactly the things of a kind, each under its own name. -/
def Files (d : Dictionary κ ν) (name : ν → κ) (kind : ν → Prop) : Prop :=
  ∀ key value, d.get? key = some value ↔ kind value ∧ name value = key

namespace Files

variable {d other : Dictionary κ ν} {name : ν → κ} {kind same : ν → Prop}

theorem congr (hfiles : d.Files name kind) (hsame : ∀ value, kind value ↔ same value) :
    d.Files name same :=
  fun key value => (hfiles key value).trans (and_congr_left fun _ => hsame value)

theorem contains_iff (hfiles : d.Files name kind) {key : κ} :
    d.contains key = true ↔ ∃ value, kind value ∧ name value = key := by
  rw [contains, Option.isSome_iff_exists]
  exact exists_congr fun value => hfiles key value

variable [Std.TransOrd κ] [Std.LawfulEqOrd κ]

/-- A thing whose name is free can be filed. -/
theorem insert (hfiles : d.Files name kind) {new : ν}
    (hfree : ∀ value, kind value → name value ≠ name new) :
    (d.insert (name new) new).Files name fun value => kind value ∨ value = new := by
  intro key value
  by_cases hkey : key = name new
  · rw [hkey, get?_insert_self, Option.some.injEq]
    constructor
    · rintro rfl
      exact ⟨.inr rfl, rfl⟩
    · rintro ⟨hold | hnew, hname⟩
      · exact absurd hname (hfree value hold)
      · exact hnew.symm
  · rw [get?_insert_of_ne _ _ hkey, hfiles]
    refine ⟨fun hold => ⟨.inl hold.1, hold.2⟩, ?_⟩
    rintro ⟨hold | rfl, hname⟩
    · exact ⟨hold, hname⟩
    · exact absurd hname.symm hkey

theorem mem_values_iff (hfiles : d.Files name kind) {value : ν} : value ∈ d.values ↔ kind value := by
  constructor
  · intro hmem
    obtain ⟨⟨key, found⟩, hentry, rfl⟩ := List.mem_map.1 hmem
    exact ((hfiles key found).1 (mem_entries_iff.1 hentry)).1
  · intro hkind
    have hentry := mem_entries_iff.2 ((hfiles (name value) value).2 ⟨hkind, rfl⟩)
    exact List.mem_map.2 ⟨(name value, value), hentry, rfl⟩

/-- Keys and values come in the same order. -/
theorem keys_eq (hfiles : d.Files name kind) : d.keys = d.values.map name := by
  rw [keys, values, List.map_map]
  exact List.map_congr_left fun entry hentry => ((hfiles _ _).1 (mem_entries_iff.1 hentry)).2.symm

/-- Things whose names differ are filed in another order than the one they come in, if at all. -/
theorem values_perm {things : List ν} (hfiles : d.Files name (· ∈ things)) (hnodup : (things.map name).Nodup) :
    d.values.Perm things := by
  have hkeys := d.nodup_keys
  rw [hfiles.keys_eq] at hkeys
  exact (List.perm_ext_iff_of_nodup (.of_map name hkeys) (.of_map name hnodup)).2 fun _ => hfiles.mem_values_iff

theorem unique (hfiles : d.Files name kind) (hother : other.Files name kind) : d = other := by
  refine ext_get? fun key => Option.ext fun value => ?_
  rw [hfiles, hother]

end Files

end CapabilityArena.Dictionary
