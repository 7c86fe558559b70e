import Mathlib.Data.List.Induction
import Mathlib.Data.List.Nodup
import CapabilityArena.Dictionary.Basic

/-!
Many entries at once. To enter pairs is to lay the dictionary of these pairs over the one that is there; to
erase their keys is to take it off again, which gives back the old dictionary if it had none of the keys.
-/

namespace CapabilityArena.Dictionary

variable {κ ν : Type} [Ord κ] [Std.TransOrd κ] [Std.LawfulEqOrd κ] {d : Dictionary κ ν} {key : κ}
  {value : ν} {pairs : List (κ × ν)}

/-- Erases keys from left to right. -/
def eraseAll (d : Dictionary κ ν) (keys : List κ) : Dictionary κ ν := keys.foldl erase d

theorem insertAll_append (d : Dictionary κ ν) (first last : List (κ × ν)) :
    d.insertAll (first ++ last) = (d.insertAll first).insertAll last :=
  List.foldl_append

omit [Std.TransOrd κ] [Std.LawfulEqOrd κ] in
theorem eraseAll_append (d : Dictionary κ ν) (first last : List κ) :
    d.eraseAll (first ++ last) = (d.eraseAll first).eraseAll last :=
  List.foldl_append

theorem insertAll_concat (d : Dictionary κ ν) (pairs : List (κ × ν)) (pair : κ × ν) :
    d.insertAll (pairs ++ [pair]) = (d.insertAll pairs).insert pair.1 pair.2 :=
  insertAll_append d pairs [pair]

/-- What has been entered hides what was there. -/
theorem get?_insertAll (d : Dictionary κ ν) (pairs : List (κ × ν)) (key : κ) :
    (d.insertAll pairs).get? key = ((ofList pairs).get? key).or (d.get? key) := by
  induction pairs using List.reverseRecOn with
  | nil => rfl
  | append_singleton pairs pair ih =>
    rw [ofList, insertAll_concat, insertAll_concat]
    by_cases hkey : key = pair.1
    · rw [hkey, get?_insert_self, get?_insert_self, Option.some_or]
    · rw [get?_insert_of_ne _ _ hkey, get?_insert_of_ne _ _ hkey, ih, ofList]

/-- Every value is one that has been entered or one that was there. -/
theorem mem_values_insertAll (hmem : value ∈ (d.insertAll pairs).values) :
    value ∈ pairs.map (·.2) ∨ value ∈ d.values := by
  induction pairs generalizing d with
  | nil => exact .inr hmem
  | cons pair pairs ih =>
    rcases ih hmem with hpair | hvalue
    · exact .inl (List.mem_cons_of_mem _ hpair)
    · obtain ⟨entry, hentry, rfl⟩ := List.mem_map.1 hvalue
      rcases Entries.mem_of_mem_insert hentry with rfl | hold
      · exact .inl List.mem_cons_self
      · exact .inr (List.mem_map.2 ⟨entry, hold, rfl⟩)

theorem get?_ofList_append (first last : List (κ × ν)) (key : κ) :
    (ofList (first ++ last)).get? key = ((ofList last).get? key).or ((ofList first).get? key) := by
  rw [ofList, insertAll_append, get?_insertAll, ← ofList]

theorem mem_of_get?_ofList (hfound : (ofList pairs).get? key = some value) : (key, value) ∈ pairs := by
  induction pairs using List.reverseRecOn with
  | nil => cases hfound
  | append_singleton pairs pair ih =>
    rw [ofList, insertAll_concat] at hfound
    by_cases hkey : key = pair.1
    · subst hkey
      rw [get?_insert_self] at hfound
      cases hfound
      simp
    · rw [get?_insert_of_ne _ _ hkey] at hfound
      exact List.mem_append_left _ (ih hfound)

theorem get?_ofList_eq_none_iff : (ofList pairs).get? key = none ↔ key ∉ pairs.map (·.1) := by
  induction pairs using List.reverseRecOn with
  | nil => simp [ofList, insertAll]
  | append_singleton pairs pair ih =>
    rw [ofList, insertAll_concat, List.map_append, List.mem_append, not_or]
    by_cases hkey : key = pair.1
    · simp [hkey]
    · rw [get?_insert_of_ne _ _ hkey, ← ofList, ih]
      simp [hkey]

/-- Pairs whose keys differ are all there. -/
theorem get?_ofList_eq_some_iff (hnodup : (pairs.map (·.1)).Nodup) :
    (ofList pairs).get? key = some value ↔ (key, value) ∈ pairs := by
  refine ⟨mem_of_get?_ofList, fun hmem => ?_⟩
  cases hfound : (ofList pairs).get? key with
  | none => exact absurd (List.mem_map.2 ⟨_, hmem, rfl⟩) (get?_ofList_eq_none_iff.1 hfound)
  | some found =>
    cases List.inj_on_of_nodup_map hnodup (mem_of_get?_ofList hfound) hmem rfl
    rfl

/-- A dictionary is made anew from its entries. -/
theorem ofList_entries (d : Dictionary κ ν) : ofList d.entries = d := by
  refine ext_get? fun key => Option.ext fun value => ?_
  rw [get?_ofList_eq_some_iff d.nodup_keys, mem_entries_iff]

/-- Pairs in the order of their keys are the entries. -/
theorem entries_ofList (hsorted : Entries.Sorted pairs) : (ofList pairs).entries = pairs :=
  congrArg entries (ofList_entries ⟨pairs, hsorted⟩)

theorem contains_ofList_iff : (ofList pairs).contains key = true ↔ key ∈ pairs.map (·.1) := by
  rw [contains, ← not_iff_not, Bool.not_eq_true, Option.isSome_eq_false_iff, Option.isNone_iff_eq_none,
    get?_ofList_eq_none_iff]

/-- And there are as many entries as pairs. -/
theorem size_ofList (hnodup : (pairs.map (·.1)).Nodup) : (ofList pairs).size = pairs.length := by
  induction pairs using List.reverseRecOn with
  | nil => rfl
  | append_singleton pairs pair ih =>
    rw [List.map_append, List.nodup_append] at hnodup
    have hnew : ¬(ofList pairs).contains pair.1 = true := by
      rw [contains_ofList_iff]
      exact fun hmem => hnodup.2.2 pair.1 hmem pair.1 (by simp) rfl
    rw [ofList, insertAll_concat, size_insert, ← ofList, if_neg hnew, ih hnodup.1, List.length_append,
      List.length_singleton]

/-- What is under a key may be said in terms of the key. -/
theorem get?_ofList_map [DecidableEq κ] (keys : List κ) (given : κ → ν) (key : κ) :
    (ofList (keys.map fun key => (key, given key))).get? key = if key ∈ keys then some (given key) else none := by
  cases hfound : (ofList (keys.map fun key => (key, given key))).get? key with
  | none =>
    rw [get?_ofList_eq_none_iff, List.map_map] at hfound
    rw [if_neg (by simpa using hfound)]
  | some value =>
    obtain ⟨found, hmem, hpair⟩ := List.mem_map.1 (mem_of_get?_ofList hfound)
    cases hpair
    rw [if_pos hmem]

/-- Or in terms of what another dictionary has there. -/
theorem get?_ofList_map_entries {μ : Type} (d : Dictionary κ μ) (given : μ → ν) (key : κ) :
    (ofList (d.entries.map fun entry => (entry.1, given entry.2))).get? key = (d.get? key).map given := by
  have hnodup : ((d.entries.map fun entry => (entry.1, given entry.2)).map (·.1)).Nodup := by
    rw [List.map_map]
    exact d.nodup_keys
  refine Option.ext fun value => ?_
  rw [get?_ofList_eq_some_iff hnodup, List.mem_map, Option.map_eq_some_iff]
  constructor
  · rintro ⟨entry, hentry, hpair⟩
    cases hpair
    exact ⟨entry.2, mem_entries_iff.1 hentry, rfl⟩
  · rintro ⟨found, hfound, rfl⟩
    exact ⟨(key, found), mem_entries_iff.2 hfound, rfl⟩

theorem get?_eraseAll_eq_some_iff {keys : List κ} :
    (d.eraseAll keys).get? key = some value ↔ key ∉ keys ∧ d.get? key = some value := by
  induction keys generalizing d with
  | nil => simp [eraseAll]
  | cons first keys ih =>
    rw [eraseAll, List.foldl_cons, ← eraseAll, ih, List.mem_cons, not_or]
    by_cases hkey : key = first
    · simp [hkey]
    · rw [get?_erase_of_ne _ hkey]
      simp [hkey]

/-- Pairs whose keys were free can be taken back. -/
theorem eraseAll_insertAll (hfree : ∀ key ∈ pairs.map (·.1), d.contains key = false) :
    (d.insertAll pairs).eraseAll (pairs.map (·.1)) = d := by
  refine ext_get? fun key => Option.ext fun value => ?_
  rw [get?_eraseAll_eq_some_iff, get?_insertAll]
  by_cases hmem : key ∈ pairs.map (·.1)
  · have hnone := hfree key hmem
    rw [contains, Option.isSome_eq_false_iff, Option.isNone_iff_eq_none] at hnone
    simp [hmem, hnone]
  · simp [hmem, get?_ofList_eq_none_iff.2 hmem]

end CapabilityArena.Dictionary
