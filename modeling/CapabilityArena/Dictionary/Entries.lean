/-!
Lists of entries in increasing key order, the representation of a dictionary. A list in this order has at
most one entry for a key, and two such lists that answer every look-up alike are the same list
(`lookup_ext`), so what a dictionary holds determines it.
-/

namespace CapabilityArena.Entries

variable {κ ν : Type} [Ord κ]

/-- The keys increase from each entry to every later one. -/
def Sorted (entries : List (κ × ν)) : Prop :=
  entries.Pairwise fun a b => compare a.1 b.1 = .lt

instance (entries : List (κ × ν)) : Decidable (Sorted entries) :=
  inferInstanceAs (Decidable (entries.Pairwise fun a b => compare a.1 b.1 = .lt))

def lookup (key : κ) : List (κ × ν) → Option ν
  | [] => none
  | (k, v) :: rest =>
    match compare key k with
    | .lt => none
    | .eq => some v
    | .gt => lookup key rest

/-- Puts an entry in its place; an entry with the same key gives way to it. -/
def insert (key : κ) (value : ν) : List (κ × ν) → List (κ × ν)
  | [] => [(key, value)]
  | (k, v) :: rest =>
    match compare key k with
    | .lt => (key, value) :: (k, v) :: rest
    | .eq => (key, value) :: rest
    | .gt => (k, v) :: insert key value rest

def erase (key : κ) : List (κ × ν) → List (κ × ν)
  | [] => []
  | (k, v) :: rest =>
    match compare key k with
    | .lt => (k, v) :: rest
    | .eq => rest
    | .gt => (k, v) :: erase key rest

theorem sorted_nil : Sorted ([] : List (κ × ν)) := List.Pairwise.nil

theorem sorted_cons {entry : κ × ν} {entries : List (κ × ν)} :
    Sorted (entry :: entries) ↔
      (∀ e ∈ entries, compare entry.1 e.1 = .lt) ∧ Sorted entries :=
  List.pairwise_cons

theorem mem_of_mem_insert {key : κ} {value : ν} {entry : κ × ν} {entries : List (κ × ν)}
    (hmem : entry ∈ insert key value entries) : entry = (key, value) ∨ entry ∈ entries := by
  induction entries with
  | nil => simpa [insert] using hmem
  | cons head rest ih =>
    obtain ⟨k, v⟩ := head
    simp only [insert] at hmem
    split at hmem
    · simpa using hmem
    · rcases List.mem_cons.1 hmem with h | h
      · exact .inl h
      · exact .inr (List.mem_cons_of_mem _ h)
    · rcases List.mem_cons.1 hmem with h | h
      · exact .inr (h ▸ List.mem_cons_self)
      · exact (ih h).imp_right (List.mem_cons_of_mem _)

theorem mem_of_mem_erase {key : κ} {entry : κ × ν} {entries : List (κ × ν)}
    (hmem : entry ∈ erase key entries) : entry ∈ entries := by
  induction entries with
  | nil => exact hmem
  | cons head rest ih =>
    obtain ⟨k, v⟩ := head
    simp only [erase] at hmem
    split at hmem
    · exact hmem
    · exact List.mem_cons_of_mem _ hmem
    · rcases List.mem_cons.1 hmem with h | h
      · exact h ▸ List.mem_cons_self
      · exact List.mem_cons_of_mem _ (ih h)

theorem mem_of_lookup {key : κ} {value : ν} {entries : List (κ × ν)} [Std.LawfulEqOrd κ]
    (hfound : lookup key entries = some value) : (key, value) ∈ entries := by
  induction entries with
  | nil => simp [lookup] at hfound
  | cons head rest ih =>
    obtain ⟨k, v⟩ := head
    simp only [lookup] at hfound
    split at hfound
    · cases hfound
    next h =>
      cases hfound
      rw [Std.compare_eq_iff_eq.1 h]
      exact List.mem_cons_self
    · exact List.mem_cons_of_mem _ (ih hfound)

theorem length_insert (key : κ) (value : ν) (entries : List (κ × ν)) :
    (insert key value entries).length =
      if (lookup key entries).isSome then entries.length else entries.length + 1 := by
  induction entries with
  | nil => rfl
  | cons head rest ih =>
    obtain ⟨k, v⟩ := head
    cases hk : compare key k with
    | lt => simp [insert, lookup, hk]
    | eq => simp [insert, lookup, hk]
    | gt =>
      simp only [insert, lookup, hk, List.length_cons, ih]
      split <;> rfl

theorem length_erase (key : κ) (entries : List (κ × ν)) :
    (erase key entries).length =
      if (lookup key entries).isSome then entries.length - 1 else entries.length := by
  induction entries with
  | nil => rfl
  | cons head rest ih =>
    obtain ⟨k, v⟩ := head
    cases hk : compare key k with
    | lt => simp [erase, lookup, hk]
    | eq => simp [erase, lookup, hk]
    | gt =>
      simp only [erase, lookup, hk, List.length_cons, ih]
      split
      next hfound =>
        have hpos : 0 < rest.length := by
          cases rest with
          | nil => cases hfound
          | cons => exact Nat.succ_pos _
        omega
      next => rfl

section Lawful

variable [Std.TransOrd κ] [Std.LawfulEqOrd κ]

theorem sorted_insert {key : κ} {value : ν} {entries : List (κ × ν)} (hsorted : Sorted entries) :
    Sorted (insert key value entries) := by
  induction entries with
  | nil => simp [insert, Sorted]
  | cons head rest ih =>
    obtain ⟨k, v⟩ := head
    obtain ⟨hhead, hrest⟩ := sorted_cons.1 hsorted
    simp only [insert]
    split
    next h =>
      refine sorted_cons.2 ⟨fun e he => ?_, hsorted⟩
      rcases List.mem_cons.1 he with rfl | he
      · exact h
      · exact Std.TransCmp.lt_trans h (hhead e he)
    next h =>
      rw [Std.compare_eq_iff_eq.1 h]
      exact sorted_cons.2 ⟨hhead, hrest⟩
    next h =>
      refine sorted_cons.2 ⟨fun e he => ?_, ih hrest⟩
      rcases mem_of_mem_insert he with rfl | he
      · exact Std.OrientedCmp.gt_iff_lt.1 h
      · exact hhead e he

omit [Std.TransOrd κ] [Std.LawfulEqOrd κ] in
theorem sorted_erase {key : κ} {entries : List (κ × ν)} (hsorted : Sorted entries) :
    Sorted (erase key entries) := by
  induction entries with
  | nil => exact hsorted
  | cons head rest ih =>
    obtain ⟨k, v⟩ := head
    obtain ⟨hhead, hrest⟩ := sorted_cons.1 hsorted
    simp only [erase]
    split
    · exact hsorted
    · exact hrest
    · exact sorted_cons.2 ⟨fun e he => hhead e (mem_of_mem_erase he), ih hrest⟩

omit [Std.TransOrd κ] [Std.LawfulEqOrd κ] in
theorem lookup_eq_none_of_forall_lt {key : κ} {entries : List (κ × ν)}
    (hbelow : ∀ e ∈ entries, compare key e.1 = .lt) : lookup key entries = none := by
  cases entries with
  | nil => rfl
  | cons head rest => simp [lookup, hbelow head List.mem_cons_self]

theorem lookup_insert {key : κ} {value : ν} {entries : List (κ × ν)} (query : κ) :
    lookup query (insert key value entries) =
      if compare query key = .eq then some value else lookup query entries := by
  induction entries with
  | nil =>
    simp only [insert, lookup]
    cases compare query key <;> simp
  | cons head rest ih =>
    obtain ⟨k, v⟩ := head
    simp only [insert]
    split
    next h =>
      simp only [lookup]
      cases hq : compare query key with
      | eq => simp
      | lt => simp [Std.TransCmp.lt_trans hq h]
      | gt => simp
    next h =>
      cases Std.compare_eq_iff_eq.1 h
      simp only [lookup]
      cases compare query key <;> simp
    next h =>
      simp only [lookup, ih]
      have hk : compare k key = .lt := Std.OrientedCmp.gt_iff_lt.1 h
      cases hq : compare query k with
      | lt =>
        have hlt : compare query key = .lt := Std.TransCmp.lt_trans hq hk
        simp [hlt]
      | eq =>
        cases Std.compare_eq_iff_eq.1 hq
        simp [hk]
      | gt => rfl

theorem lookup_erase {key : κ} {entries : List (κ × ν)} (hsorted : Sorted entries) (query : κ) :
    lookup query (erase key entries) =
      if compare query key = .eq then none else lookup query entries := by
  induction entries with
  | nil => simp [erase, lookup]
  | cons head rest ih =>
    obtain ⟨k, v⟩ := head
    obtain ⟨hhead, hrest⟩ := sorted_cons.1 hsorted
    simp only [erase]
    split
    next h =>
      by_cases hq : compare query key = .eq
      · cases Std.compare_eq_iff_eq.1 hq
        simp [lookup, h, Std.ReflCmp.compare_self]
      · simp [hq]
    next h =>
      cases Std.compare_eq_iff_eq.1 h
      by_cases hq : compare query key = .eq
      · cases Std.compare_eq_iff_eq.1 hq
        simp [Std.ReflCmp.compare_self, lookup_eq_none_of_forall_lt hhead]
      · simp only [hq, ↓reduceIte, lookup]
        cases hc : compare query key with
        | lt =>
          exact lookup_eq_none_of_forall_lt fun e he => Std.TransCmp.lt_trans hc (hhead e he)
        | eq => exact absurd hc hq
        | gt => rfl
    next h =>
      simp only [lookup, ih hrest]
      by_cases hq : compare query key = .eq
      · cases Std.compare_eq_iff_eq.1 hq
        simp [h, Std.ReflCmp.compare_self]
      · simp [hq]

theorem lookup_of_mem {key : κ} {value : ν} {entries : List (κ × ν)} (hsorted : Sorted entries)
    (hmem : (key, value) ∈ entries) : lookup key entries = some value := by
  induction entries with
  | nil => cases hmem
  | cons head rest ih =>
    obtain ⟨k, v⟩ := head
    obtain ⟨hhead, hrest⟩ := sorted_cons.1 hsorted
    rcases List.mem_cons.1 hmem with h | h
    · cases h
      simp [lookup, Std.ReflCmp.compare_self]
    · have hlt := hhead _ h
      simp only [lookup, Std.OrientedCmp.gt_iff_lt.2 hlt]
      exact ih hrest h

/-- What can be looked up determines a sorted list. -/
theorem lookup_ext {left right : List (κ × ν)} (hleft : Sorted left) (hright : Sorted right)
    (hsame : ∀ key, lookup key left = lookup key right) : left = right := by
  induction left generalizing right with
  | nil =>
    cases right with
    | nil => rfl
    | cons head rest =>
      have := hsame head.1
      simp [lookup, Std.ReflCmp.compare_self] at this
  | cons head rest ih =>
    obtain ⟨k, v⟩ := head
    obtain ⟨hhead, hrest⟩ := sorted_cons.1 hleft
    have hfound : lookup k right = some v := by
      rw [← hsame]
      simp [lookup, Std.ReflCmp.compare_self]
    cases right with
    | nil => simp [lookup] at hfound
    | cons other others =>
      obtain ⟨k', v'⟩ := other
      obtain ⟨hother, hothers⟩ := sorted_cons.1 hright
      have hfound' : lookup k' ((k, v) :: rest) = some v' := by
        rw [hsame]
        simp [lookup, Std.ReflCmp.compare_self]
      have hkey : k = k' := by
        simp only [lookup] at hfound hfound'
        cases hc : compare k k' with
        | lt => simp [hc] at hfound
        | eq => exact Std.compare_eq_iff_eq.1 hc
        | gt =>
          have hlt : compare k' k = .lt := Std.OrientedCmp.gt_iff_lt.1 hc
          simp [hlt] at hfound'
      subst hkey
      have hvalue : v = v' := by
        simpa [lookup, Std.ReflCmp.compare_self] using hfound.symm
      subst hvalue
      have htail : rest = others := by
        refine ih hrest hothers fun key => ?_
        have hkey := hsame key
        simp only [lookup] at hkey
        cases hc : compare key k with
        | lt =>
          rw [lookup_eq_none_of_forall_lt fun e he => Std.TransCmp.lt_trans hc (hhead e he),
            lookup_eq_none_of_forall_lt fun e he => Std.TransCmp.lt_trans hc (hother e he)]
        | eq =>
          cases Std.compare_eq_iff_eq.1 hc
          rw [lookup_eq_none_of_forall_lt hhead, lookup_eq_none_of_forall_lt hother]
        | gt => simpa [hc] using hkey
      rw [htail]

end Lawful

end CapabilityArena.Entries
