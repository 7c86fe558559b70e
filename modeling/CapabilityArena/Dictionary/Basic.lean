import CapabilityArena.Dictionary.Entries

/-!
Dictionaries whose entries are kept in key order. A dictionary is determined by what it answers
(`Dictionary.ext_get?`), and every operation is described by one equation on `get?`.
-/

namespace CapabilityArena

structure Dictionary (κ ν : Type) [Ord κ] where
  entries : List (κ × ν)
  sorted : Entries.Sorted entries

namespace Dictionary

variable {κ ν : Type} [Ord κ]

def empty : Dictionary κ ν := ⟨[], Entries.sorted_nil⟩

instance : Inhabited (Dictionary κ ν) := ⟨empty⟩

instance [DecidableEq κ] [DecidableEq ν] : DecidableEq (Dictionary κ ν) := fun a b =>
  decidable_of_iff (a.entries = b.entries)
    ⟨fun h => by cases a; cases b; cases h; rfl, fun h => h ▸ rfl⟩

def get? (d : Dictionary κ ν) (key : κ) : Option ν := Entries.lookup key d.entries

def contains (d : Dictionary κ ν) (key : κ) : Bool := (d.get? key).isSome

/-- The keys in increasing order. -/
def keys (d : Dictionary κ ν) : List κ := d.entries.map (·.1)

/-- The values in the order of their keys. -/
def values (d : Dictionary κ ν) : List ν := d.entries.map (·.2)

def size (d : Dictionary κ ν) : Nat := d.entries.length

def isEmpty (d : Dictionary κ ν) : Bool := d.entries.isEmpty

section Lawful

variable [Std.TransOrd κ] [Std.LawfulEqOrd κ]

/-- A value already stored under the key gives way to the new one. -/
def insert (d : Dictionary κ ν) (key : κ) (value : ν) : Dictionary κ ν :=
  ⟨Entries.insert key value d.entries, Entries.sorted_insert d.sorted⟩

def erase (d : Dictionary κ ν) (key : κ) : Dictionary κ ν :=
  ⟨Entries.erase key d.entries, Entries.sorted_erase d.sorted⟩

/-- Enters pairs from left to right, so that the last pair of a key wins. -/
def insertAll (d : Dictionary κ ν) (pairs : List (κ × ν)) : Dictionary κ ν :=
  pairs.foldl (fun d pair => d.insert pair.1 pair.2) d

def ofList (pairs : List (κ × ν)) : Dictionary κ ν := empty.insertAll pairs

omit [Std.TransOrd κ] [Std.LawfulEqOrd κ] in
@[simp] theorem get?_empty (key : κ) : (empty : Dictionary κ ν).get? key = none := rfl

theorem get?_insert (d : Dictionary κ ν) (key : κ) (value : ν) (query : κ) :
    (d.insert key value).get? query =
      if compare query key = .eq then some value else d.get? query :=
  Entries.lookup_insert query

@[simp] theorem get?_insert_self (d : Dictionary κ ν) (key : κ) (value : ν) :
    (d.insert key value).get? key = some value := by
  simp [get?_insert, Std.ReflCmp.compare_self]

theorem get?_insert_of_ne (d : Dictionary κ ν) {key query : κ} (value : ν) (hne : query ≠ key) :
    (d.insert key value).get? query = d.get? query := by
  simp [get?_insert, hne]

theorem get?_erase (d : Dictionary κ ν) (key query : κ) :
    (d.erase key).get? query = if compare query key = .eq then none else d.get? query :=
  Entries.lookup_erase d.sorted query

@[simp] theorem get?_erase_self (d : Dictionary κ ν) (key : κ) : (d.erase key).get? key = none := by
  simp [get?_erase, Std.ReflCmp.compare_self]

theorem get?_erase_of_ne (d : Dictionary κ ν) {key query : κ} (hne : query ≠ key) :
    (d.erase key).get? query = d.get? query := by
  simp [get?_erase, hne]

theorem mem_entries_iff {d : Dictionary κ ν} {key : κ} {value : ν} :
    (key, value) ∈ d.entries ↔ d.get? key = some value :=
  ⟨Entries.lookup_of_mem d.sorted, Entries.mem_of_lookup⟩

theorem mem_keys_iff {d : Dictionary κ ν} {key : κ} : key ∈ d.keys ↔ d.contains key = true := by
  constructor
  · intro hmem
    obtain ⟨entry, hentry, rfl⟩ := List.mem_map.1 hmem
    rw [contains, mem_entries_iff.1 hentry]
    rfl
  · intro hcontains
    obtain ⟨value, hvalue⟩ := Option.isSome_iff_exists.1 hcontains
    exact List.mem_map.2 ⟨(key, value), mem_entries_iff.2 hvalue, rfl⟩

theorem isEmpty_iff {d : Dictionary κ ν} : d.isEmpty = true ↔ ∀ key, d.contains key = false := by
  rw [isEmpty, List.isEmpty_iff]
  constructor
  · intro hempty key
    rw [contains, get?, hempty]
    rfl
  · intro hnone
    refine List.eq_nil_iff_forall_not_mem.2 fun entry hentry => ?_
    have hfound := hnone entry.1
    rw [contains, mem_entries_iff.1 hentry] at hfound
    cases hfound

theorem ext_get? {left right : Dictionary κ ν} (hsame : ∀ key, left.get? key = right.get? key) :
    left = right := by
  obtain ⟨l, hl⟩ := left
  obtain ⟨r, hr⟩ := right
  cases Entries.lookup_ext hl hr hsame
  rfl

theorem insert_insert (d : Dictionary κ ν) (key : κ) (first second : ν) :
    (d.insert key first).insert key second = d.insert key second := by
  apply ext_get?
  intro query
  by_cases hquery : query = key
  · simp [hquery]
  · simp [get?_insert_of_ne _ _ hquery]

/-- Entering what is there already changes nothing. -/
theorem insert_of_get? {d : Dictionary κ ν} {key : κ} {value : ν} (hget : d.get? key = some value) :
    d.insert key value = d := by
  apply ext_get?
  intro query
  by_cases hquery : query = key
  · rw [hquery, get?_insert_self, hget]
  · rw [get?_insert_of_ne _ _ hquery]

omit [Std.TransOrd κ] in
theorem nodup_keys (d : Dictionary κ ν) : d.keys.Nodup := by
  refine List.pairwise_map.2 (d.sorted.imp fun {a b} hlt heq => ?_)
  have hself : compare a.1 b.1 = .eq := Std.compare_eq_iff_eq.2 heq
  cases hself.symm.trans hlt

theorem size_insert (d : Dictionary κ ν) (key : κ) (value : ν) :
    (d.insert key value).size = if d.contains key then d.size else d.size + 1 :=
  Entries.length_insert key value d.entries

omit [Std.TransOrd κ] [Std.LawfulEqOrd κ] in
theorem size_erase (d : Dictionary κ ν) (key : κ) :
    (d.erase key).size = if d.contains key then d.size - 1 else d.size :=
  Entries.length_erase key d.entries

theorem erase_insert (d : Dictionary κ ν) (key : κ) (value : ν) :
    (d.insert key value).erase key = d.erase key := by
  apply ext_get?
  intro query
  by_cases hquery : query = key
  · simp [hquery]
  · rw [get?_erase_of_ne _ hquery, get?_erase_of_ne _ hquery, get?_insert_of_ne _ _ hquery]

end Lawful

end Dictionary

/-- A set of keys, listed in key order. -/
abbrev KeySet (κ : Type) [Ord κ] := Dictionary κ Unit

namespace KeySet

variable {κ : Type} [Ord κ]

def toList (s : KeySet κ) : List κ := Dictionary.keys s

theorem contains_iff_get? {s : KeySet κ} {key : κ} :
    s.contains key = true ↔ s.get? key = some () := by
  unfold Dictionary.contains
  cases s.get? key <;> simp

variable [Std.TransOrd κ] [Std.LawfulEqOrd κ]

def add (s : KeySet κ) (key : κ) : KeySet κ := Dictionary.insert s key ()

def remove (s : KeySet κ) (key : κ) : KeySet κ := Dictionary.erase s key

def ofList (keys : List κ) : KeySet κ := keys.foldl add Dictionary.empty

theorem contains_add (s : KeySet κ) (key query : κ) :
    (s.add key).contains query = true ↔ query = key ∨ s.contains query = true := by
  by_cases hquery : query = key
  · simp [hquery, add, Dictionary.contains]
  · simp [hquery, add, Dictionary.contains, Dictionary.get?_insert_of_ne]

theorem contains_remove (s : KeySet κ) (key query : κ) :
    (s.remove key).contains query = true ↔ query ≠ key ∧ s.contains query = true := by
  by_cases hquery : query = key
  · simp [hquery, remove, Dictionary.contains]
  · simp [hquery, remove, Dictionary.contains, Dictionary.get?_erase_of_ne]

theorem contains_foldl_add (keys : List κ) (s : KeySet κ) (key : κ) :
    (keys.foldl add s).contains key = true ↔ key ∈ keys ∨ s.contains key = true := by
  induction keys generalizing s with
  | nil => simp
  | cons first keys ih => rw [List.foldl_cons, ih, contains_add, List.mem_cons, or_left_comm, or_assoc]

theorem contains_ofList (keys : List κ) (key : κ) : (ofList keys).contains key = true ↔ key ∈ keys := by
  rw [ofList, contains_foldl_add]
  simp [Dictionary.contains]

/-- A set is determined by what it contains. -/
theorem ext_contains {left right : KeySet κ}
    (hsame : ∀ key, left.contains key = true ↔ right.contains key = true) : left = right := by
  refine Dictionary.ext_get? fun key => Option.ext fun _ => ?_
  exact contains_iff_get?.symm.trans ((hsame key).trans contains_iff_get?)

end KeySet

end CapabilityArena
