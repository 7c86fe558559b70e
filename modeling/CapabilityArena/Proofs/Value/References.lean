import CapabilityArena.Heap.Basic

/-!
Parts of values. The references of a value are the addresses among its parts, so the check before storing
looks at every address in the value, however deep it lies: it accepts the values that are at home in the
arena, and no others. What is stored in a slot is at home when all values in it are.
-/

namespace CapabilityArena

/-- The value that a reference was found as. -/
def Reference.value (r : Reference) : Value := if r.weak then .weak r.address else .address r.address

namespace Value

/-- An occurrence inside a value, at any depth of lists and maps; the whole value is one, too. -/
inductive PartOf (part : Value) : Value → Prop where
  | self : PartOf part part
  | item {items : List Value} {item : Value} (hitem : item ∈ items) (hpart : PartOf part item) :
    PartOf part (.list items)
  | entry {entries : List (String × Value)} {key : String} {value : Value}
    (hentry : (key, value) ∈ entries) (hpart : PartOf part value) : PartOf part (.map entries)

/-- A value without strong addresses, all of whose weak ones belong to the arena. -/
structure HomeIn (arena : ArenaId) (v : Value) : Prop where
  no_strong : ∀ address, ¬ PartOf (.address address) v
  weak_inside : ∀ address, PartOf (.weak address) v → address.arena = arena

/-- Induction on a value, with all items and all values of entries at once. -/
@[elab_as_elim]
theorem inductionOn {motive : Value → Prop} (v : Value) (null : motive .null) (bool : ∀ b, motive (.bool b))
    (int : ∀ i, motive (.int i)) (float : ∀ x, motive (.float x)) (str : ∀ text, motive (.str text))
    (list : ∀ items, (∀ item ∈ items, motive item) → motive (.list items))
    (map : ∀ entries, (∀ entry ∈ entries, motive entry.2) → motive (.map entries))
    (address : ∀ a, motive (.address a)) (weak : ∀ a, motive (.weak a)) : motive v :=
  match v with
  | .null => null
  | .bool b => bool b
  | .int i => int i
  | .float x => float x
  | .str text => str text
  | .list items =>
    list items fun item _ => inductionOn item null bool int float str list map address weak
  | .map entries => map entries fun (key, value) hentry =>
    have : sizeOf value < 1 + sizeOf entries := by
      have hlt := List.sizeOf_lt_of_mem hentry
      rw [Prod.mk.sizeOf_spec] at hlt
      omega
    inductionOn value null bool int float str list map address weak
  | .address a => address a
  | .weak a => weak a

theorem wellFormed_of_mem_items {items : List Value} (hordered : WellFormedItems items) :
    ∀ item ∈ items, item.WellFormed := by
  induction items with
  | nil => exact List.forall_mem_nil _
  | cons item items ih => exact List.forall_mem_cons.2 ⟨hordered.1, ih hordered.2⟩

theorem wellFormed_of_mem_entries {entries : List (String × Value)} (hordered : WellFormedEntries entries) :
    ∀ entry ∈ entries, entry.2.WellFormed := by
  induction entries with
  | nil => exact List.forall_mem_nil _
  | cons entry entries ih => exact List.forall_mem_cons.2 ⟨hordered.1, ih hordered.2⟩

variable {r : Reference}

theorem itemReferences_eq (items : List Value) : itemReferences items = items.flatMap references := by
  induction items with
  | nil => rfl
  | cons item items ih => rw [itemReferences, List.flatMap_cons, ih]

theorem entryReferences_eq (entries : List (String × Value)) :
    entryReferences entries = entries.flatMap (·.2.references) := by
  induction entries with
  | nil => rfl
  | cons entry entries ih => rw [entryReferences, List.flatMap_cons, ih]

theorem mem_itemReferences {items : List Value} :
    r ∈ itemReferences items ↔ ∃ item ∈ items, r ∈ references item := by
  rw [itemReferences_eq, List.mem_flatMap]

theorem mem_entryReferences {entries : List (String × Value)} :
    r ∈ entryReferences entries ↔ ∃ key value, (key, value) ∈ entries ∧ r ∈ references value := by
  rw [entryReferences_eq, List.mem_flatMap, Prod.exists]

/-- Collecting goes down to every part. -/
theorem mem_references_of_partOf {v : Value} (hpart : PartOf r.value v) : r ∈ v.references := by
  induction hpart with
  | self =>
    obtain ⟨address, weak⟩ := r
    cases weak <;> simp [Reference.value, references]
  | item hitem _ ih =>
    rw [references, mem_itemReferences]
    exact ⟨_, hitem, ih⟩
  | entry hentry _ ih =>
    rw [references, mem_entryReferences]
    exact ⟨_, _, hentry, ih⟩

/-- And it collects nothing else. -/
theorem partOf_of_mem_references (v : Value) (hmem : r ∈ v.references) : PartOf r.value v := by
  induction v using inductionOn with
  | null | bool _ | int _ | float _ | str _ => simp [references] at hmem
  | address target | weak target =>
    rw [references, List.mem_singleton] at hmem
    rw [hmem]
    exact .self
  | list items ih =>
    obtain ⟨item, hitem, hinside⟩ := mem_itemReferences.1 hmem
    exact .item hitem (ih item hitem hinside)
  | map entries ih =>
    obtain ⟨key, value, hentry, hinside⟩ := mem_entryReferences.1 hmem
    exact .entry hentry (ih (key, value) hentry hinside)

theorem mem_references_iff {v : Value} : r ∈ v.references ↔ PartOf r.value v :=
  ⟨partOf_of_mem_references v, mem_references_of_partOf⟩

theorem refusal?_eq_none_iff {arena : ArenaId} :
    r.refusal? arena = none ↔ r.weak = true ∧ r.address.arena = arena := by
  unfold Reference.refusal?
  cases hweak : r.weak with
  | false => simp
  | true => simp

theorem homeIn_iff {arena : ArenaId} {v : Value} :
    v.HomeIn arena ↔ ∀ r ∈ v.references, r.weak = true ∧ r.address.arena = arena := by
  constructor
  · rintro hhome ⟨address, weak⟩ hmem
    have hpart := mem_references_iff.1 hmem
    cases weak with
    | false => exact absurd hpart (hhome.no_strong address)
    | true => exact ⟨rfl, hhome.weak_inside address hpart⟩
  · intro hall
    constructor
    case no_strong =>
      intro address hpart
      have hmem : (⟨address, false⟩ : Reference) ∈ v.references := mem_references_iff.2 hpart
      cases (hall _ hmem).1
    case weak_inside =>
      intro address hpart
      have hmem : (⟨address, true⟩ : Reference) ∈ v.references := mem_references_iff.2 hpart
      exact (hall _ hmem).2

/-- Exactly the values that are at home in an arena may be stored there. -/
theorem checkStorable_eq_ok_iff {arena : ArenaId} {v : Value} :
    v.checkStorable arena = .ok () ↔ v.HomeIn arena := by
  have hnone : v.references.findSome? (·.refusal? arena) = none ↔ v.HomeIn arena := by
    simp only [List.findSome?_eq_none_iff, refusal?_eq_none_iff, homeIn_iff]
  rw [← hnone, checkStorable]
  cases v.references.findSome? (·.refusal? arena) <;> simp

end Value

namespace Content

/-- What is stored in a slot, as a list of values: the value itself, or the fields of the entity. -/
def values : Content → List Value
  | .value v => [v]
  | .entity e => e.state.values

def HomeIn (arena : ArenaId) (content : Content) : Prop := ∀ v ∈ content.values, v.HomeIn arena

theorem homeIn_value {arena : ArenaId} {v : Value} (hhome : v.HomeIn arena) :
    (Content.value v).HomeIn arena := by
  intro stored hmem
  rw [values, List.mem_singleton] at hmem
  rwa [hmem]

end Content

end CapabilityArena
