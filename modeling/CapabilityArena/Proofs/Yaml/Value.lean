import CapabilityArena.Proofs.Dictionary.Overwriting
import CapabilityArena.Proofs.Reading
import CapabilityArena.Proofs.Value.References
import CapabilityArena.Yaml.Node

/-!
Values that come out of documents. A document cannot name an address, so what its nodes convert to is at
home everywhere.
-/

namespace CapabilityArena

namespace Value

theorem references_list {items : List Value} (hnone : ∀ item ∈ items, item.references = []) :
    (list items).references = [] := by
  rw [references, itemReferences_eq, List.flatMap_eq_nil_iff]
  exact hnone

/-- The entries of a map are among the pairs that it was made from. -/
theorem references_ofPairs {pairs : List (String × Value)}
    (hnone : ∀ pair ∈ pairs, pair.2.references = []) : (ofPairs pairs).references = [] := by
  rw [ofPairs_eq, references, entryReferences_eq, List.flatMap_eq_nil_iff]
  intro entry hentry
  exact hnone entry (Dictionary.mem_of_get?_ofList (Dictionary.mem_entries_iff.1 hentry))

end Value

namespace Yaml.Node

mutual

theorem references_toValue {node : Node} {value : Value} (hvalue : toValue node = .ok value) :
    value.references = [] := by
  cases node with
  | null | bool _ | float _ | str _ =>
    cases hvalue
    rfl
  | int i =>
    cases hvalue
    unfold ofInteger
    split <;> rfl
  | sequence items =>
    obtain ⟨values, hvalues, rfl⟩ := read_map_eq_ok.1 hvalue
    exact Value.references_list (references_itemsToValues hvalues)
  | mapping entries =>
    obtain ⟨pairs, hpairs, rfl⟩ := read_map_eq_ok.1 hvalue
    exact Value.references_ofPairs (references_entriesToValues hpairs)
  | tagged tag content => cases hvalue

theorem references_itemsToValues {items : List Node} {values : List Value}
    (hvalues : itemsToValues items = .ok values) : ∀ value ∈ values, value.references = [] := by
  cases items with
  | nil =>
    cases hvalues
    exact List.forall_mem_nil _
  | cons item items =>
    obtain ⟨first, hfirst, hrest⟩ := read_bind_eq_ok.1 hvalues
    obtain ⟨others, hothers, hdone⟩ := read_bind_eq_ok.1 hrest
    cases hdone
    exact List.forall_mem_cons.2 ⟨references_toValue hfirst, references_itemsToValues hothers⟩

theorem references_entriesToValues {entries : List (Node × Node)} {pairs : List (String × Value)}
    (hpairs : entriesToValues entries = .ok pairs) : ∀ pair ∈ pairs, pair.2.references = [] := by
  cases entries with
  | nil =>
    cases hpairs
    exact List.forall_mem_nil _
  | cons entry entries =>
    obtain ⟨key, item⟩ := entry
    rw [entriesToValues] at hpairs
    cases hkey : key.text? with
    | none =>
      simp only [hkey] at hpairs
      cases hpairs
    | some text =>
      simp only [hkey] at hpairs
      obtain ⟨first, hfirst, hrest⟩ := read_bind_eq_ok.1 hpairs
      obtain ⟨others, hothers, hdone⟩ := read_bind_eq_ok.1 hrest
      cases hdone
      exact List.forall_mem_cons.2 ⟨references_toValue hfirst, references_entriesToValues hothers⟩

end

/-- The value of a node is at home in every arena. -/
theorem homeIn_of_toValue {node : Node} {value : Value} (hvalue : node.toValue = .ok value)
    (arena : ArenaId) : value.HomeIn arena := by
  rw [Value.homeIn_iff, references_toValue hvalue]
  exact List.forall_mem_nil _

end Yaml.Node

end CapabilityArena
