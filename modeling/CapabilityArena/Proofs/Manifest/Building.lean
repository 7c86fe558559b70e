import CapabilityArena.Manifest.Basic
import CapabilityArena.Proofs.Dictionary.Overwriting
import CapabilityArena.Proofs.Reading

/-!
What a manifest comes to. Every entry of a modifier becomes a declarative modifier, whose fields are those
that the entry declares, each with its shape and with the value of its default.
-/

namespace CapabilityArena

/-- A declared field is of the shape that is declared and starts with the value of the node. -/
theorem FieldEntry.toField_eq_ok {modifier key : String} {declared : FieldEntry} {field : Field}
    (hfield : declared.toField modifier key = .ok field) :
    field.key = key ∧ field.shape = declared.shape ∧ declared.default.toValue = .ok field.default ∧
      field.shape.admits field.default = true := by
  unfold toField at hfield
  cases hdefault : declared.default.toValue with
  | error problem =>
    rw [hdefault] at hfield
    cases hfield
  | ok default =>
    simp only [hdefault] at hfield
    split at hfield
    next hadmits =>
      cases hfield
      exact ⟨rfl, rfl, rfl, hadmits⟩
    next => cases hfield

namespace ModifierEntry

variable {entry : ModifierEntry} {fields : List Field} {m : Modifier} {key : String}

/-- These are the fields that an entry declares. -/
structure Yields (entry : ModifierEntry) (fields : List Field) : Prop where
  nodup : (fields.map (·.key)).Nodup
  declared : ∀ field ∈ fields, ∃ declared, entry.declares.get? field.key = some declared ∧
    declared.toField entry.name field.key = .ok field
  complete : ∀ key declared, entry.declares.get? key = some declared →
    ∃ field ∈ fields, declared.toField entry.name key = .ok field

/-- And this is the modifier that an entry comes to. -/
structure Makes (entry : ModifierEntry) (m : Modifier) (fields : List Field) : Prop
    extends Yields entry fields where
  name_eq : m.name = entry.name
  machine_eq : m.machine = entry.machine
  declares_eq : m.declares = .ofList (fields.map fun field => (field.key, field.shape))
  methods_eq : m.methods = .empty
  onAdd_eq : m.onAdd = some (Modifier.writeDefaults fields)
  onRemove_eq : m.onRemove = some (Modifier.eraseFields fields)

theorem makes_of_toModifier (hmodifier : entry.toModifier = .ok m) :
    ∃ fields, entry.Makes m fields := by
  obtain ⟨fields, hfields, hdone⟩ := read_bind_eq_ok.1 hmodifier
  cases hdone
  refine ⟨fields, ⟨?_, rfl, rfl, rfl, rfl, rfl, rfl⟩⟩
  constructor
  case nodup =>
    have hkeys := map_read_mapM (fun _ _ hfield => (FieldEntry.toField_eq_ok hfield).1) hfields
    rw [hkeys]
    exact entry.declares.nodup_keys
  case declared =>
    intro field hmem
    obtain ⟨⟨key, declared⟩, hentry, hfield⟩ := (mem_read_mapM_iff hfields).1 hmem
    obtain ⟨rfl, _⟩ := FieldEntry.toField_eq_ok hfield
    exact ⟨declared, Dictionary.mem_entries_iff.1 hentry, hfield⟩
  case complete =>
    intro key declared hdeclared
    have hentry := Dictionary.mem_entries_iff.2 hdeclared
    obtain ⟨field, hfield⟩ := exists_of_read_mapM hfields hentry
    exact ⟨field, (mem_read_mapM_iff hfields).2 ⟨_, hentry, hfield⟩, hfield⟩

/-- To look a key up among the fields is to look it up among the declarations. -/
theorem Yields.default?_eq (hyields : entry.Yields fields) (key : String) :
    (Dictionary.ofList (fields.map fun field => (field.key, field.default))).get? key =
      (entry.declares.get? key).bind (·.default.toValue.toOption) := by
  have hkeys : (fields.map fun field => (field.key, field.default)).map (·.1) = fields.map (·.key) := by
    rw [List.map_map]
    rfl
  cases hdeclared : entry.declares.get? key with
  | none =>
    rw [Dictionary.get?_ofList_eq_none_iff.2, Option.bind_none]
    rw [hkeys]
    intro hmem
    obtain ⟨field, hfield, rfl⟩ := List.mem_map.1 hmem
    obtain ⟨declared, hfound, _⟩ := hyields.declared field hfield
    cases hdeclared.symm.trans hfound
  | some declared =>
    obtain ⟨field, hmem, hfield⟩ := hyields.complete key declared hdeclared
    obtain ⟨rfl, _, hdefault, _⟩ := FieldEntry.toField_eq_ok hfield
    rw [Option.bind_some, hdefault]
    refine (Dictionary.get?_ofList_eq_some_iff ?_).2 (List.mem_map.2 ⟨field, hmem, rfl⟩)
    rw [hkeys]
    exact hyields.nodup

end ModifierEntry

namespace Manifest

variable {manifest : Manifest} {registry : Registry}

/-- All definitions, those of the concepts and the groups as their entries give them. -/
def definitions (manifest : Manifest) (machines : List Machine) (modifiers : List Modifier) : List Registration :=
  machines.map .machine ++ manifest.concepts.map (fun entry => .concept entry.toConcept) ++
    modifiers.map .modifier ++ manifest.groups.map .group

theorem build_eq_ok_iff : manifest.build = .ok registry ↔
    ∃ machines modifiers, manifest.machines.mapM (·.toMachine) = .ok machines ∧
      manifest.modifiers.mapM (·.toModifier) = .ok modifiers ∧
      Registry.build (manifest.definitions machines modifiers) = .ok registry := by
  have hmapped : ∀ found, manifest.registrations.mapError Failure.invalidDefinition = .ok found ↔
      manifest.registrations = .ok found := by
    intro found
    cases manifest.registrations <;> simp [Except.mapError]
  simp only [build, read_bind_eq_ok, hmapped]
  simp only [registrations, read_bind_eq_ok, pure, Except.pure, Except.ok.injEq]
  constructor
  · rintro ⟨_, ⟨machines, hmachines, modifiers, hmodifiers, rfl⟩, hbuild⟩
    exact ⟨machines, modifiers, hmachines, hmodifiers, hbuild⟩
  · rintro ⟨machines, modifiers, hmachines, hmodifiers, hbuild⟩
    exact ⟨_, ⟨machines, hmachines, modifiers, hmodifiers, rfl⟩, hbuild⟩

/-- A registry built from a manifest is built from registrations, among them the modifiers of all entries. -/
theorem of_build_eq_ok (hbuild : manifest.build = .ok registry) : ∃ registrations,
    Registry.build registrations = .ok registry ∧
    ∀ entry ∈ manifest.modifiers, ∃ m, entry.toModifier = .ok m ∧ .modifier m ∈ registrations := by
  obtain ⟨machines, modifiers, _, hmodifiers, hregistry⟩ := build_eq_ok_iff.1 hbuild
  refine ⟨_, hregistry, fun entry hentry => ?_⟩
  obtain ⟨m, hm⟩ := exists_of_read_mapM hmodifiers hentry
  have hmem := (mem_read_mapM_iff hmodifiers).2 ⟨entry, hentry, hm⟩
  exact ⟨m, hm, by simp [definitions, hmem]⟩

end Manifest

end CapabilityArena
