import Mathlib.Data.List.Perm.Basic
import CapabilityArena.Proofs.Machine.Entries
import CapabilityArena.Proofs.Manifest.Building
import CapabilityArena.Proofs.Registry.Consistency

/-!
What a registry has from its manifest. A manifest is built exactly if each of its entries is right by itself and
they fit together. The registry then has one definition for every entry and no others.
-/

namespace CapabilityArena

/-- The definitions of a dictionary are those of the entries, one for each in this order, and every one is under
    the name of its entry. -/
structure Dictionary.Defines {ε δ : Type} (d : Dictionary String δ) (named : ε → String)
    (translates : ε → δ → Prop) (entries : List ε) : Prop where
  keys_eq : d.keys = entries.map named
  values : List.Forall₂ translates entries d.values

namespace MachineEntry

/-- The targets that are listed for a source. -/
def targets (entry : MachineEntry) (source : String) : List String := (entry.transitions.get? source).getD []

/-- The states are declared in their order, each has exactly the targets that are listed for it, and nothing runs
    on a move. -/
structure Translates (entry : MachineEntry) (m : Machine) : Prop where
  name_eq : m.name = entry.name
  states_eq : m.states = entry.states
  transitions_eq : ∀ state, m.transitions.get? state =
    if state ∈ entry.states then some (.ofList (entry.targets state)) else none
  stateKey_eq : m.stateKey = entry.stateKey
  onTransition_eq : m.onTransition = none

end MachineEntry

/-- A concept of a manifest expects what its entry says, and has no methods. -/
structure ConceptEntry.Translates (entry : ConceptEntry) (c : Concept) : Prop where
  name_eq : c.name = entry.name
  expects_eq : c.expects = entry.expects
  methods_eq : c.methods = .empty
  machine_eq : c.machine = entry.machine

namespace ModifierEntry

/-- The shapes of the declared fields. -/
def shapes (entry : ModifierEntry) : FieldShapes :=
  .ofList (entry.declares.entries.map fun (key, declared) => (key, declared.shape))

/-- A modifier of a manifest declares the shapes that its entry says, and has no methods. It writes the defaults of
    its fields when it is attached and erases the fields when it is detached. -/
structure Translates (entry : ModifierEntry) (m : Modifier) : Prop where
  name_eq : m.name = entry.name
  declares_eq : ∀ key, m.declares.get? key = (entry.declares.get? key).map (·.shape)
  methods_eq : m.methods = .empty
  machine_eq : m.machine = entry.machine
  hooks : ∃ fields, entry.Yields fields ∧
    m.onAdd = some (Modifier.writeDefaults fields) ∧ m.onRemove = some (Modifier.eraseFields fields)

/-- Every default is a value, and of the declared shape. -/
def Fits (entry : ModifierEntry) : Prop :=
  ∀ key declared, entry.declares.get? key = some declared →
    ∃ default, declared.default.toValue = .ok default ∧ declared.shape.admits default = true

end ModifierEntry

namespace Manifest

def capabilityNames (m : Manifest) : List String := m.concepts.map (·.name) ++ m.modifiers.map (·.name)

/-- The names of which none may occur twice. -/
def sharedNames (m : Manifest) : List String := m.capabilityNames ++ m.groups.map (·.name)

def machineNames (m : Manifest) : List String := m.machines.map (·.name)

/-- The machines that concepts and modifiers ask for. -/
def machinesAsked (m : Manifest) : List String :=
  m.concepts.filterMap (·.machine) ++ m.modifiers.filterMap (·.machine)

/-- Entries have names of their own and refer to entries that are there. -/
structure Coherent (m : Manifest) : Prop where
  not_blank : ∀ name ∈ m.sharedNames, ∃ c ∈ name.toList, Text.isBlank c = false
  names_nodup : m.sharedNames.Nodup
  machineNames_nodup : m.machineNames.Nodup
  members_ne_nil : ∀ group ∈ m.groups, group.members ≠ []
  members_nodup : ∀ group ∈ m.groups, group.members.Nodup
  members_known : ∀ group ∈ m.groups, ∀ member ∈ group.members, member ∈ m.capabilityNames
  machines_known : ∀ machine ∈ m.machinesAsked, machine ∈ m.machineNames

/-- And every entry is right by itself. -/
structure Valid (m : Manifest) : Prop extends Coherent m where
  machines_declare : ∀ entry ∈ m.machines, Machine.Declares entry.states entry.transitions.entries
  defaults_fit : ∀ entry ∈ m.modifiers, entry.Fits

/-- The same entries, each kind in an order of its own. -/
structure Rearranges (ordered m : Manifest) : Prop where
  machines : ordered.machines.Perm m.machines
  concepts : ordered.concepts.Perm m.concepts
  modifiers : ordered.modifiers.Perm m.modifiers
  groups : ordered.groups.Perm m.groups

/-- The entries of each kind come in the order of their names, and none has the name of another. -/
structure InNameOrder (m : Manifest) : Prop where
  machines : m.machines.Pairwise (·.name < ·.name)
  concepts : m.concepts.Pairwise (·.name < ·.name)
  modifiers : m.modifiers.Pairwise (·.name < ·.name)
  groups : m.groups.Pairwise (·.name < ·.name)

end Manifest

/-- The definitions of a registry are those of the entries of a manifest, in their order. -/
structure Registry.Translates (r : Registry) (m : Manifest) : Prop where
  concepts : r.concepts.Defines ConceptEntry.name ConceptEntry.Translates m.concepts
  modifiers : r.modifiers.Defines ModifierEntry.name ModifierEntry.Translates m.modifiers
  groups : r.groups.Defines Group.name (· = ·) m.groups
  machines : r.machines.Defines MachineEntry.name MachineEntry.Translates m.machines

/-! ### Machines -/

namespace MachineEntry

variable {entry : MachineEntry} {m : Machine} {source target : String}

theorem lists_iff : Machine.Lists entry.transitions.entries source target ↔ target ∈ entry.targets source := by
  simp only [Machine.Lists, Dictionary.mem_entries_iff, targets]
  cases entry.transitions.get? source <;> simp

theorem toMachine_eq_ok_iff : entry.toMachine = .ok m ↔
    ∃ plain, Machine.ofEntries? entry.name entry.states entry.transitions.entries = .ok plain ∧
      { plain with stateKey := entry.stateKey } = m := by
  simp only [toMachine, read_bind_eq_ok, pure, Except.pure, Except.ok.injEq]

theorem exists_toMachine_iff :
    (∃ m, entry.toMachine = .ok m) ↔ Machine.Declares entry.states entry.transitions.entries :=
  exists_read_bind_pure_iff.trans Machine.exists_ofEntries?_iff

theorem translates_of_toMachine (hm : entry.toMachine = .ok m) : entry.Translates m := by
  obtain ⟨plain, hplain, rfl⟩ := toMachine_eq_ok_iff.1 hm
  have hfollows := Machine.follows_of_ofEntries? hplain
  refine ⟨hfollows.name_eq, hfollows.states_eq, fun state => ?_, rfl, hfollows.onTransition_eq⟩
  change plain.allowed? state = _
  have hdeclared := hfollows.allowed?_isSome_iff state
  have hmoves := fun target => (hfollows.permits_iff state target).trans lists_iff
  unfold Machine.permits at hmoves
  cases hallowed : plain.allowed? state with
  | none =>
    rw [hallowed] at hdeclared
    rw [if_neg fun hmem => by cases hdeclared.2 hmem]
  | some allowed =>
    simp only [hallowed, Option.any_some] at hmoves
    rw [if_pos (hdeclared.1 (by rw [hallowed]; rfl)), Option.some.injEq]
    exact KeySet.ext_contains fun target => (hmoves target).trans (KeySet.contains_ofList _ _).symm

end MachineEntry

/-! ### Concepts and modifiers -/

theorem ConceptEntry.translates_toConcept (entry : ConceptEntry) : entry.Translates entry.toConcept :=
  ⟨rfl, rfl, rfl, rfl⟩

theorem FieldEntry.exists_toField_iff {modifier key : String} {declared : FieldEntry} :
    (∃ field, declared.toField modifier key = .ok field) ↔
      ∃ default, declared.default.toValue = .ok default ∧ declared.shape.admits default = true := by
  unfold toField
  cases declared.default.toValue with
  | error problem => simp
  | ok default => cases hadmits : declared.shape.admits default <;> simp [hadmits]

namespace ModifierEntry

variable {entry : ModifierEntry} {m : Modifier}

theorem toModifier_eq_ok_iff : entry.toModifier = .ok m ↔
    ∃ fields, entry.declares.entries.mapM (fun (key, field) => field.toField entry.name key) = .ok fields ∧
      { Modifier.declarative entry.name fields with machine := entry.machine } = m := by
  simp only [toModifier, read_bind_eq_ok, pure, Except.pure, Except.ok.injEq]

theorem exists_toModifier_iff : (∃ m, entry.toModifier = .ok m) ↔ entry.Fits := by
  refine exists_read_bind_pure_iff.trans (exists_read_mapM_iff.trans ?_)
  simp only [FieldEntry.exists_toField_iff, Prod.forall, Dictionary.mem_entries_iff, Fits]

theorem get?_shapes (key : String) : entry.shapes.get? key = (entry.declares.get? key).map (·.shape) :=
  Dictionary.get?_ofList_map_entries entry.declares _ key

theorem declares_eq_shapes (hm : entry.toModifier = .ok m) : m.declares = entry.shapes := by
  obtain ⟨fields, hfields, rfl⟩ := toModifier_eq_ok_iff.1 hm
  refine congrArg Dictionary.ofList (map_read_mapM (fun declared field hfield => ?_) hfields)
  obtain ⟨hkey, hshape, _⟩ := FieldEntry.toField_eq_ok hfield
  rw [hkey, hshape]

theorem translates_of_toModifier (hm : entry.toModifier = .ok m) : entry.Translates m := by
  obtain ⟨fields, hmakes⟩ := makes_of_toModifier hm
  refine ⟨hmakes.name_eq, fun key => ?_, hmakes.methods_eq, hmakes.machine_eq, fields, hmakes.toYields,
    hmakes.onAdd_eq, hmakes.onRemove_eq⟩
  rw [declares_eq_shapes hm, get?_shapes]

end ModifierEntry

/-! ### Dictionaries of definitions -/

namespace Dictionary

variable {ε δ : Type} {d : Dictionary String δ} {entryName : ε → String} {definitionName : δ → String}
  {translates : ε → δ → Prop} {entries : List ε} {definitions : List δ}

/-- Definitions that are filed under their names are those of the entries, in some order. -/
theorem Files.exists_defines (hfiles : d.Files definitionName (· ∈ definitions))
    (hdefinitions : List.Forall₂ translates entries definitions)
    (hnamed : ∀ entry definition, translates entry definition → definitionName definition = entryName entry)
    (hnodup : (entries.map entryName).Nodup) :
    ∃ ordered, ordered.Perm entries ∧ d.Defines entryName translates ordered := by
  have hnames := map_eq_of_forall₂ hdefinitions hnamed
  obtain ⟨ordered, hordered, hperm⟩ :=
    List.perm_comp_forall₂ (hfiles.values_perm (by rwa [hnames])) hdefinitions.flip
  refine ⟨ordered, hperm, ?_, hordered.flip⟩
  rw [hfiles.keys_eq, map_eq_of_forall₂ hordered.flip hnamed]

theorem Defines.inNameOrder {d : Dictionary String δ} {entryName : ε → String}
    (hdefines : d.Defines entryName translates entries) :
    entries.Pairwise fun first second => entryName first < entryName second := by
  have hkeys := d.pairwise_keys
  rw [hdefines.keys_eq] at hkeys
  exact List.pairwise_map.1 hkeys

theorem Defines.size_eq (hdefines : d.Defines entryName translates entries) : d.size = entries.length := by
  rw [hdefines.values.length_eq, Dictionary.values, List.length_map, size]

end Dictionary

/-! ### Manifests -/

namespace Manifest

open Registration (Consistent)

variable {m ordered : Manifest} {machines : List Machine} {modifiers : List Modifier} {r : Registry}

theorem concept_mem_definitions {c : Concept} :
    .concept c ∈ m.definitions machines modifiers ↔ c ∈ m.concepts.map (·.toConcept) := by
  simp [definitions]

theorem modifier_mem_definitions {modifier : Modifier} :
    .modifier modifier ∈ m.definitions machines modifiers ↔ modifier ∈ modifiers := by
  simp [definitions]

theorem group_mem_definitions {group : Group} :
    .group group ∈ m.definitions machines modifiers ↔ group ∈ m.groups := by
  simp [definitions]

theorem machine_mem_definitions {machine : Machine} :
    .machine machine ∈ m.definitions machines modifiers ↔ machine ∈ machines := by
  simp [definitions]

theorem filterMap_definitions {α : Type} (f : Registration → Option α) :
    (m.definitions machines modifiers).filterMap f =
      machines.filterMap (f <| .machine ·) ++ m.concepts.filterMap (f <| .concept ·.toConcept) ++
        modifiers.filterMap (f <| .modifier ·) ++ m.groups.filterMap (f <| .group ·) := by
  simp only [definitions, List.filterMap_append, List.filterMap_map]
  rfl

theorem forall₂_machines (hmachines : m.machines.mapM (·.toMachine) = .ok machines) :
    List.Forall₂ MachineEntry.Translates m.machines machines :=
  (read_mapM_eq_ok_iff.1 hmachines).imp fun _ _ hm => MachineEntry.translates_of_toMachine hm

theorem forall₂_concepts (entries : List ConceptEntry) :
    List.Forall₂ ConceptEntry.Translates entries (entries.map (·.toConcept)) := by
  rw [List.forall₂_map_right_iff, List.forall₂_same]
  exact fun entry _ => entry.translates_toConcept

theorem forall₂_modifiers (hmodifiers : m.modifiers.mapM (·.toModifier) = .ok modifiers) :
    List.Forall₂ ModifierEntry.Translates m.modifiers modifiers :=
  (read_mapM_eq_ok_iff.1 hmodifiers).imp fun _ _ hm => ModifierEntry.translates_of_toModifier hm

section Definitions

variable (hmachines : List.Forall₂ MachineEntry.Translates m.machines machines)
  (hmodifiers : List.Forall₂ ModifierEntry.Translates m.modifiers modifiers)

include hmodifiers in
theorem capabilityNames_definitions :
    Registration.capabilityNames (m.definitions machines modifiers) = m.capabilityNames := by
  have hnames := map_eq_of_forall₂ hmodifiers fun _ _ hm => hm.name_eq
  rw [Registration.capabilityNames, filterMap_definitions]
  simp [Registration.capabilityName?, capabilityNames, ConceptEntry.toConcept, hnames]

include hmodifiers in
theorem names_definitions : Registration.names (m.definitions machines modifiers) = m.sharedNames := by
  have hnames := map_eq_of_forall₂ hmodifiers fun _ _ hm => hm.name_eq
  rw [Registration.names, filterMap_definitions]
  simp [Registration.name?, sharedNames, capabilityNames, ConceptEntry.toConcept, hnames]

include hmachines in
theorem machineNames_definitions :
    Registration.machineNames (m.definitions machines modifiers) = m.machineNames := by
  have hnames := map_eq_of_forall₂ hmachines fun _ _ hm => hm.name_eq
  rw [Registration.machineNames, filterMap_definitions]
  simp [Registration.machineName?, machineNames, hnames]

include hmodifiers in
theorem exists_brings?_iff {machine : String} :
    (∃ registration ∈ m.definitions machines modifiers, registration.brings? = some machine) ↔
      machine ∈ m.machinesAsked := by
  have hasked := congrArg (List.filterMap id) (map_eq_of_forall₂ hmodifiers fun _ _ hm => hm.machine_eq)
  rw [List.filterMap_map, List.filterMap_map] at hasked
  have hbrought : (m.definitions machines modifiers).filterMap Registration.brings? = m.machinesAsked := by
    rw [filterMap_definitions, machinesAsked]
    simpa [Registration.brings?, ConceptEntry.toConcept] using hasked
  rw [← hbrought, List.mem_filterMap]

include hmachines hmodifiers in
theorem consistent_definitions_iff : Consistent (m.definitions machines modifiers) ↔ m.Coherent := by
  have hshared : Registration.names (m.definitions machines modifiers) = _ := names_definitions hmodifiers
  have hcapabilities : Registration.capabilityNames (m.definitions machines modifiers) = _ :=
    capabilityNames_definitions hmodifiers
  have hmachineNames : Registration.machineNames (m.definitions machines modifiers) = _ :=
    machineNames_definitions hmachines
  have hgroups : ∀ group, .group group ∈ m.definitions machines modifiers ↔ group ∈ m.groups :=
    fun _ => group_mem_definitions
  constructor
  · rintro ⟨⟨hblank, hnodup, hmachinesNodup⟩, hsome, hmembers, hknown, hbrought⟩
    rw [hshared] at hblank hnodup
    rw [hmachineNames] at hmachinesNodup hbrought
    simp only [hgroups, hcapabilities] at hsome hmembers hknown
    refine ⟨hblank, hnodup, hmachinesNodup, hsome, hmembers, hknown, fun machine hmachine => ?_⟩
    obtain ⟨registration, hmem, hbrings⟩ := (exists_brings?_iff hmodifiers).2 hmachine
    exact hbrought registration hmem machine hbrings
  · rintro ⟨hblank, hnodup, hmachinesNodup, hsome, hmembers, hknown, hasked⟩
    rw [← hshared] at hblank hnodup
    rw [← hmachineNames] at hmachinesNodup hasked
    rw [← hcapabilities] at hknown
    simp only [← hgroups] at hsome hmembers hknown
    refine ⟨⟨hblank, hnodup, hmachinesNodup⟩, hsome, hmembers, hknown, fun registration hmem machine hbrings => ?_⟩
    exact hasked machine ((exists_brings?_iff hmodifiers).1 ⟨registration, hmem, hbrings⟩)

end Definitions

/-- A manifest is built exactly if it is valid. -/
theorem exists_build_iff : (∃ r, m.build = .ok r) ↔ m.Valid := by
  constructor
  · rintro ⟨r, hbuild⟩
    obtain ⟨machines, modifiers, hmachines, hmodifiers, hregistry⟩ := build_eq_ok_iff.1 hbuild
    have hcoherent := consistent_definitions_iff (forall₂_machines hmachines) (forall₂_modifiers hmodifiers)
    have hconsistent := (Registry.of_build_eq_ok hregistry).1
    refine ⟨hcoherent.1 hconsistent, fun entry hentry => ?_, fun entry hentry => ?_⟩
    · exact MachineEntry.exists_toMachine_iff.1 (exists_of_read_mapM hmachines hentry)
    · exact ModifierEntry.exists_toModifier_iff.1 (exists_of_read_mapM hmodifiers hentry)
  · intro hvalid
    obtain ⟨machines, hmachines⟩ := exists_read_mapM_iff.2 fun entry hentry =>
      MachineEntry.exists_toMachine_iff.2 (hvalid.machines_declare entry hentry)
    obtain ⟨modifiers, hmodifiers⟩ := exists_read_mapM_iff.2 fun entry hentry =>
      ModifierEntry.exists_toModifier_iff.2 (hvalid.defaults_fit entry hentry)
    have hcoherent := consistent_definitions_iff (forall₂_machines hmachines) (forall₂_modifiers hmodifiers)
    obtain ⟨r, hregistry⟩ := Registry.exists_build_eq_ok (hcoherent.2 hvalid.toCoherent)
    exact ⟨r, build_eq_ok_iff.2 ⟨machines, modifiers, hmachines, hmodifiers, hregistry⟩⟩

/-- A registry has the definitions of the entries in the order of their names. -/
theorem exists_translates_of_build (hbuild : m.build = .ok r) :
    ∃ ordered : Manifest, ordered.Rearranges m ∧ r.Translates ordered := by
  obtain ⟨machines, modifiers, hmachines, hmodifiers, hregistry⟩ := build_eq_ok_iff.1 hbuild
  obtain ⟨_, hholds⟩ := Registry.of_build_eq_ok hregistry
  have hvalid := exists_build_iff.1 ⟨r, hbuild⟩
  obtain ⟨hcapabilityNames, hgroupNames, _⟩ := List.nodup_append.1 hvalid.names_nodup
  obtain ⟨hconceptNames, hmodifierNames, _⟩ := List.nodup_append.1 hcapabilityNames
  obtain ⟨orderedMachines, hmachinesPerm, horderedMachines⟩ :=
    (hholds.machines.congr fun _ => machine_mem_definitions).exists_defines
      (forall₂_machines hmachines) (fun _ _ hm => hm.name_eq) hvalid.machineNames_nodup
  obtain ⟨orderedConcepts, hconceptsPerm, horderedConcepts⟩ :=
    (hholds.concepts.congr fun _ => concept_mem_definitions).exists_defines
      (forall₂_concepts m.concepts) (fun _ _ hc => hc.name_eq) hconceptNames
  obtain ⟨orderedModifiers, hmodifiersPerm, horderedModifiers⟩ :=
    (hholds.modifiers.congr fun _ => modifier_mem_definitions).exists_defines
      (forall₂_modifiers hmodifiers) (fun _ _ hm => hm.name_eq) hmodifierNames
  obtain ⟨orderedGroups, hgroupsPerm, horderedGroups⟩ :=
    (hholds.groups.congr fun _ => group_mem_definitions).exists_defines
      (List.forall₂_same.2 fun group _ => (rfl : group = group))
      (fun _ _ hg => congrArg Group.name hg.symm) hgroupNames
  exact ⟨⟨orderedMachines, orderedConcepts, orderedModifiers, orderedGroups⟩,
    ⟨hmachinesPerm, hconceptsPerm, hmodifiersPerm, hgroupsPerm⟩,
    ⟨horderedConcepts, horderedModifiers, horderedGroups, horderedMachines⟩⟩

/-- A manifest has one arrangement in the order of names. -/
theorem Rearranges.unique {other : Manifest} (hordered : ordered.Rearranges m) (hother : other.Rearranges m)
    (hnames : ordered.InNameOrder) (hotherNames : other.InNameOrder) : ordered = other := by
  obtain ⟨machines, concepts, modifiers, groups⟩ := ordered
  obtain ⟨machines', concepts', modifiers', groups'⟩ := other
  have hsame : ∀ {ε : Type} {named : ε → String} {entries first second : List ε}, first.Perm entries →
      second.Perm entries → first.Pairwise (named · < named ·) → second.Pairwise (named · < named ·) →
      first = second := by
    intro ε named entries first second hfirst hsecond hfirstNames hsecondNames
    refine (hfirst.trans hsecond.symm).eq_of_pairwise (fun a b _ _ hless hmore => ?_) hfirstNames hsecondNames
    exact absurd hmore (String.lt_asymm hless)
  cases hsame hordered.machines hother.machines hnames.machines hotherNames.machines
  cases hsame hordered.concepts hother.concepts hnames.concepts hotherNames.concepts
  cases hsame hordered.modifiers hother.modifiers hnames.modifiers hotherNames.modifiers
  cases hsame hordered.groups hother.groups hnames.groups hotherNames.groups
  rfl

end Manifest

theorem Registry.Translates.inNameOrder {r : Registry} {m : Manifest} (hr : r.Translates m) : m.InNameOrder :=
  ⟨hr.machines.inNameOrder, hr.concepts.inNameOrder, hr.modifiers.inNameOrder, hr.groups.inNameOrder⟩

end CapabilityArena
