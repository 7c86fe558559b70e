import CapabilityArena.Proofs.Registry.Consistency
import CapabilityArena.Proofs.Transaction.Change
import CapabilityArena.Proofs.Value.References

/-!
Well-formed entities. Which capabilities are active and which machine runs is in order after every single
change (`Assembled`); that the fields are in order, too, is what validation adds when the changes are over.
-/

namespace CapabilityArena

/-- The capability of this name brings this state machine. -/
def Registry.Brings (r : Registry) (name machine : String) : Prop :=
  ∃ capability, r.capability? name = some capability ∧ capability.machine = some machine

namespace Registry

variable {r : Registry} {name : String}

theorem contains_concepts {c : Concept} (hknown : r.capability? name = some (.concept c)) :
    r.concepts.contains name = true := by
  unfold capability? at hknown
  split at hknown
  next found hfound =>
    rw [Dictionary.contains, hfound]
    rfl
  next =>
    obtain ⟨_, _, hmodifier⟩ := Option.map_eq_some_iff.1 hknown
    cases hmodifier

theorem contains_modifiers {m : Modifier} (hknown : r.capability? name = some (.modifier m)) :
    r.modifiers.contains name = true := by
  unfold capability? at hknown
  split at hknown
  next => cases hknown
  next =>
    obtain ⟨found, hfound, _⟩ := Option.map_eq_some_iff.1 hknown
    rw [Dictionary.contains, hfound]
    rfl

end Registry

namespace Entity

/-- The active names are registered, each of them once, and no two have a method in common. -/
structure NamesInOrder (registry : Registry) (e : Entity) : Prop where
  nodup : e.active.Nodup
  concept_known : ∀ name ∈ e.concepts, registry.concepts.contains name = true
  modifier_known : ∀ name ∈ e.modifiers, registry.modifiers.contains name = true
  methods_disjoint : ∀ first ∈ e.active, ∀ second ∈ e.active, first ≠ second → ∀ c d,
    registry.capability? first = some c → registry.capability? second = some d →
    ∀ method, c.methods.contains method = true → d.methods.contains method = false

/-- At most one active capability brings a machine, and the machine that runs is the one that it brings. -/
structure MachineInOrder (registry : Registry) (e : Entity) : Prop where
  owner_unique : ∀ first ∈ e.active, ∀ second ∈ e.active, ∀ machine other,
    registry.Brings first machine → registry.Brings second other → first = second
  machine_of_owner : ∀ name ∈ e.active, ∀ machine, registry.Brings name machine →
    ∃ running, e.machine = some running ∧ running.machine = machine
  owner_of_machine : ∀ running, e.machine = some running →
    ∃ name ∈ e.active, registry.Brings name running.machine
  /-- A running machine is in one of its declared states. -/
  current_declared : ∀ running, e.machine = some running →
    ∃ m, registry.machines.get? running.machine = some m ∧ running.current ∈ m.states

structure Assembled (registry : Registry) (e : Entity) : Prop
  extends NamesInOrder registry e, MachineInOrder registry e

structure WellFormed (registry : Registry) (e : Entity) : Prop extends Assembled registry e where
  /-- The fields that active capabilities require are there, with values of the required shapes. -/
  shapes : ∀ name ∈ e.active, ∀ capability, registry.capability? name = some capability →
    ∀ key shape, capability.shapes.get? key = some shape →
    ∃ value, e.state.get? key = some value ∧ shape.admits value = true
  /-- The field that shows the state of the machine shows the current one. -/
  shown : ∀ running m key, e.machine = some running →
    registry.machines.get? running.machine = some m → m.stateKey = some key →
    e.state.get? key = some (.str running.current)

theorem NamesInOrder.isKnown {registry : Registry} {e : Entity} (hnames : e.NamesInOrder registry)
    {name : String} (hmem : name ∈ e.active) : registry.isKnown name = true := by
  rw [Registry.isKnown_iff_contains]
  exact (List.mem_append.1 hmem).imp (hnames.concept_known name) (hnames.modifier_known name)

theorem assembled_bare (registry : Registry) (id : EntityId) (state : State) :
    (bare id state).Assembled registry where
  nodup := List.nodup_nil
  concept_known := by simp [bare]
  modifier_known := by simp [bare]
  methods_disjoint := by simp [bare, active]
  owner_unique := by simp [bare, active]
  machine_of_owner := by simp [bare, active]
  owner_of_machine := by simp [bare]
  current_declared := by simp [bare]

variable {e : Entity} {name : String} {capability : Capability}

theorem perm_active_activated (e : Entity) (name : String) (capability : Capability) :
    (e.activated name capability).active.Perm (name :: e.active) := by
  cases capability with
  | concept c =>
    simp only [activated, active, List.append_assoc, List.singleton_append]
    exact List.perm_middle
  | modifier m =>
    simp only [activated, active, ← List.append_assoc]
    exact List.perm_append_singleton name (e.concepts ++ e.modifiers)

theorem mem_active_activated {query : String} :
    query ∈ (e.activated name capability).active ↔ query = name ∨ query ∈ e.active := by
  rw [(perm_active_activated e name capability).mem_iff, List.mem_cons]

theorem active_deactivate (e : Entity) (name : String) :
    (e.deactivate name).active = e.active.filter (· != name) := by
  simp only [active, deactivate, List.filter_append]

theorem mem_active_deactivate {query : String} :
    query ∈ (e.deactivate name).active ↔ query ∈ e.active ∧ query ≠ name := by
  simp [active_deactivate]

theorem hasActive_iff : e.hasActive name = true ↔ name ∈ e.active := by
  simp [hasActive]

end Entity

namespace Surroundings

variable {s : Surroundings} {e e' : Entity} {name : String} {capability : Capability}

theorem provider?_eq_none {method : String} (hprovider : s.provider? e method = none) :
    ∀ name ∈ e.active, ∀ capability, s.registry.capability? name = some capability →
      capability.methods.contains method = false := by
  intro name hmem capability hcapability
  have hnot := List.find?_eq_none.1 hprovider name hmem
  simpa [hcapability] using hnot

/-- A capability without clashes shares no method with the active ones, and one that brings a machine finds
    none running. -/
theorem checkAmbiguity_eq_ok (hclear : s.checkAmbiguity e capability = .ok ()) :
    (∀ name ∈ e.active, ∀ c, s.registry.capability? name = some c →
      ∀ method, capability.methods.contains method = true → c.methods.contains method = false) ∧
    (capability.machine = none ∨ e.machine = none) := by
  unfold checkAmbiguity at hclear
  cases hmethods : s.methodClash? e capability with
  | some failure =>
    rw [hmethods] at hclear
    cases hclear
  | none =>
    cases hmachine : s.machineClash? e capability with
    | some failure =>
      rw [hmethods, hmachine] at hclear
      cases hclear
    | none =>
      constructor
      · intro name hmem c hc method hmethod
        have hnone := List.findSome?_eq_none_iff.1 hmethods method (Dictionary.mem_keys_iff.2 hmethod)
        exact provider?_eq_none (Option.map_eq_none_iff.1 hnone) name hmem c hc
      · unfold machineClash? at hmachine
        split at hmachine
        · cases hmachine
        next hnot =>
          cases hbrought : capability.machine with
          | none => exact .inl rfl
          | some machine =>
            cases hrunning : e.machine with
            | none => exact .inr rfl
            | some running => exact absurd hrunning (hnot machine running hbrought)

/-! What validation establishes, and what is enough for it. -/

theorem violation?_eq_none_iff {shapes : FieldShapes} {state : State} :
    shapes.violation? name state = none ↔ ∀ key shape, shapes.get? key = some shape →
      ∃ value, state.get? key = some value ∧ shape.admits value = true := by
  rw [FieldShapes.violation?, List.findSome?_eq_none_iff, Prod.forall]
  refine forall₂_congr fun key shape => imp_congr Dictionary.mem_entries_iff ?_
  cases hvalue : state.get? key with
  | none => simp only [hvalue, reduceCtorEq, false_and, exists_false]
  | some value => cases hadmits : shape.admits value <;> simp [hvalue, hadmits]

theorem checkShapes_eq_ok_iff {state : State} {names : List String} :
    s.checkShapes state names = .ok () ↔ ∀ name ∈ names, ∃ capability,
      s.registry.capability? name = some capability ∧ capability.shapes.violation? name state = none := by
  induction names with
  | nil => simp [checkShapes]
  | cons first names ih =>
    rw [checkShapes, List.forall_mem_cons, ← ih]
    cases hfound : s.registry.capability? first with
    | none => simp
    | some capability => cases hviolation : capability.shapes.violation? first state <;> simp [hviolation]

theorem checkStateField_eq_ok_iff : s.checkStateField e = .ok () ↔
    ∀ running m key, e.machine = some running → s.registry.machines.get? running.machine = some m →
      m.stateKey = some key → e.state.get? key = some (.str running.current) := by
  constructor
  · intro hcheck running m key hrunning hmachine hkey
    have hfield : stateField? s.registry running = some key := by
      rw [stateField?, hmachine, Option.bind_some, hkey]
    simp only [checkStateField, hrunning, hfield] at hcheck
    split at hcheck
    next current hshown =>
      split at hcheck
      next hcurrent => rw [hshown, hcurrent]
      next => cases hcheck
    next => cases hcheck
    next => cases hcheck
  · intro hshown
    unfold checkStateField
    split
    next => rfl
    next running hrunning =>
      split
      next => rfl
      next key hfield =>
        obtain ⟨m, hmachine, hkey⟩ := Option.bind_eq_some_iff.1 hfield
        simp only [hshown running m key hrunning hmachine hkey, ↓reduceIte]

theorem checkStored_eq_ok_iff {values : List Value} :
    s.checkStored values = .ok () ↔ ∀ v ∈ values, v.HomeIn s.arena := by
  induction values with
  | nil => simp [checkStored]
  | cons first values ih =>
    rw [checkStored, List.forall_mem_cons, ← ih, ← Value.checkStorable_eq_ok_iff]
    cases first.checkStorable s.arena <;> simp

/-- An entity is valid if its fields are as the active capabilities require, at home in the arena, and in
    agreement with the machine. -/
theorem validate_eq_ok_iff : s.validate e = .ok () ↔
    (∀ name ∈ e.active, ∃ capability, s.registry.capability? name = some capability ∧
      ∀ key shape, capability.shapes.get? key = some shape →
        ∃ value, e.state.get? key = some value ∧ shape.admits value = true) ∧
    (Content.entity e).HomeIn s.arena ∧
    ∀ running m key, e.machine = some running → s.registry.machines.get? running.machine = some m →
      m.stateKey = some key → e.state.get? key = some (.str running.current) := by
  have hparts : s.validate e = .ok () ↔ s.checkShapes e.state e.active = .ok () ∧
      s.checkStored e.state.values = .ok () ∧ s.checkStateField e = .ok () := by
    simp only [validate, read_bind_eq_ok]
    constructor
    · rintro ⟨_, hshapes, _, hstored, hshown⟩
      exact ⟨hshapes, hstored, hshown⟩
    · rintro ⟨hshapes, hstored, hshown⟩
      exact ⟨(), hshapes, (), hstored, hshown⟩
  rw [hparts, checkShapes_eq_ok_iff, checkStored_eq_ok_iff, checkStateField_eq_ok_iff]
  simp only [violation?_eq_none_iff]
  rfl

/-- The fields of a valid entity are at home in its arena. -/
theorem homeIn_of_validate (hvalid : s.validate e = .ok ()) :
    (Content.entity e).HomeIn s.arena :=
  (validate_eq_ok_iff.1 hvalid).2.1

/-- An entity that is in order and valid is well-formed. -/
theorem wellFormed_of_validate (hassembled : e.Assembled s.registry) (hvalid : s.validate e = .ok ()) :
    e.WellFormed s.registry := by
  obtain ⟨hshapes, _, hshown⟩ := validate_eq_ok_iff.1 hvalid
  refine ⟨hassembled, fun name hmem capability hcapability => ?_, hshown⟩
  obtain ⟨found, hfound, hall⟩ := hshapes name hmem
  cases hfound.symm.trans hcapability
  exact hall

/-- A well-formed entity is valid wherever its fields are at home. -/
theorem validate_of_wellFormed (hwellFormed : e.WellFormed s.registry)
    (hhome : (Content.entity e).HomeIn s.arena) : s.validate e = .ok () := by
  refine validate_eq_ok_iff.2 ⟨fun name hmem => ?_, hhome, hwellFormed.shown⟩
  obtain ⟨capability, hknown⟩ := Option.isSome_iff_exists.1 (hwellFormed.isKnown hmem)
  exact ⟨capability, hknown, hwellFormed.shapes name hmem capability hknown⟩

end Surroundings

namespace Entity

open Surroundings (admission_eq_ok dismiss_eq_ok checkAmbiguity_eq_ok)

variable {registry : Registry} {s : Surroundings} {e e' : Entity} {name : String}
  {capability : Capability}

namespace NamesInOrder

/-- The order of names is about the lists of names alone. -/
theorem of_lists (hnames : e.NamesInOrder registry) (hconcepts : e'.concepts = e.concepts)
    (hmodifiers : e'.modifiers = e.modifiers) : e'.NamesInOrder registry := by
  have hactive : e'.active = e.active := by rw [active, active, hconcepts, hmodifiers]
  constructor
  case nodup => exact hactive ▸ hnames.nodup
  case concept_known => exact hconcepts ▸ hnames.concept_known
  case modifier_known => exact hmodifiers ▸ hnames.modifier_known
  case methods_disjoint => exact hactive ▸ hnames.methods_disjoint

/-- What is let in shares neither its name nor a method with what is active. -/
theorem activated (hnames : e.NamesInOrder s.registry)
    (hadmitted : s.admission name e = .ok capability) :
    (e.activated name capability).NamesInOrder s.registry := by
  obtain ⟨hknown, hinactive, _, hclear⟩ := admission_eq_ok hadmitted
  have hmethods := (checkAmbiguity_eq_ok hclear).1
  have hself : ∀ c, s.registry.capability? name = some c → c = capability :=
    fun c hc => Option.some.inj (hc.symm.trans hknown)
  constructor
  case nodup =>
    refine (perm_active_activated e name capability).nodup_iff.2 (List.nodup_cons.2 ⟨?_, hnames.nodup⟩)
    rw [← hasActive_iff, hinactive]
    exact Bool.false_ne_true
  case concept_known =>
    cases capability with
    | modifier m => exact hnames.concept_known
    | concept c =>
      intro query hquery
      rcases List.mem_append.1 hquery with hold | hnew
      · exact hnames.concept_known query hold
      · rw [List.mem_singleton.1 hnew]
        exact Registry.contains_concepts hknown
  case modifier_known =>
    cases capability with
    | concept c => exact hnames.modifier_known
    | modifier m =>
      intro query hquery
      rcases List.mem_append.1 hquery with hold | hnew
      · exact hnames.modifier_known query hold
      · rw [List.mem_singleton.1 hnew]
        exact Registry.contains_modifiers hknown
  case methods_disjoint =>
    intro first hfirst second hsecond hne c d hc hd method hmethod
    rcases mem_active_activated.1 hfirst with rfl | hfirstOld
    · rcases mem_active_activated.1 hsecond with rfl | hsecondOld
      · exact absurd rfl hne
      · rw [hself c hc] at hmethod
        exact hmethods second hsecondOld d hd method hmethod
    · rcases mem_active_activated.1 hsecond with rfl | hsecondOld
      · rw [hself d hd]
        cases hshared : capability.methods.contains method with
        | false => rfl
        | true =>
          have hnot := hmethods first hfirstOld c hc method hshared
          rw [hmethod] at hnot
          cases hnot
      · exact hnames.methods_disjoint first hfirstOld second hsecondOld hne c d hc hd method hmethod

theorem deactivate (hnames : e.NamesInOrder registry) (name : String) :
    (e.deactivate name).NamesInOrder registry where
  nodup := by
    rw [active_deactivate]
    exact hnames.nodup.filter _
  concept_known := fun query hquery => hnames.concept_known query (List.mem_filter.1 hquery).1
  modifier_known := fun query hquery => hnames.modifier_known query (List.mem_filter.1 hquery).1
  methods_disjoint := fun first hfirst second hsecond =>
    hnames.methods_disjoint first (mem_active_deactivate.1 hfirst).1 second
      (mem_active_deactivate.1 hsecond).1

end NamesInOrder

namespace MachineInOrder

/-- The order of the machine is about who among the active ones owns it, and about nothing else. -/
theorem of_owners (hmachine : e.MachineInOrder registry) (hsame : e'.machine = e.machine)
    (howners : ∀ name machine, registry.Brings name machine → (name ∈ e'.active ↔ name ∈ e.active)) :
    e'.MachineInOrder registry where
  owner_unique := by
    intro first hfirst second hsecond machine other hbrings hother
    have hfirstOld := (howners first machine hbrings).1 hfirst
    have hsecondOld := (howners second other hother).1 hsecond
    exact hmachine.owner_unique first hfirstOld second hsecondOld machine other hbrings hother
  machine_of_owner := by
    intro name hmem machine hbrings
    rw [hsame]
    exact hmachine.machine_of_owner name ((howners name machine hbrings).1 hmem) machine hbrings
  owner_of_machine := by
    intro running hrunning
    rw [hsame] at hrunning
    obtain ⟨name, hmem, hbrings⟩ := hmachine.owner_of_machine running hrunning
    exact ⟨name, (howners name running.machine hbrings).2 hmem, hbrings⟩
  current_declared := by
    intro running hrunning
    rw [hsame] at hrunning
    exact hmachine.current_declared running hrunning

theorem move {running : RunningMachine} {m : Machine} {target : String}
    (hmachine : e.MachineInOrder registry) (hrunning : e.machine = some running)
    (hdefined : registry.machines.get? running.machine = some m)
    (hpermits : m.permits running.current target = true) :
    { e with machine := some { running with current := target } }.MachineInOrder registry where
  owner_unique := hmachine.owner_unique
  machine_of_owner := by
    intro name hmem machine hbrings
    obtain ⟨found, hfound, hname⟩ := hmachine.machine_of_owner name hmem machine hbrings
    cases hrunning.symm.trans hfound
    exact ⟨_, rfl, hname⟩
  owner_of_machine := by
    intro moved hmoved
    cases hmoved
    exact hmachine.owner_of_machine running hrunning
  current_declared := by
    intro moved hmoved
    cases hmoved
    exact ⟨m, hdefined, Machine.mem_states_of_permits hpermits⟩

/-- The first owner: no machine runs, so nobody who is active brings one. -/
theorem start {key : String} {m : Machine} (hmachine : e.MachineInOrder registry)
    (hidle : e.machine = none) (hbrings : registry.Brings name key)
    (hdefined : registry.machines.get? key = some m) (hname : m.name = key)
    (hmem : ∀ query, query ∈ e'.active ↔ query = name ∨ query ∈ e.active)
    (hstarted : e'.machine = some m.start) : e'.MachineInOrder registry := by
  have honly : ∀ owner ∈ e'.active, ∀ machine, registry.Brings owner machine → owner = name := by
    intro owner howner machine hother
    rcases (hmem owner).1 howner with heq | hold
    · exact heq
    · obtain ⟨running, hrunning, _⟩ := hmachine.machine_of_owner owner hold machine hother
      cases hidle.symm.trans hrunning
  constructor
  case owner_unique =>
    intro first hfirst second hsecond machine other hbrings hother
    rw [honly first hfirst machine hbrings, honly second hsecond other hother]
  case machine_of_owner =>
    intro owner howner machine hother
    obtain ⟨c, hc, hbrought⟩ := hbrings
    obtain ⟨d, hd, hmachineOf⟩ := honly owner howner machine hother ▸ hother
    cases hc.symm.trans hd
    cases hbrought.symm.trans hmachineOf
    exact ⟨m.start, hstarted, hname⟩
  case owner_of_machine =>
    intro running hrunning
    cases hstarted.symm.trans hrunning
    refine ⟨name, (hmem name).2 (.inl rfl), ?_⟩
    rwa [Machine.start, hname]
  case current_declared =>
    intro running hrunning
    cases hstarted.symm.trans hrunning
    refine ⟨m, ?_, m.initial_mem_states⟩
    rwa [Machine.start, hname]

/-- The only owner goes, and its machine with it. -/
theorem stop {key : String} (hmachine : e.MachineInOrder registry) (hactive : name ∈ e.active)
    (hbrings : registry.Brings name key)
    (hmem : ∀ query, query ∈ e'.active ↔ query ∈ e.active ∧ query ≠ name)
    (hstopped : e'.machine = none) : e'.MachineInOrder registry := by
  have hnobody : ∀ owner ∈ e'.active, ∀ machine, ¬ registry.Brings owner machine := by
    intro owner howner machine hother
    obtain ⟨hold, hne⟩ := (hmem owner).1 howner
    exact hne (hmachine.owner_unique owner hold name hactive machine key hother hbrings)
  constructor
  case owner_unique =>
    intro first hfirst second hsecond machine other hbrings
    exact absurd hbrings (hnobody first hfirst machine)
  case machine_of_owner =>
    intro owner howner machine hother
    exact absurd hother (hnobody owner howner machine)
  case owner_of_machine =>
    intro running hrunning
    cases hstopped.symm.trans hrunning
  case current_declared =>
    intro running hrunning
    cases hstopped.symm.trans hrunning

end MachineInOrder

namespace Assembled

/-- Fields play no part in this order. -/
theorem fields (hassembled : e.Assembled registry) (state : State) :
    { e with state := state }.Assembled registry :=
  ⟨hassembled.toNamesInOrder.of_lists rfl rfl,
    hassembled.toMachineInOrder.of_owners rfl fun _ _ _ => Iff.rfl⟩

/-- A capability is let in without clashes, so it brings a machine only where none runs. -/
theorem attach {machine : Option RunningMachine} (hnamed : s.registry.MachinesNamed)
    (hassembled : e.Assembled s.registry) (hadmitted : s.admission name e = .ok capability)
    (hstarted : s.Started capability.machine e.machine machine) :
    { e.activated name capability with machine := machine }.Assembled s.registry := by
  refine ⟨(hassembled.activated hadmitted).of_lists rfl rfl, ?_⟩
  obtain ⟨hknown, _, _, hclear⟩ := admission_eq_ok hadmitted
  have hmem : ∀ query, query ∈ (e.activated name capability).active ↔
      query = name ∨ query ∈ e.active := fun _ => mem_active_activated
  cases hbrought : capability.machine with
  | none =>
    rw [hbrought] at hstarted
    refine hassembled.of_owners hstarted fun owner other hbrings => (hmem owner).trans (or_iff_right ?_)
    rintro rfl
    obtain ⟨c, hc, hother⟩ := hbrings
    cases hknown.symm.trans hc
    cases hbrought.symm.trans hother
  | some key =>
    rw [hbrought] at hstarted
    obtain ⟨m, hdefined, hstart⟩ := hstarted
    have hidle : e.machine = none := by
      rcases (checkAmbiguity_eq_ok hclear).2 with hnone | hnone
      · cases hnone.symm.trans hbrought
      · exact hnone
    exact hassembled.start hidle ⟨capability, hknown, hbrought⟩ hdefined (hnamed key m hdefined) hmem hstart

theorem detach (hassembled : e.Assembled s.registry) (hdismissed : s.dismiss name e = .ok capability) :
    { e.deactivate name with
      machine := if capability.machine.isSome then none else e.machine }.Assembled s.registry := by
  refine ⟨(hassembled.deactivate name).of_lists rfl rfl, ?_⟩
  obtain ⟨hknown, hactive, _⟩ := dismiss_eq_ok hdismissed
  have hmem : ∀ query, query ∈ (e.deactivate name).active ↔ query ∈ e.active ∧ query ≠ name :=
    fun _ => mem_active_deactivate
  cases hbrought : capability.machine with
  | none =>
    refine hassembled.of_owners rfl fun owner other hbrings => (hmem owner).trans (and_iff_left ?_)
    rintro rfl
    obtain ⟨c, hc, hother⟩ := hbrings
    cases hknown.symm.trans hc
    cases hbrought.symm.trans hother
  | some key =>
    exact hassembled.stop (hasActive_iff.1 hactive) ⟨capability, hknown, hbrought⟩ hmem rfl

theorem change (hnamed : s.registry.MachinesNamed) (hassembled : e.Assembled s.registry)
    (hchange : s.Change e e') : e'.Assembled s.registry := by
  cases hchange with
  | fields state => exact hassembled.fields state
  | move state hrunning hmachine hpermits =>
    have hmoved := hassembled.toMachineInOrder.move hrunning hmachine hpermits
    exact ⟨hassembled.toNamesInOrder.of_lists rfl rfl, hmoved.of_owners rfl fun _ _ _ => Iff.rfl⟩
  | attach state hadmitted hstarted => exact (hassembled.attach hnamed hadmitted hstarted).fields state
  | detach state hdismissed => exact (hassembled.detach hdismissed).fields state

theorem changes (hnamed : s.registry.MachinesNamed) (hassembled : e.Assembled s.registry)
    (hchanges : s.Changes e e') : e'.Assembled s.registry := by
  induction hchanges with
  | refl => exact hassembled
  | tail _ hchange ih => exact ih.change hnamed hchange

end Assembled

end Entity

end CapabilityArena
