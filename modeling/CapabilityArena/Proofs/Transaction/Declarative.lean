import CapabilityArena.Proofs.Dictionary.Overwriting
import CapabilityArena.Proofs.Entity.WellFormed

/-!
Capabilities without code of their own: concepts, and modifiers that do nothing but write the defaults of
their fields and delete these fields again. What they do to an entity can be written down (`attached`,
`detached`); of all that attaching and detaching do then, only validation can still fail.
-/

namespace CapabilityArena

/-- A concept, or a modifier whose hooks write and delete the fields of this list. -/
inductive Capability.Declarative : Capability → List Field → Prop where
  | concept (c : Concept) : Declarative (.concept c) []
  | modifier {m : Modifier} {fields : List Field} (hadd : m.onAdd = some (Modifier.writeDefaults fields))
    (hremove : m.onRemove = some (Modifier.eraseFields fields)) : Declarative (.modifier m) fields

/-- The field in which a machine shows the state that it starts in. -/
def Machine.shownStart (m : Machine) : List (String × Value) :=
  (m.stateKey.map fun key => (key, Value.str m.initial)).toList

theorem Machine.get?_shownStart (m : Machine) (key : String) :
    (Dictionary.ofList m.shownStart).get? key =
      if m.stateKey = some key then some (.str m.initial) else none := by
  rw [shownStart]
  cases m.stateKey with
  | none => rfl
  | some shown =>
    simp only [Option.map_some, Option.toList_some, Dictionary.ofList, Dictionary.insertAll,
      List.foldl_cons, List.foldl_nil, Option.some.injEq]
    by_cases hkey : key = shown
    · rw [hkey, Dictionary.get?_insert_self, if_pos rfl]
    · rw [Dictionary.get?_insert_of_ne _ _ hkey, if_neg (Ne.symm hkey), Dictionary.get?_empty]

/-- The machine that a capability brings. -/
def Registry.machineOf? (r : Registry) (capability : Capability) : Option Machine :=
  capability.machine.bind r.machines.get?

/-- What attaching a declarative capability writes, in this order. -/
def Registry.writes (r : Registry) (capability : Capability) (fields : List Field) :
    List (String × Value) :=
  fields.map (fun field => (field.key, field.default)) ++
    (r.machineOf? capability).toList.flatMap Machine.shownStart

theorem Entity.deactivate_activated {e : Entity} {name : String} {capability : Capability}
    (hnot : name ∉ e.active) : (e.activated name capability).deactivate name = e := by
  have hkept : ∀ names : List String, name ∉ names → names.filter (· != name) = names := by
    intro names hnot
    refine List.filter_eq_self.2 fun query hmem => bne_iff_ne.2 ?_
    rintro rfl
    exact hnot hmem
  obtain ⟨hconcepts, hmodifiers⟩ := not_or.1 (List.mem_append.not.1 hnot)
  cases capability <;> simp [activated, deactivate, List.filter_append, hkept, hconcepts, hmodifiers]

/-- The fields that are written, each with what it holds in the end. -/
def Registry.overlay (r : Registry) (capability : Capability) (fields : List Field) : State :=
  .ofList (r.writes capability fields)

/-- The state of the machine hides the default of a field of the same key. -/
theorem Registry.get?_overlay (r : Registry) (capability : Capability) (fields : List Field)
    (key : String) : (r.overlay capability fields).get? key =
      ((r.machineOf? capability).bind fun m =>
        if m.stateKey = some key then some (.str m.initial) else none).or
      ((Dictionary.ofList (fields.map fun field => (field.key, field.default))).get? key) := by
  rw [overlay, writes, Dictionary.get?_ofList_append]
  cases r.machineOf? capability with
  | none => rfl
  | some m =>
    rw [Option.toList_some, List.flatMap_cons, List.flatMap_nil, List.append_nil, m.get?_shownStart,
      Option.bind_some]

namespace Surroundings

variable {s : Surroundings} {e e' : Entity} {name : String} {capability : Capability}
  {fields : List Field}

/-- The entity after attaching a declarative capability. -/
def attached (s : Surroundings) (name : String) (capability : Capability) (fields : List Field)
    (e : Entity) : Entity :=
  { e.activated name capability with
    state := e.state.insertAll (s.registry.writes capability fields)
    machine := ((s.registry.machineOf? capability).map Machine.start).or e.machine }

/-- The entity after detaching a declarative capability. -/
def detached (s : Surroundings) (name : String) (capability : Capability) (fields : List Field)
    (e : Entity) : Entity :=
  { e.deactivate name with
    state := e.state.eraseAll ((s.registry.writes capability fields).map (·.1))
    machine := if capability.machine.isSome then none else e.machine }

theorem mem_active_attached {query : String} :
    query ∈ (s.attached name capability fields e).active ↔ query = name ∨ query ∈ e.active :=
  Entity.mem_active_activated

theorem run_activate (hdeclarative : capability.Declarative fields) :
    (activate name capability).run e = .ok () { e.activated name capability with
      state := e.state.insertAll (fields.map fun field => (field.key, field.default)) } := by
  cases hdeclarative with
  | concept c => rfl
  | modifier hadd hremove =>
    simp only [activate, hadd, Dictionary.insertAll, List.foldl_map]
    rfl

theorem run_runRemoval (hdeclarative : capability.Declarative fields) :
    (runRemoval name capability).run e = .ok () { e with
      state := e.state.eraseAll (fields.map (·.key)) } := by
  cases hdeclarative with
  | concept c => rfl
  | modifier hadd hremove =>
    simp only [runRemoval, hremove, Dictionary.eraseAll, List.foldl_map]
    rfl

theorem run_installMachine
    (hthere : ∀ key, capability.machine = some key → s.registry.machines.contains key = true) :
    (s.installMachine capability.machine).run e = .ok () { e with
      state := e.state.insertAll ((s.registry.machineOf? capability).toList.flatMap Machine.shownStart)
      machine := ((s.registry.machineOf? capability).map Machine.start).or e.machine } := by
  unfold Registry.machineOf?
  cases hbrought : capability.machine with
  | none => rfl
  | some key =>
    obtain ⟨m, hmachine⟩ := Option.isSome_iff_exists.1 (hthere key hbrought)
    simp only [installMachine, Option.bind_some, hmachine, Machine.shownStart, Option.toList,
      List.flatMap_cons, List.flatMap_nil]
    cases m.stateKey <;> rfl

theorem run_removeMachine :
    (s.removeMachine capability.machine).run e = .ok () { e with
      state := e.state.eraseAll
        (((s.registry.machineOf? capability).toList.flatMap Machine.shownStart).map (·.1))
      machine := if capability.machine.isSome then none else e.machine } := by
  unfold Registry.machineOf?
  cases hbrought : capability.machine with
  | none => rfl
  | some key =>
    cases hmachine : s.registry.machines.get? key with
    | none =>
      simp only [removeMachine, Option.bind_some, hmachine]
      rfl
    | some m =>
      simp only [removeMachine, Option.bind_some, hmachine, Machine.shownStart, Option.toList,
        List.flatMap_cons, List.flatMap_nil]
      cases m.stateKey <;> rfl

/-- Attaching a declarative capability that has been let in is left to validation. -/
theorem run_attach (hadmitted : s.admission name e = .ok capability)
    (hdeclarative : capability.Declarative fields)
    (hthere : ∀ key, capability.machine = some key → s.registry.machines.contains key = true) :
    (s.attach name).run e = unchanged (s.attached name capability fields e)
      (s.validate (s.attached name capability fields e)) := by
  unfold attach
  rw [EStateM.run_bind, EntityOp.run_reading, hadmitted]
  simp only [unchanged]
  rw [EStateM.run_bind, run_activate hdeclarative]
  simp only
  rw [EStateM.run_bind, run_installMachine hthere]
  simp only [← Dictionary.insertAll_append]
  rw [EntityOp.validate, EntityOp.run_reading]
  cases capability <;> rfl

theorem run_detach (hdismissed : s.dismiss name e = .ok capability)
    (hdeclarative : capability.Declarative fields) :
    (s.detach name).run e = unchanged (s.detached name capability fields e)
      (s.validate (s.detached name capability fields e)) := by
  unfold detach
  rw [EStateM.run_bind, EntityOp.run_reading, hdismissed]
  simp only [unchanged]
  rw [EStateM.run_bind, run_runRemoval hdeclarative]
  simp only
  rw [EStateM.run_bind, EStateM.run_modify]
  simp only
  rw [EStateM.run_bind, run_removeMachine]
  simp only
  rw [EntityOp.validate, EntityOp.run_reading]
  have hkeys : (s.registry.writes capability fields).map (·.1) = fields.map (·.key) ++
      ((s.registry.machineOf? capability).toList.flatMap Machine.shownStart).map (·.1) := by
    rw [Registry.writes, List.map_append, List.map_map]
    rfl
  rw [detached, hkeys, Dictionary.eraseAll_append]
  rfl

/-- Taking off what attaching has put on gives back the entity: its fields if none of those written was
    there, the lists of names because the name was in neither, and the machine because a capability that
    brings one is let in only where none runs. -/
theorem detached_attached (hadmitted : s.admission name e = .ok capability)
    (hfree : ∀ key ∈ (s.registry.writes capability fields).map (·.1), e.state.contains key = false) :
    s.detached name capability fields (s.attached name capability fields e) = e := by
  obtain ⟨_, hinactive, _, hclear⟩ := admission_eq_ok hadmitted
  have hnot : name ∉ e.active := by
    rw [← Entity.hasActive_iff, hinactive]
    exact Bool.false_ne_true
  have hmachine : (if capability.machine.isSome then none
      else ((s.registry.machineOf? capability).map Machine.start).or e.machine) = e.machine := by
    cases hbrought : capability.machine with
    | none => simp [Registry.machineOf?, hbrought]
    | some key =>
      rcases (checkAmbiguity_eq_ok hclear).2 with hnone | hidle
      · cases hbrought.symm.trans hnone
      · rw [hidle]
        rfl
  have hparts : s.detached name capability fields (s.attached name capability fields e) =
      { (e.activated name capability).deactivate name with
        state := (e.state.insertAll (s.registry.writes capability fields)).eraseAll
          ((s.registry.writes capability fields).map (·.1))
        machine := if capability.machine.isSome then none
          else ((s.registry.machineOf? capability).map Machine.start).or e.machine } := rfl
  rw [hparts, Dictionary.eraseAll_insertAll hfree, hmachine, Entity.deactivate_activated hnot]

theorem attached_of_attach (hknown : s.registry.capability? name = some capability)
    (hdeclarative : capability.Declarative fields) (hattach : (s.attach name).run e = .ok () e') :
    s.admission name e = .ok capability ∧ e' = s.attached name capability fields e := by
  obtain ⟨found, _, _, hadmitted, hstarted, _⟩ := attach_eq_ok hattach
  cases hknown.symm.trans (admission_eq_ok hadmitted).1
  have hthere : ∀ key, capability.machine = some key → s.registry.machines.contains key = true := by
    intro key hbrought
    rw [hbrought] at hstarted
    obtain ⟨m, hmachine, _⟩ := hstarted
    rw [Dictionary.contains, hmachine, Option.isSome_some]
  rw [run_attach hadmitted hdeclarative hthere] at hattach
  exact ⟨hadmitted, (unchanged_eq_ok hattach).2⟩

end Surroundings

/-- As far as fields are concerned, attaching the capability of this name does nothing but write these, and
    detaching it nothing but delete them. -/
def Registry.Writes (r : Registry) (name : String) (written : List (String × Value)) : Prop :=
  ∃ capability fields, r.capability? name = some capability ∧ capability.Declarative fields ∧
    r.writes capability fields = written

namespace Surroundings

variable {s : Surroundings} {e e' : Entity} {name : String} {written : List (String × Value)}

theorem state_of_attach (hwrites : s.registry.Writes name written)
    (hattach : (s.attach name).run e = .ok () e') : e'.state = e.state.insertAll written := by
  obtain ⟨capability, fields, hknown, hdeclarative, rfl⟩ := hwrites
  obtain ⟨_, rfl⟩ := attached_of_attach hknown hdeclarative hattach
  rfl

/-- Detaching undoes attaching, if the entity was valid and had none of the fields that are written. -/
theorem detach_of_attach (hvalid : s.validate e = .ok ()) (hwrites : s.registry.Writes name written)
    (hfree : ∀ key ∈ written.map (·.1), e.state.contains key = false)
    (hattach : (s.attach name).run e = .ok () e') : (s.detach name).run e' = .ok () e := by
  obtain ⟨capability, fields, hknown, hdeclarative, rfl⟩ := hwrites
  have hid := (change_of_attach hattach).id_eq
  obtain ⟨hadmitted, rfl⟩ := attached_of_attach hknown hdeclarative hattach
  obtain ⟨_, _, hpermits, _⟩ := admission_eq_ok hadmitted
  rw [← hid] at hpermits
  have hactive : (s.attached name capability fields e).hasActive name = true :=
    Entity.hasActive_iff.2 (mem_active_attached.2 (.inl rfl))
  rw [run_detach (dismiss_of_active hknown hactive hpermits) hdeclarative,
    detached_attached hadmitted hfree, hvalid]
  rfl

/-- To remove members in reverse order undoes adding them, if each had the fields that it writes to itself.
    A member that is removed finds the entity as it was after the member was added, which was valid. -/
theorem removal_of_adding {members : List String} {written : String → List (String × Value)}
    (hvalid : s.validate e = .ok ())
    (hwrites : ∀ member ∈ members, s.registry.Writes member (written member))
    (hfree : ∀ member ∈ members, ∀ key ∈ (written member).map (·.1), e.state.contains key = false)
    (hapart : members.Pairwise fun first second =>
      ((written first).map (·.1)).Disjoint ((written second).map (·.1)))
    (hadd : (members.forM s.attach).run e = .ok () e') :
    (members.reverse.forM s.detach).run e' = .ok () e := by
  induction members generalizing e with
  | nil =>
    cases hadd
    rfl
  | cons first members ih =>
    obtain ⟨_, edited, hfirst, hrest⟩ := bind_eq_ok.1 hadd
    obtain ⟨hwritesFirst, hwrites⟩ := List.forall_mem_cons.1 hwrites
    obtain ⟨hfreeFirst, hfree⟩ := List.forall_mem_cons.1 hfree
    obtain ⟨hapartFirst, hapart⟩ := List.pairwise_cons.1 hapart
    have hedited : s.validate edited = .ok () := by
      obtain ⟨_, _, _, _, _, _, hvalid⟩ := attach_eq_ok hfirst
      exact hvalid
    have hstill : ∀ member ∈ members, ∀ key ∈ (written member).map (·.1),
        edited.state.contains key = false := by
      intro member hmem key hkey
      have hother : key ∉ (written first).map (·.1) := fun hboth => hapartFirst member hmem hboth hkey
      rw [state_of_attach hwritesFirst hfirst, Dictionary.contains, Dictionary.get?_insertAll,
        Dictionary.get?_ofList_eq_none_iff.2 hother, Option.none_or]
      exact hfree member hmem key hkey
    rw [List.reverse_cons, List.forM_eq_forM, List.forM_append]
    refine bind_eq_ok.2 ⟨(), edited, ih hedited hwrites hstill hapart hrest, ?_⟩
    exact bind_eq_ok.2 ⟨(), e, detach_of_attach hvalid hwritesFirst hfreeFirst hfirst, rfl⟩

end Surroundings

end CapabilityArena
