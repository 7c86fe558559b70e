import Mathlib.Logic.Relation
import CapabilityArena.Proofs.Operation
import CapabilityArena.Realm.Entities

/-!
What a change can do to an entity. `Change` says it once, case by case, with everything that was checked on
the way; a successful operation on an entity is a sequence of such changes.
-/

namespace CapabilityArena

/-- An entity with one more active name, at the end of the list that names of its kind are in. -/
def Entity.activated (e : Entity) (name : String) : Capability → Entity
  | .concept _ => { e with concepts := e.concepts ++ [name] }
  | .modifier _ => { e with modifiers := e.modifiers ++ [name] }

namespace Surroundings

variable {s : Surroundings} {e e' : Entity} {name : String} {capability : Capability}

/-- The machine of an entity after attaching a capability: the one that it brings, in its first state. -/
def Started (s : Surroundings) (brought : Option String) (before after : Option RunningMachine) : Prop :=
  match brought with
  | none => after = before
  | some key => ∃ m, s.registry.machines.get? key = some m ∧ after = some m.start

inductive Change (s : Surroundings) (e : Entity) : Entity → Prop where
  | fields (state : State) : Change s e { e with state := state }
  | move {running : RunningMachine} {m : Machine} {target : String} (state : State)
    (hrunning : e.machine = some running)
    (hmachine : s.registry.machines.get? running.machine = some m)
    (hpermits : m.permits running.current target = true) :
    Change s e { e with state := state, machine := some { running with current := target } }
  | attach {name : String} {capability : Capability} {machine : Option RunningMachine} (state : State)
    (hadmitted : s.admission name e = .ok capability)
    (hstarted : s.Started capability.machine e.machine machine) :
    Change s e { e.activated name capability with state := state, machine := machine }
  | detach {name : String} {capability : Capability} (state : State)
    (hdismissed : s.dismiss name e = .ok capability) :
    Change s e { e.deactivate name with
      state := state
      machine := if capability.machine.isSome then none else e.machine }

/-- Any number of changes, one after another. -/
abbrev Changes (s : Surroundings) : Entity → Entity → Prop := Relation.ReflTransGen s.Change

/-- Changes leave an entity its identity. -/
theorem Change.id_eq (hchange : s.Change e e') : e'.id = e.id := by
  cases hchange with
  | fields state => rfl
  | move state _ _ _ => rfl
  | @attach name capability machine state _ _ => cases capability <;> rfl
  | detach state _ => rfl

theorem Changes.id_eq (hchanges : s.Changes e e') : e'.id = e.id := by
  induction hchanges with
  | refl => rfl
  | tail _ hchange ih => exact hchange.id_eq.trans ih

theorem capability_eq_ok (hcapability : s.capability name = .ok capability) :
    s.registry.capability? name = some capability := by
  unfold Surroundings.capability at hcapability
  split at hcapability
  next found hfound =>
    cases hcapability
    exact hfound
  next => cases hcapability

theorem permits_of_check {contexts : ContextStack} {id : EntityId} {answer : Unit}
    (hcheck : contexts.check id name = .ok answer) : contexts.permits id name = true := by
  rw [ContextStack.permits, hcheck]

theorem check_of_permits {contexts : ContextStack} {id : EntityId}
    (hpermits : contexts.permits id name = true) : contexts.check id name = .ok () := by
  unfold ContextStack.permits at hpermits
  split at hpermits
  next hcheck => exact hcheck
  next => cases hpermits

theorem capability_of_known (hknown : s.registry.capability? name = some capability) :
    s.capability name = .ok capability := by
  rw [Surroundings.capability, hknown]

/-- Whoever is let in is known, not active, permitted, and clashes with nothing. -/
theorem admission_eq_ok (hadmitted : s.admission name e = .ok capability) :
    s.registry.capability? name = some capability ∧ e.hasActive name = false ∧
      s.contexts.permits e.id name = true ∧ s.checkAmbiguity e capability = .ok () := by
  unfold admission at hadmitted
  obtain ⟨found, hknown, hrest⟩ := read_bind_eq_ok.1 hadmitted
  cases hactive : e.hasActive name with
  | true =>
    rw [hactive] at hrest
    cases hrest
  | false =>
    rw [hactive] at hrest
    obtain ⟨_, hcheck, hrest⟩ := read_bind_eq_ok.1 hrest
    obtain ⟨_, hclash, hrest⟩ := read_bind_eq_ok.1 hrest
    cases hrest
    exact ⟨capability_eq_ok hknown, rfl, permits_of_check hcheck, hclash⟩

/-- And nothing else keeps anybody out. -/
theorem admission_of_clear (hknown : s.registry.capability? name = some capability)
    (hinactive : e.hasActive name = false) (hpermits : s.contexts.permits e.id name = true)
    (hclear : s.checkAmbiguity e capability = .ok ()) : s.admission name e = .ok capability := by
  refine read_bind_eq_ok.2 ⟨capability, capability_of_known hknown, ?_⟩
  rw [hinactive]
  exact read_bind_eq_ok.2 ⟨(), check_of_permits hpermits, read_bind_eq_ok.2 ⟨(), hclear, rfl⟩⟩

theorem dismiss_of_active (hknown : s.registry.capability? name = some capability)
    (hactive : e.hasActive name = true) (hpermits : s.contexts.permits e.id name = true) :
    s.dismiss name e = .ok capability := by
  refine read_bind_eq_ok.2 ⟨capability, capability_of_known hknown, ?_⟩
  rw [hactive]
  exact read_bind_eq_ok.2 ⟨(), check_of_permits hpermits, rfl⟩

theorem dismiss_eq_ok (hdismissed : s.dismiss name e = .ok capability) :
    s.registry.capability? name = some capability ∧ e.hasActive name = true ∧
      s.contexts.permits e.id name = true := by
  unfold dismiss at hdismissed
  obtain ⟨found, hknown, hrest⟩ := read_bind_eq_ok.1 hdismissed
  cases hactive : e.hasActive name with
  | false =>
    rw [hactive] at hrest
    cases hrest
  | true =>
    rw [hactive] at hrest
    obtain ⟨_, hcheck, hrest⟩ := read_bind_eq_ok.1 hrest
    cases hrest
    exact ⟨capability_eq_ok hknown, rfl, permits_of_check hcheck⟩

theorem allowedMove_eq_ok {target : String} {running : RunningMachine} {m : Machine}
    (hallowed : s.allowedMove target e = .ok (running, m)) :
    e.machine = some running ∧ s.registry.machines.get? running.machine = some m ∧
      m.permits running.current target = true := by
  unfold allowedMove at hallowed
  cases hrunning : e.machine with
  | none =>
    rw [hrunning] at hallowed
    cases hallowed
  | some found =>
    rw [hrunning] at hallowed
    cases hmachine : s.registry.machines.get? found.machine with
    | none =>
      simp only [hmachine] at hallowed
      cases hallowed
    | some definition =>
      simp only [hmachine] at hallowed
      obtain ⟨_, hcheck, hrest⟩ := read_bind_eq_ok.1 hallowed
      cases hrest
      refine ⟨rfl, hmachine, ?_⟩
      unfold RunningMachine.check at hcheck
      split at hcheck
      next hpermits => exact hpermits
      next => cases hcheck

theorem activate_eq_ok (hactivate : (activate name capability).run e = .ok () e') :
    ∃ state, e' = { e.activated name capability with state := state } := by
  cases capability with
  | concept c =>
    cases hactivate
    exact ⟨e.state, rfl⟩
  | modifier m =>
    cases hhook : m.onAdd with
    | none =>
      simp only [activate, hhook] at hactivate
      cases hactivate
      exact ⟨e.state, rfl⟩
    | some hook =>
      simp only [activate, hhook] at hactivate
      obtain ⟨_, edited, hedit, hrest⟩ := bind_eq_ok.1 hactivate
      obtain ⟨state, rfl⟩ := EntityOp.onState_eq_ok hedit
      cases hrest
      exact ⟨state, rfl⟩

theorem installMachine_eq_ok {brought : Option String}
    (hinstall : (s.installMachine brought).run e = .ok () e') :
    ∃ state machine, e' = { e with state := state, machine := machine } ∧
      s.Started brought e.machine machine := by
  cases brought with
  | none =>
    cases hinstall
    exact ⟨e.state, e.machine, rfl, rfl⟩
  | some key =>
    cases hmachine : s.registry.machines.get? key with
    | none =>
      simp only [installMachine, hmachine] at hinstall
      cases hinstall
    | some m =>
      cases hkey : m.stateKey with
      | none =>
        simp only [installMachine, hmachine, hkey] at hinstall
        cases hinstall
        exact ⟨e.state, some m.start, rfl, m, hmachine, rfl⟩
      | some shown =>
        simp only [installMachine, hmachine, hkey] at hinstall
        cases hinstall
        exact ⟨e.state.insert shown (.str m.initial), some m.start, rfl, m, hmachine, rfl⟩

/-- What attaching does: the capability has been let in, its name is active, the machine that it brings has
    started, and the entity is valid. -/
theorem attach_eq_ok (hattach : (s.attach name).run e = .ok () e') :
    ∃ capability state machine, s.admission name e = .ok capability ∧
      s.Started capability.machine e.machine machine ∧
      e' = { e.activated name capability with state := state, machine := machine } ∧
      s.validate e' = .ok () := by
  obtain ⟨capability, _, hread, hrest⟩ := bind_eq_ok.1 hattach
  obtain ⟨hadmitted, rfl⟩ := EntityOp.reading_eq_ok hread
  obtain ⟨_, _, hactivate, hrest⟩ := bind_eq_ok.1 hrest
  obtain ⟨edited, rfl⟩ := activate_eq_ok hactivate
  obtain ⟨_, _, hinstall, hvalidate⟩ := bind_eq_ok.1 hrest
  obtain ⟨state, machine, rfl, hstarted⟩ := installMachine_eq_ok hinstall
  obtain ⟨hvalid, rfl⟩ := EntityOp.reading_eq_ok hvalidate
  refine ⟨capability, state, machine, hadmitted, ?_, rfl, hvalid⟩
  cases capability <;> exact hstarted

theorem change_of_attach (hattach : (s.attach name).run e = .ok () e') : s.Change e e' := by
  obtain ⟨capability, state, machine, hadmitted, hstarted, rfl, _⟩ := attach_eq_ok hattach
  exact .attach state hadmitted hstarted

theorem runRemoval_eq_ok (hremoval : (runRemoval name capability).run e = .ok () e') :
    ∃ state, e' = { e with state := state } := by
  cases capability with
  | concept c =>
    cases hremoval
    exact ⟨e.state, rfl⟩
  | modifier m =>
    cases hhook : m.onRemove with
    | none =>
      simp only [runRemoval, hhook] at hremoval
      cases hremoval
      exact ⟨e.state, rfl⟩
    | some hook =>
      simp only [runRemoval, hhook] at hremoval
      exact EntityOp.onState_eq_ok hremoval

theorem removeMachine_eq_ok {brought : Option String}
    (hremove : (s.removeMachine brought).run e = .ok () e') :
    ∃ state, e' = { e with
      state := state
      machine := if brought.isSome then none else e.machine } := by
  cases brought with
  | none =>
    cases hremove
    exact ⟨e.state, rfl⟩
  | some key =>
    cases hkey : (s.registry.machines.get? key).bind (·.stateKey) with
    | none =>
      simp only [removeMachine, hkey] at hremove
      cases hremove
      exact ⟨e.state, rfl⟩
    | some shown =>
      simp only [removeMachine, hkey] at hremove
      cases hremove
      exact ⟨e.state.erase shown, rfl⟩

/-- What detaching does: the capability was active and has been let go, the machine that it brought is gone,
    and the entity is valid. -/
theorem detach_eq_ok (hdetach : (s.detach name).run e = .ok () e') :
    ∃ capability state, s.dismiss name e = .ok capability ∧
      e' = { e.deactivate name with
        state := state
        machine := if capability.machine.isSome then none else e.machine } ∧
      s.validate e' = .ok () := by
  obtain ⟨capability, _, hread, hrest⟩ := bind_eq_ok.1 hdetach
  obtain ⟨hdismissed, rfl⟩ := EntityOp.reading_eq_ok hread
  obtain ⟨_, _, hremoval, hrest⟩ := bind_eq_ok.1 hrest
  obtain ⟨edited, rfl⟩ := runRemoval_eq_ok hremoval
  obtain ⟨_, _, hdeactivate, hrest⟩ := bind_eq_ok.1 hrest
  cases hdeactivate
  obtain ⟨_, _, hremove, hvalidate⟩ := bind_eq_ok.1 hrest
  obtain ⟨state, rfl⟩ := removeMachine_eq_ok hremove
  obtain ⟨hvalid, rfl⟩ := EntityOp.reading_eq_ok hvalidate
  exact ⟨capability, state, hdismissed, rfl, hvalid⟩

theorem change_of_detach (hdetach : (s.detach name).run e = .ok () e') : s.Change e e' := by
  obtain ⟨capability, state, hdismissed, rfl, _⟩ := detach_eq_ok hdetach
  exact .detach state hdismissed

theorem runTransitionHook_eq_ok {m : Machine} {source target : String}
    (hhook : (runTransitionHook m source target).run e = .ok () e') :
    ∃ state, e' = { e with state := state } := by
  cases hon : m.onTransition with
  | none =>
    simp only [runTransitionHook, hon] at hhook
    cases hhook
    exact ⟨e.state, rfl⟩
  | some hook =>
    simp only [runTransitionHook, hon] at hhook
    exact EntityOp.onState_eq_ok hhook

/-- What a move does: it was allowed, and the machine is in the state that was asked for. -/
theorem transition_eq_ok {target : String} (hmove : (s.transition target).run e = .ok () e') :
    ∃ running m state, e.machine = some running ∧
      s.registry.machines.get? running.machine = some m ∧ m.permits running.current target = true ∧
      e' = { e with state := state, machine := some { running with current := target } } := by
  obtain ⟨⟨running, m⟩, _, hread, hrest⟩ := bind_eq_ok.1 hmove
  obtain ⟨hallowed, rfl⟩ := EntityOp.reading_eq_ok hread
  obtain ⟨hrunning, hmachine, hpermits⟩ := allowedMove_eq_ok hallowed
  obtain ⟨_, _, hhook, hrest⟩ := bind_eq_ok.1 hrest
  obtain ⟨edited, rfl⟩ := runTransitionHook_eq_ok hhook
  obtain ⟨_, _, hcurrent, hrest⟩ := bind_eq_ok.1 hrest
  cases hcurrent
  cases hkey : m.stateKey with
  | none =>
    simp only [hkey] at hrest
    cases hrest
    exact ⟨running, m, edited, hrunning, hmachine, hpermits, by simp [hrunning]⟩
  | some shown =>
    simp only [hkey] at hrest
    cases hrest
    exact ⟨running, m, edited.insert shown (.str target), hrunning, hmachine, hpermits,
      by simp [hrunning]⟩

theorem change_of_transition {target : String} (hmove : (s.transition target).run e = .ok () e') :
    s.Change e e' := by
  obtain ⟨running, m, state, hrunning, hmachine, hpermits, rfl⟩ := transition_eq_ok hmove
  exact .move state hrunning hmachine hpermits

/-- Attaching and detaching end with validation. -/
theorem validate_of_applyMember {direction : GroupDirection} {member : String}
    (hmember : (s.applyMember direction member).run e = .ok () e') : s.validate e' = .ok () := by
  cases direction with
  | add =>
    obtain ⟨_, _, _, _, _, _, hvalid⟩ := attach_eq_ok hmember
    exact hvalid
  | remove =>
    obtain ⟨_, _, _, _, hvalid⟩ := detach_eq_ok hmember
    exact hvalid

/-- A change succeeds in the name of a member exactly if it succeeds on its own. -/
theorem inGroup_eq_ok_iff {group member : String} {change : EntityOp Unit} :
    (inGroup group member change).run e = .ok () e' ↔ change.run e = .ok () e' := by
  simp only [inGroup, EStateM.run]
  cases change e <;> simp

/-- A failure in the name of a member tells the group, the member and the cause. -/
theorem inGroup_eq_error_iff {group member : String} {change : EntityOp Unit} {failure : Failure} :
    (inGroup group member change).run e = .error failure e' ↔
      ∃ cause, change.run e = .error cause e' ∧
        failure = .groupApplicationFailed group member cause := by
  simp only [inGroup, EStateM.run]
  cases change e with
  | ok _ changed => simp
  | error cause changed => grind

section Groups

variable {R : Entity → Entity → Prop} {group : String} {members : List String}
  {direction : GroupDirection}

theorem applyMembers_eq_forM (members : List String) : s.applyMembers group direction members =
    members.forM fun member => inGroup group member (s.applyMember direction member) := by
  induction members with
  | nil => rfl
  | cons member members ih =>
    rw [applyMembers, ih]
    rfl

/-- Members are all applied exactly if they can be applied one after the other. -/
theorem applyMembers_eq_ok_iff : (s.applyMembers group direction members).run e = .ok () e' ↔
    (members.forM (s.applyMember direction)).run e = .ok () e' := by
  induction members generalizing e with
  | nil => exact Iff.rfl
  | cons member members ih =>
    refine bind_eq_ok.trans (Iff.trans ?_ bind_eq_ok.symm)
    exact exists₂_congr fun _ _ => and_congr inGroup_eq_ok_iff ih

/-- What stops a group is the first of its members that cannot be applied after those before it. -/
theorem applyMembers_eq_error_iff {failure : Failure} :
    (s.applyMembers group direction members).run e = .error failure e' ↔
      ∃ before member later between cause, members = before ++ member :: later ∧
        (before.forM (s.applyMember direction)).run e = .ok () between ∧
        (s.applyMember direction member).run between = .error cause e' ∧
        failure = .groupApplicationFailed group member cause := by
  rw [applyMembers_eq_forM, forM_eq_error]
  refine exists₄_congr fun before member later between => ?_
  rw [← applyMembers_eq_forM, applyMembers_eq_ok_iff, inGroup_eq_error_iff]
  simp only [exists_and_left]

/-- What members leave of a valid entity is valid. -/
theorem validate_of_applyMembers (hvalid : s.validate e = .ok ())
    (happly : (s.applyMembers group direction members).run e = .ok () e') :
    s.validate e' = .ok () := by
  induction members generalizing e with
  | nil =>
    cases happly
    exact hvalid
  | cons member members ih =>
    obtain ⟨_, edited, hfirst, hrest⟩ := bind_eq_ok.1 happly
    exact ih (validate_of_applyMember (inGroup_eq_ok_iff.1 hfirst)) hrest

/-- What every member does, all members together do. -/
theorem related_of_applyMembers (hrefl : ∀ e, R e e)
    (htrans : ∀ {first second third}, R first second → R second third → R first third)
    (hmember : ∀ member e e', (s.applyMember direction member).run e = .ok () e' → R e e')
    (happly : (s.applyMembers group direction members).run e = .ok () e') : R e e' := by
  induction members generalizing e with
  | nil =>
    cases happly
    exact hrefl _
  | cons member members ih =>
    obtain ⟨_, edited, hfirst, hrest⟩ := bind_eq_ok.1 happly
    exact htrans (hmember member e edited (inGroup_eq_ok_iff.1 hfirst)) (ih hrest)

theorem related_of_applyGroup (hrefl : ∀ e, R e e)
    (htrans : ∀ {first second third}, R first second → R second third → R first third)
    (hmember : ∀ member e e', (s.applyMember direction member).run e = .ok () e' → R e e')
    (happly : (s.applyGroup group members direction).run e = .ok () e') : R e e' := by
  cases direction with
  | add => exact related_of_applyMembers hrefl htrans hmember happly
  | remove => exact related_of_applyMembers hrefl htrans hmember happly

/-- The group that members are added for is told in failures and nowhere else. -/
theorem applyMembers_relabel {other : String}
    (happly : (s.applyMembers group direction members).run e = .ok () e') :
    (s.applyMembers other direction members).run e = .ok () e' :=
  applyMembers_eq_ok_iff.2 (applyMembers_eq_ok_iff.1 happly)

/-- Whoever is added along with others is known, and permitted from the start. -/
theorem admissible_of_applyMembers (happly : (s.applyMembers group .add members).run e = .ok () e') :
    ∀ member ∈ members, s.registry.isKnown member = true ∧ s.contexts.permits e.id member = true := by
  induction members generalizing e with
  | nil => simp
  | cons first members ih =>
    obtain ⟨_, edited, hfirst, hrest⟩ := bind_eq_ok.1 happly
    have hattach : (s.attach first).run e = .ok () edited := inGroup_eq_ok_iff.1 hfirst
    obtain ⟨capability, _, _, hadmitted, _⟩ := attach_eq_ok hattach
    obtain ⟨hknown, _, hpermits, _⟩ := admission_eq_ok hadmitted
    refine List.forall_mem_cons.2 ⟨⟨?_, hpermits⟩, fun member hmem => ?_⟩
    · rw [Registry.isKnown, hknown, Option.isSome_some]
    · rw [← (change_of_attach hattach).id_eq]
      exact ih hrest member hmem

theorem changes_of_applyGroup (happly : (s.applyGroup group members direction).run e = .ok () e') :
    s.Changes e e' := by
  refine related_of_applyGroup (fun _ => .refl) .trans (fun member e e' hmember => ?_) happly
  cases direction with
  | add => exact .single (change_of_attach hmember)
  | remove => exact .single (change_of_detach hmember)

end Groups

/-- What every attaching does, making an entity does, and the entity is valid in the end. -/
theorem related_of_implement {R : Entity → Entity → Prop} (hrefl : ∀ e, R e e)
    (htrans : ∀ {first second third}, R first second → R second third → R first third)
    (hattach : ∀ name e e', (s.attach name).run e = .ok () e' → R e e')
    {names : List String} (himplement : (s.implement names).run e = .ok () e') :
    R e e' ∧ s.validate e' = .ok () := by
  induction names generalizing e with
  | nil =>
    obtain ⟨hvalid, rfl⟩ := EntityOp.reading_eq_ok himplement
    exact ⟨hrefl _, hvalid⟩
  | cons name names ih =>
    cases hconcept : s.registry.concepts.contains name with
    | false =>
      simp only [implement, hconcept] at himplement
      cases himplement
    | true =>
      simp only [implement, hconcept] at himplement
      obtain ⟨_, edited, hfirst, hrest⟩ := bind_eq_ok.1 himplement
      obtain ⟨hrelated, hvalid⟩ := ih hrest
      exact ⟨htrans (hattach name e edited hfirst) hrelated, hvalid⟩

theorem changes_of_implement {names : List String}
    (himplement : (s.implement names).run e = .ok () e') :
    s.Changes e e' ∧ s.validate e' = .ok () :=
  related_of_implement (fun _ => .refl) .trans (fun _ _ _ hattach => .single (change_of_attach hattach))
    himplement

end Surroundings

end CapabilityArena
