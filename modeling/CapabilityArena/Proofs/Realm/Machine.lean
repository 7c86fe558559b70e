import CapabilityArena.Proofs.Realm.History
import CapabilityArena.Proofs.Realm.WellFormed

/-!
Machines of entities, call by call. A call does something to what is stored at an address only if it is made
on the entity there, or brings the first thing ever stored there, or drops what is there (`Fate`); so the
machine that runs at an address changes only on a request for it.
-/

namespace CapabilityArena

namespace Realm

/-- The machine that runs at an address; none does where no entity is. -/
def running? (r : Realm) (address : Address) : Option RunningMachine :=
  match r.heap.entity address with
  | .ok e => e.machine
  | .error _ => none

/-- What a call can do to what is stored at an address. -/
inductive Fate (r : Realm) (call : RealmCall) (address : Address) (r' : Realm) : Prop where
  | same (hsame : r'.heap.content? address = r.heap.content? address)
  | gone (hgone : r'.heap.content? address = none)
  | filled {v : Value} (hnone : r.heap.content? address = none)
    (hfilled : r'.heap.content? address = some (.value v))
  | made {e : Entity} (hnone : r.heap.content? address = none)
    (hmade : r'.heap.content? address = some (.entity e))
    (hstep : r.registry.MachineStep .add none e.machine)
  | changed {c : EntityCall} {before after : Entity} (hcall : call = .entity address c)
    (hstored : r.heap.content? address = some (.entity before))
    (hchanged : r'.heap.content? address = some (.entity after))
    (hrun : (c.perform address).run r = .ok () r')
    (hstep : r.registry.MachineStep (c.request r address) before.machine after.machine)

variable {r r' : Realm} {address : Address} {running : RunningMachine}

theorem running?_of_content (hcounted : r.heap.Counted) {e : Entity}
    (hstored : r.heap.content? address = some (.entity e)) : r.running? address = e.machine := by
  rw [running?, hcounted.entity_eq_ok_iff.2 hstored]

theorem running?_eq_some_iff (hcounted : r.heap.Counted) : r.running? address = some running ↔
    ∃ e, r.heap.content? address = some (.entity e) ∧ e.machine = some running := by
  constructor
  · intro hrunning
    unfold running? at hrunning
    split at hrunning
    next e hentity => exact ⟨e, hcounted.entity_eq_ok_iff.1 hentity, hrunning⟩
    next => cases hrunning
  · rintro ⟨e, hstored, hmachine⟩
    rw [running?_of_content hcounted hstored, hmachine]

theorem running?_eq_none (hcounted : r.heap.Counted)
    (hnone : ∀ e, r.heap.content? address ≠ some (.entity e)) : r.running? address = none := by
  refine Option.eq_none_iff_forall_ne_some.2 fun running hrunning => ?_
  obtain ⟨e, hstored, _⟩ := (running?_eq_some_iff hcounted).1 hrunning
  exact hnone e hstored

theorem running?_congr (hcounted : r.heap.Counted) (hcounted' : r'.heap.Counted)
    (hsame : r'.heap.content? address = r.heap.content? address) :
    r'.running? address = r.running? address := by
  refine Option.ext fun running => ?_
  rw [running?_eq_some_iff hcounted', running?_eq_some_iff hcounted, hsame]

/-- A machine shows its state in its own field and in no other. -/
theorem shows_iff (hrunning : r.running? address = some running) {m : Machine}
    (hdefined : r.registry.machines.get? running.machine = some m) {key : String} :
    r.shows address key = true ↔ m.stateKey = some key := by
  unfold running? at hrunning
  split at hrunning
  next e hentity =>
    have hshown : r.shownMachine? e = m.stateKey.map (m, ·) := by
      rw [shownMachine?, hrunning]
      simp only [Option.bind_eq_bind, Option.bind_some, hdefined]
      cases m.stateKey <;> rfl
    simp only [shows, hentity, hshown]
    cases m.stateKey <;> simp
  next => cases hrunning

end Realm

/-- A call asks for a move of a machine by naming the target, or by writing it to the field that shows the
    state. -/
def EntityCall.AsksMove (m : Machine) (target : String) (c : EntityCall) : Prop :=
  c = .transition target ∨ ∃ key, m.stateKey = some key ∧ c = .setState key (.str target)

theorem EntityCall.request_eq_move_iff {r : Realm} {address : Address} {running : RunningMachine}
    (hrunning : r.running? address = some running) {m : Machine}
    (hdefined : r.registry.machines.get? running.machine = some m) {target : String} {c : EntityCall} :
    c.request r address = .move target ↔ c.AsksMove m target := by
  unfold AsksMove
  cases c with
  | setState key value =>
    have hshows : r.shows address key = true ↔ m.stateKey = some key :=
      Realm.shows_iff hrunning hdefined
    cases value <;> grind [request]
  | applyGroup group direction => cases direction <;> simp [request, GroupDirection.request]
  | _ => simp [request]

namespace RealmCall

variable {r : Realm}

theorem fate (hsound : r.heap.Sound) (call : RealmCall) (address : Address) :
    r.Fate call address (after call.perform r) := by
  have hcounted := hsound.counted
  cases call with
  | heap call =>
    rw [perform, RealmOp.after_onHeap]
    cases hcontent : (after call.perform r.heap).content? address with
    | none => exact .gone hcontent
    | some content =>
      rcases (call.step_perform r.heap).after_eq_or with hsame | ⟨_, hstep⟩
      · exact .same (by rw [hsame])
      · rcases hstep.content_of hcounted hcontent with hold | ⟨_, hnone, v, rfl⟩
        · exact .same (hcontent.trans hold.symm)
        · exact .filled hnone hcontent
  | createEntity arena state concepts =>
    rw [perform, after_silently]
    cases hanswer : answer? (RealmOp.createEntity arena state concepts) r with
    | none =>
      obtain ⟨failure, hrun⟩ := answer?_eq_none.1 hanswer
      exact .same (by rw [RealmOp.heap_createEntity_error hrun])
    | some new =>
      obtain ⟨e, h, himplement, hallocate, hdone⟩ :=
        RealmOp.createEntity_implement (answer?_eq_some.1 hanswer)
      have hcontent := HeapOp.content?_allocateContent hcounted hallocate address
      rw [hdone]
      by_cases haddress : address = new
      · rw [if_pos haddress] at hcontent
        have hnone : r.heap.content? address = none := by
          rw [haddress]
          exact HeapOp.content?_eq_none_of_allocateContent hsound.numbered hallocate
        exact .made hnone hcontent (Surroundings.machineStep_of_implement himplement)
      · rw [if_neg haddress] at hcontent
        exact .same hcontent
  | entity changed c =>
    cases hrun : (c.perform changed).run r with
    | error failure r' =>
      have hsame : after (c.perform changed) r = r := by
        rw [after, hrun]
        exact (c.perform_on hcounted).of_error hrun
      exact .same (by rw [perform, hsame])
    | ok _ r' =>
      obtain ⟨before, after, hdone, hstep⟩ := (c.perform_on hcounted).of_ok hrun
      rw [perform, after_eq_of_ok hrun]
      have hcontent := hdone.content? hcounted address
      by_cases haddress : address = changed
      · subst haddress
        rw [if_pos rfl] at hcontent
        exact .changed rfl hdone.stored hcontent hrun hstep
      · rw [if_neg haddress] at hcontent
        exact .same hcontent
  | enter context => exact .same (by rw [perform, after_silently, RealmOp.heap_after_enter])
  | dropGuard guard => exact .same rfl
  | setPolicy policy => exact .same rfl

end RealmCall

namespace Realm

variable {r r' : Realm} {address : Address} {running : RunningMachine}

/-- Only what is allowed from the current state is granted, and then the machine is there. -/
theorem moved_of_asksMove (hcounted : r.heap.Counted) (hrunning : r.running? address = some running)
    {m : Machine} (hdefined : r.registry.machines.get? running.machine = some m) {target : String}
    {c : EntityCall} (hasks : c.AsksMove m target) (hrun : (c.perform address).run r = .ok () r') :
    m.permits running.current target = true ∧
      r'.running? address = some { running with current := target } := by
  obtain ⟨before, after, hdone, hstep⟩ := (c.perform_on hcounted).of_ok hrun
  have hcontent := (hdone.content? hcounted address).trans (if_pos rfl)
  have hmachine : before.machine = some running :=
    (running?_of_content hcounted hdone.stored).symm.trans hrunning
  rw [(EntityCall.request_eq_move_iff hrunning hdefined).2 hasks, hmachine] at hstep
  rw [running?_of_content (hdone.counted hcounted) hcontent]
  generalize after.machine = machine' at hstep ⊢
  cases hstep with
  | keep hstays => exact absurd rfl (hstays target)
  | move hfound hpermits =>
    cases hdefined.symm.trans hfound
    exact ⟨hpermits, rfl⟩

/-- A machine that a call starts is in its first state. -/
theorem started_of_call (hsound : r.heap.Sound) (hidle : r.running? address = none) (call : RealmCall)
    (hrunning : (after call.perform r).running? address = some running) :
    ∃ key m, r.registry.machines.get? key = some m ∧ running = m.start := by
  have hcounted' := (call.sound hsound).counted
  obtain ⟨e, hstored, hmachine⟩ := (running?_eq_some_iff hcounted').1 hrunning
  have hstarted : ∀ request, r.registry.MachineStep request none e.machine →
      ∃ key m, r.registry.machines.get? key = some m ∧ running = m.start := by
    intro request hstep
    rw [hmachine] at hstep
    cases hstep with
    | @start key m hdefined => exact ⟨key, m, hdefined, rfl⟩
  cases call.fate hsound address with
  | same hsame =>
    rw [running?_congr hsound.counted hcounted' hsame, hidle] at hrunning
    cases hrunning
  | gone hgone => cases hgone.symm.trans hstored
  | filled _ hfilled => cases hfilled.symm.trans hstored
  | made _ hmade hstep =>
    cases hmade.symm.trans hstored
    exact hstarted _ hstep
  | @changed c before changed _ hbefore hchanged _ hstep =>
    cases hchanged.symm.trans hstored
    rw [running?_of_content hsound.counted hbefore] at hidle
    rw [hidle] at hstep
    exact hstarted _ hstep

/-- What a call can do to a machine that runs: nothing; take it along an edge, when it asks for that; or end
    it, when the entity goes or something is to be detached from it. -/
theorem running?_perform (hsound : r.heap.Sound) (hrunning : r.running? address = some running)
    {m : Machine} (hdefined : r.registry.machines.get? running.machine = some m) (call : RealmCall) :
    (after call.perform r).running? address = some running ∨
    (∃ c target, call = .entity address c ∧ c.AsksMove m target ∧
      (c.perform address).run r = .ok () (after call.perform r) ∧
      m.permits running.current target = true ∧
      (after call.perform r).running? address = some { running with current := target }) ∨
    ((after call.perform r).running? address = none ∧
      ((after call.perform r).heap.content? address = none ∨
        ∃ c, call = .entity address c ∧ c.request r address = .remove)) := by
  have hcounted' := (call.sound hsound).counted
  obtain ⟨e, hstored, hmachine⟩ := (running?_eq_some_iff hsound.counted).1 hrunning
  cases call.fate hsound address with
  | same hsame =>
    left
    rw [running?_congr hsound.counted hcounted' hsame, hrunning]
  | gone hgone =>
    refine .inr (.inr ⟨running?_eq_none hcounted' fun e' hstored' => ?_, .inl hgone⟩)
    cases hgone.symm.trans hstored'
  | filled hnone hfilled => cases hnone.symm.trans hstored
  | made hnone hmade hstep => cases hnone.symm.trans hstored
  | @changed c before changed hcall hbefore hchanged hrun hstep =>
    cases hstored.symm.trans hbefore
    rw [running?_of_content hcounted' hchanged]
    rw [hmachine] at hstep
    generalize changed.machine = left at hstep ⊢
    generalize hrequest : c.request r address = request at hstep
    cases hstep with
    | keep _ => exact .inl rfl
    | stop => exact .inr (.inr ⟨rfl, .inr ⟨c, hcall, hrequest⟩⟩)
    | @move _ found target hfound hpermits =>
      cases hdefined.symm.trans hfound
      have hasks := (EntityCall.request_eq_move_iff hrunning hdefined).1 hrequest
      exact .inr (.inl ⟨c, target, hcall, hasks, hrun, hpermits, rfl⟩)

end Realm

end CapabilityArena
