import CapabilityArena.Proofs.Realm.Transaction
import CapabilityArena.Realm.Scope

/-!
Runs of a realm: calls with any arguments, performed one after another whether or not they fail. `Step` says
once what a single call can do; what it preserves, every run preserves. A body in a scope of its own is no
call here, because what it leaves is left by a run of calls as well (`RealmOp.byCalls_withScope`).
-/

namespace CapabilityArena

inductive RealmCall where
  | heap (call : HeapCall)
  | createEntity (arena : ArenaId) (state : State) (concepts : List String)
  | entity (address : Address) (call : EntityCall)
  | enter (context : Context)
  | dropGuard (guard : ContextGuard)
  | setPolicy (policy : AcquisitionPolicy)

def RealmCall.perform : RealmCall → RealmOp Unit
  | .heap call => RealmOp.onHeap call.perform
  | .createEntity arena state concepts => silently (RealmOp.createEntity arena state concepts)
  | .entity address call => call.perform address
  | .enter context => silently (RealmOp.enter context)
  | .dropGuard guard => RealmOp.dropGuard guard
  | .setPolicy policy => modify fun r => { r with policy := policy }

namespace Realm

/-- The realm after a sequence of calls. A failing call counts as one of them. -/
def run (calls : List RealmCall) (r : Realm) : Realm :=
  calls.foldl (fun r call => after call.perform r) r

/-- What a call can do to a realm, if it does anything. -/
inductive Step (r : Realm) : Realm → Prop where
  | heap {h : Heap} (hstep : Heap.Step Content.IsValue r.heap h) : Step r { r with heap := h }
  /-- An entity was refused after it had got its number. -/
  | refuse : Step r { r with nextEntity := r.nextEntity + 1 }
  | create {arena : ArenaId} {state : State} {e : Entity} {h : Heap}
    (hchanges : (r.surroundings arena).Changes (.bare ⟨r.nextEntity⟩ state) e)
    (hvalid : (r.surroundings arena).validate e = .ok ())
    (hstep : Heap.Step (.entity e = ·) r.heap h) :
    Step r { r with heap := h, nextEntity := r.nextEntity + 1 }
  | change {address : Address} {before after : Entity} {r' : Realm}
    (hdone : r.Transacted address before after r') : Step r r'
  | contexts (contexts : ContextStack) : Step r { r with contexts := contexts }
  | policy (policy : AcquisitionPolicy) : Step r { r with policy := policy }

end Realm

namespace RealmOp

section CreateEntity

variable {arena : ArenaId} {state : State} {concepts : List String} {r r' : Realm}

/-- Making an entity: its arena is looked up, it gets a number, and it is stored if it could be made. -/
theorem run_createEntity (arena : ArenaId) (state : State) (concepts : List String) (r : Realm) :
    (createEntity arena state concepts).run r =
      match r.heap.arena arena with
      | .error failure => .error failure r
      | .ok _ =>
        match ((r.surroundings arena).implement concepts).run (.bare ⟨r.nextEntity⟩ state) with
        | .ok _ e =>
          (onHeap (HeapOp.allocateContent arena (.entity e))).run
            { r with nextEntity := r.nextEntity + 1 }
        | .error failure _ => .error failure { r with nextEntity := r.nextEntity + 1 } := by
  unfold createEntity
  rw [EStateM.run_bind, run_reading]
  cases r.heap.arena arena with
  | error failure => rfl
  | ok a =>
    simp only [unchanged, EStateM.run_bind, EStateM.run_get, EStateM.run_set]
    simp only [EStateM.run]
    cases (r.surroundings arena).implement concepts (.bare ⟨r.nextEntity⟩ state) <;> rfl

theorem createEntity_implement {address : Address}
    (hcreate : (createEntity arena state concepts).run r = .ok address r') :
    ∃ e h, ((r.surroundings arena).implement concepts).run (.bare ⟨r.nextEntity⟩ state) = .ok () e ∧
      (HeapOp.allocateContent arena (.entity e)).run r.heap = .ok address h ∧
      r' = { r with heap := h, nextEntity := r.nextEntity + 1 } := by
  rw [run_createEntity] at hcreate
  split at hcreate
  next => cases hcreate
  next =>
    split at hcreate
    next e himplement =>
      simp only [onHeap, EStateM.run] at hcreate
      split at hcreate
      next h hallocate =>
        cases hcreate
        exact ⟨e, h, himplement, hallocate, rfl⟩
      next => cases hcreate
    next => cases hcreate

theorem createEntity_eq_ok {address : Address}
    (hcreate : (createEntity arena state concepts).run r = .ok address r') :
    ∃ e h, (r.surroundings arena).Changes (.bare ⟨r.nextEntity⟩ state) e ∧
      (r.surroundings arena).validate e = .ok () ∧
      (HeapOp.allocateContent arena (.entity e)).run r.heap = .ok address h ∧
      r' = { r with heap := h, nextEntity := r.nextEntity + 1 } := by
  obtain ⟨e, h, himplement, hallocate, hdone⟩ := createEntity_implement hcreate
  obtain ⟨hchanges, hvalid⟩ := Surroundings.changes_of_implement himplement
  exact ⟨e, h, hchanges, hvalid, hallocate, hdone⟩

/-- A refused entity leaves nothing behind but the number that it had got. -/
theorem createEntity_eq_error {failure : Failure}
    (hcreate : (createEntity arena state concepts).run r = .error failure r') :
    r' = r ∨ r' = { r with nextEntity := r.nextEntity + 1 } := by
  rw [run_createEntity] at hcreate
  split at hcreate
  next =>
    cases hcreate
    exact .inl rfl
  next =>
    refine .inr ?_
    split at hcreate
    next e _ =>
      have hallocate := allOrNothing_onHeap (r := { r with nextEntity := r.nextEntity + 1 })
        (HeapOp.allocateContent_spec arena (.entity e) r.heap)
      exact hallocate.of_error hcreate
    next =>
      cases hcreate
      rfl

end CreateEntity

end RealmOp

namespace RealmCall

/-- A call changes nothing or takes one step. -/
theorem step_perform {r : Realm} (hcounted : r.heap.Counted) (call : RealmCall) :
    after call.perform r = r ∨ r.Step (after call.perform r) := by
  cases call with
  | heap call =>
    have hcall := RealmOp.allOrNothing_onHeap (call.step_perform r.heap)
    refine hcall.after_eq_or.imp_right fun ⟨_, h, hstep, hdone⟩ => ?_
    rw [perform, hdone]
    exact .heap hstep
  | createEntity arena state concepts =>
    unfold after
    simp only [perform, silently, EStateM.run_bind]
    cases hcreate : (RealmOp.createEntity arena state concepts).run r with
    | ok address r' =>
      obtain ⟨e, h, hchanges, hvalid, hallocate, rfl⟩ := RealmOp.createEntity_eq_ok hcreate
      have hstep := (HeapOp.step_allocateContent rfl arena r.heap).of_ok hallocate
      exact .inr (.create hchanges hvalid hstep)
    | error failure r' =>
      rcases RealmOp.createEntity_eq_error hcreate with rfl | rfl
      · exact .inl rfl
      · exact .inr .refuse
  | entity address call =>
    refine (call.perform_spec hcounted).after_eq_or.imp_right fun ⟨_, before, after, hdone⟩ => ?_
    exact .change hdone
  | enter context =>
    unfold after
    simp only [perform, silently, EStateM.run_bind]
    cases hrun : (RealmOp.enter context).run r with
    | ok guard r' =>
      simp only [RealmOp.enter, EStateM.run] at hrun
      split at hrun
      next contexts _ =>
        cases hrun
        exact .inr (.contexts contexts)
      next => cases hrun
    | error failure r' =>
      simp only [RealmOp.enter, EStateM.run] at hrun
      split at hrun
      next => cases hrun
      next contexts _ =>
        cases hrun
        exact .inr (.contexts contexts)
  | dropGuard guard => exact .inr (.contexts _)
  | setPolicy policy => exact .inr (.policy policy)

end RealmCall

namespace Realm

variable {r r' : Realm}

theorem Transacted.counted {address : Address} {before after : Entity}
    (hdone : r.Transacted address before after r') (hcounted : r.heap.Counted) : r'.heap.Counted := by
  rw [hdone.realm_eq]
  exact hcounted.putEntity hdone.stored after

theorem Step.counted (hstep : r.Step r') (hcounted : r.heap.Counted) : r'.heap.Counted := by
  cases hstep with
  | heap hstep => exact hcounted.step hstep
  | refuse => exact hcounted
  | create _ _ hstep => exact hcounted.step hstep
  | change hdone => exact hdone.counted hcounted
  | contexts contexts => exact hcounted
  | policy policy => exact hcounted

/-- A property that every step from a counted heap preserves holds at the end of every run, and the heap
    stays counted. -/
theorem run_induction {P : Realm → Prop}
    (hstep : ∀ r r', r.heap.Counted → P r → r.Step r' → P r') (hcounted : r.heap.Counted)
    (hstart : P r) (calls : List RealmCall) : (r.run calls).heap.Counted ∧ P (r.run calls) := by
  induction calls generalizing r with
  | nil => exact ⟨hcounted, hstart⟩
  | cons call calls ih =>
    rcases call.step_perform hcounted with hsame | hdone
    · simp only [run, List.foldl_cons, hsame]
      exact ih hcounted hstart
    · exact ih (hdone.counted hcounted) (hstep r _ hcounted hstart hdone)

theorem counted_run (hcounted : r.heap.Counted) (calls : List RealmCall) :
    (r.run calls).heap.Counted :=
  (run_induction (P := fun _ => True) (fun _ _ _ _ _ => trivial) hcounted trivial calls).1

end Realm

end CapabilityArena
