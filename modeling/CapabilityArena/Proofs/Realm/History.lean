import CapabilityArena.Proofs.Entity.WellFormed
import CapabilityArena.Proofs.Heap.History
import CapabilityArena.Proofs.Realm.Scope

/-!
The history of a realm. The heap of a realm goes through the same history as a heap on its own, but for the
entities that are made and changed in it; and every run of a heap is a run of the realm around it.
-/

namespace CapabilityArena

namespace RealmOp

theorem heap_createEntity_error {arena : ArenaId} {state : State} {concepts : List String}
    {r r' : Realm} {failure : Failure}
    (hcreate : (createEntity arena state concepts).run r = .error failure r') : r'.heap = r.heap := by
  rcases createEntity_eq_error hcreate with rfl | rfl
  · rfl
  · rfl

theorem heap_after_enter (context : Context) (r : Realm) :
    (after (enter context) r).heap = r.heap := by
  simp only [after, enter, EStateM.run]
  cases ContextStack.enter context r.contexts <;> rfl

end RealmOp

namespace RealmCall

/-- The arena that a call opens. -/
def opened? : RealmCall → Realm → Option ArenaId
  | .heap call, r => call.opened? r.heap
  | _, _ => none

/-- The address that a call gives out. -/
def given? : RealmCall → Realm → Option Address
  | .heap call, r => call.given? r.heap
  | .createEntity arena state concepts, r => answer? (RealmOp.createEntity arena state concepts) r
  | _, _ => none

variable {r : Realm}

theorem logged (hcounted : r.heap.Counted) (call : RealmCall) :
    r.heap.Logged (after call.perform r).heap (call.opened? r) (call.given? r) := by
  cases call with
  | heap call =>
    rw [perform, RealmOp.after_onHeap]
    exact call.logged r.heap
  | createEntity arena state concepts =>
    simp only [perform, after_silently, opened?, given?]
    cases hanswer : answer? (RealmOp.createEntity arena state concepts) r with
    | none =>
      obtain ⟨failure, hrun⟩ := answer?_eq_none.1 hanswer
      rw [RealmOp.heap_createEntity_error hrun]
      exact .idle
    | some address =>
      obtain ⟨e, h, _, hvalid, hallocate, hdone⟩ :=
        RealmOp.createEntity_eq_ok (answer?_eq_some.1 hanswer)
      have hhome := Surroundings.homeIn_of_validate hvalid
      rw [hdone]
      exact .gives hhome hallocate
  | entity address call =>
    rcases (call.perform_spec hcounted).after_eq_or with hsame | ⟨_, before, after, hdone⟩
    · rw [perform, hsame]
      exact .idle
    · rw [perform, hdone.realm_eq]
      rcases hdone.valid with hsame | hvalid
      · rw [hsame, hcounted.putEntity_self hdone.stored]
        exact .idle
      · exact .put hdone.stored (Surroundings.homeIn_of_validate hvalid)
  | enter context =>
    rw [perform, after_silently, RealmOp.heap_after_enter]
    exact .idle
  | dropGuard guard => exact .idle
  | setPolicy policy => exact .idle

theorem sound (call : RealmCall) (hsound : r.heap.Sound) : (after call.perform r).heap.Sound :=
  (call.logged hsound.counted).sound hsound

end RealmCall

namespace Realm

/-- The arenas opened in a run. -/
def opened (calls : List RealmCall) (r : Realm) : List ArenaId :=
  answers RealmCall.perform RealmCall.opened? calls r

/-- The addresses given out in a run, whether to values or to entities. -/
def given (calls : List RealmCall) (r : Realm) : List Address :=
  answers RealmCall.perform RealmCall.given? calls r

variable {r : Realm}

/-- A property of the heap and its history so far that every entry preserves holds at the end of every
    run. -/
theorem logged_induction {P : Heap → List ArenaId → List Address → Prop}
    (hentry : ∀ h h' o g id? address?, h.Sound → P h o g → h.Logged h' id? address? →
      P h' (o ++ id?.toList) (g ++ address?.toList))
    {o : List ArenaId} {g : List Address} (hsound : r.heap.Sound) (hstart : P r.heap o g)
    (calls : List RealmCall) : (r.run calls).heap.Sound ∧
      P (r.run calls).heap (o ++ opened calls r) (g ++ given calls r) := by
  induction calls generalizing r o g with
  | nil => simpa [run, opened, given, answers] using ⟨hsound, hstart⟩
  | cons call calls ih =>
    have hlogged := call.logged hsound.counted
    have hrest := ih (call.sound hsound) (hentry _ _ _ _ _ _ hsound hstart hlogged)
    simpa only [run, opened, given, answers, List.foldl_cons, List.append_assoc] using hrest

theorem sound_run (hsound : r.heap.Sound) (calls : List RealmCall) : (r.run calls).heap.Sound :=
  (logged_induction (P := fun _ _ _ => True) (o := []) (g := []) (fun _ _ _ _ _ _ _ _ _ => trivial)
    hsound trivial calls).1

theorem ledger_run (maxSlots : Nat) (registry : Registry) (maxContexts : Nat) (calls : List RealmCall) :
    let start := empty registry maxSlots maxContexts
    (start.run calls).heap.Sound ∧
      (start.run calls).heap.Ledger (opened calls start) (given calls start) := by
  intro start
  exact logged_induction (r := start) (fun _ _ _ _ _ _ hsound hledger hlogged =>
    hledger.logged hsound hlogged) (Heap.sound_empty maxSlots) (Heap.ledger_empty maxSlots) calls

/-- What every entry preserves from a sound heap on is never lost. -/
theorem keeps_run {P : Heap → Prop}
    (hentry : ∀ h h' id? address?, h.Sound → P h → h.Logged h' id? address? → P h')
    (hsound : r.heap.Sound) (hstart : P r.heap) (calls : List RealmCall) : P (r.run calls).heap :=
  (logged_induction (P := fun h _ _ => P h) (o := []) (g := [])
    (fun h h' _ _ id? address? => hentry h h' id? address?) hsound hstart calls).2

/-- The history of such a run is that of the heap on its own. -/
theorem history_heap (calls : List HeapCall) (r : Realm) :
    opened (calls.map .heap) r = r.heap.opened calls ∧ given (calls.map .heap) r = r.heap.given calls := by
  induction calls generalizing r with
  | nil => exact ⟨rfl, rfl⟩
  | cons call calls ih =>
    obtain ⟨hopened, hgiven⟩ := ih { r with heap := after call.perform r.heap }
    simp only [opened, given, Heap.opened, Heap.given] at hopened hgiven
    simp only [opened, given, Heap.opened, Heap.given, List.map_cons, answers,
      RealmOp.after_perform_heap, hopened, hgiven]
    exact ⟨rfl, rfl⟩

end Realm

end CapabilityArena
