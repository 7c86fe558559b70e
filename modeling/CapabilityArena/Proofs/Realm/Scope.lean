import CapabilityArena.Proofs.Realm.Run

/-!
Bodies that run in a scope of their own. A body may decide on each call from the answers to the calls before
it; still it leaves a realm that a plain sequence of calls leaves, and so does the scope around it. What
holds after every run therefore holds after these.
-/

namespace CapabilityArena

section ByCalls

variable {ε σ α β γ : Type} {perform : γ → EStateM ε σ Unit}

/-- Whatever state an operation leaves, a sequence of calls would have left it, too. -/
def ByCalls (perform : γ → EStateM ε σ Unit) (op : EStateM ε σ α) : Prop :=
  ∀ s, ∃ calls : List γ, after op s = calls.foldl (fun s call => after (perform call) s) s

namespace ByCalls

theorem of_after_eq {op : EStateM ε σ α} (hafter : ∀ s, after op s = s) : ByCalls perform op :=
  fun s => ⟨[], hafter s⟩

/-- A call on its own, with its answer. -/
theorem of_silently {op : EStateM ε σ α} (call : γ) (hcall : perform call = silently op) :
    ByCalls perform op := by
  intro s
  refine ⟨[call], ?_⟩
  simp only [List.foldl_cons, List.foldl_nil, hcall, after, silently, EStateM.run_bind]
  cases op.run s <;> rfl

theorem bind {first : EStateM ε σ β} {next : β → EStateM ε σ α} (hfirst : ByCalls perform first)
    (hnext : ∀ b, ByCalls perform (next b)) : ByCalls perform (first >>= next) := by
  intro s
  obtain ⟨calls, hcalls⟩ := hfirst s
  unfold after at hcalls ⊢
  rw [EStateM.run_bind]
  cases hrun : first.run s with
  | error e t =>
    rw [hrun] at hcalls
    exact ⟨calls, hcalls⟩
  | ok b t =>
    rw [hrun] at hcalls
    obtain ⟨more, hmore⟩ := hnext b t
    refine ⟨calls ++ more, ?_⟩
    rw [List.foldl_append, ← hcalls]
    exact hmore

end ByCalls

end ByCalls

namespace HeapOp

theorem byCalls_exitThrough (arena : ArenaId) (scope : ScopeId) (rounds : Nat)
    (stray : Option ScopeId) : ByCalls HeapCall.perform (exitThrough arena scope rounds stray) := by
  induction rounds generalizing stray with
  | zero => exact .of_after_eq fun _ => rfl
  | succ rounds ih =>
    refine .bind (.of_silently (.exitScope arena) rfl) fun exit => ?_
    by_cases hlast : exit.scope = scope
    · simp only [hlast, ↓reduceIte]
      exact .of_after_eq fun _ => rfl
    · simp only [hlast, ↓reduceIte]
      exact ih _

theorem byCalls_unwind (arena : ArenaId) (scope : ScopeId) :
    ByCalls HeapCall.perform (unwind arena scope) := by
  refine .bind (.of_after_eq fun h => ?_) fun a => ?_
  · unfold after
    rw [run_reading]
    cases h.arena arena <;> rfl
  · by_cases hclosed : a.frames.all (·.id ≠ scope) = true
    · simp only [hclosed, ↓reduceIte]
      exact .of_after_eq fun _ => rfl
    · simp only [hclosed]
      refine .bind (byCalls_exitThrough arena scope _ none) fun stray => ?_
      cases stray <;> exact .of_after_eq fun _ => rfl

end HeapOp

namespace RealmOp

variable {α : Type}

theorem after_onHeap (op : HeapOp α) (r : Realm) :
    after (onHeap op) r = { r with heap := after op r.heap } := by
  simp only [after, onHeap, EStateM.run]
  cases op r.heap <;> rfl

theorem after_perform_heap (call : HeapCall) (r : Realm) :
    after (RealmCall.perform (.heap call)) r = { r with heap := after call.perform r.heap } :=
  after_onHeap call.perform r

/-- A run of the heap of a realm is a run of the realm. -/
theorem run_heap (calls : List HeapCall) (r : Realm) :
    r.run (calls.map .heap) = { r with heap := r.heap.run calls } := by
  induction calls generalizing r with
  | nil => rfl
  | cons call calls ih =>
    simp only [Realm.run, List.map_cons, List.foldl_cons, after_perform_heap]
    exact ih { r with heap := after call.perform r.heap }

theorem byCalls_onHeap {op : HeapOp α} (hop : ByCalls HeapCall.perform op) :
    ByCalls RealmCall.perform (onHeap op) := by
  intro r
  obtain ⟨calls, hcalls⟩ := hop r.heap
  refine ⟨calls.map .heap, ?_⟩
  rw [after_onHeap, hcalls]
  exact (run_heap calls r).symm

theorem byCalls_outcome {op : RealmOp α} (hop : ByCalls RealmCall.perform op) :
    ByCalls RealmCall.perform (outcome op) := by
  intro r
  obtain ⟨calls, hcalls⟩ := hop r
  refine ⟨calls, ?_⟩
  rw [← hcalls]
  simp only [after, outcome, EStateM.run]
  cases op r <;> rfl

/-- A scope around a body adds the calls that enter and leave it. -/
theorem byCalls_withScope {body : ScopeId → RealmOp α} (arena : ArenaId)
    (hbody : ∀ scope, ByCalls RealmCall.perform (body scope)) :
    ByCalls RealmCall.perform (withScope arena body) := by
  have henter : ByCalls HeapCall.perform (HeapOp.enterScope arena) :=
    .of_silently (.enterScope arena) rfl
  refine .bind (byCalls_onHeap henter) fun scope => ?_
  refine .bind (byCalls_outcome (hbody scope)) fun ended => ?_
  refine .bind (byCalls_outcome (byCalls_onHeap (HeapOp.byCalls_unwind arena scope))) fun unwound => ?_
  cases ended with
  | error failure => exact .of_after_eq fun _ => rfl
  | ok a => cases unwound <;> exact .of_after_eq fun _ => rfl

end RealmOp

end CapabilityArena
