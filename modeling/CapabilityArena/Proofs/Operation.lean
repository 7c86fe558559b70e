import CapabilityArena.Proofs.Reading
import CapabilityArena.Realm.Basic

/-!
Operations as a whole: the state that one leaves, and what it means to fail without a trace.
-/

namespace CapabilityArena

variable {ε σ α β γ : Type}

/-- The state that an operation leaves, whether or not it fails. -/
def after (op : EStateM ε σ α) (s : σ) : σ :=
  match op.run s with
  | .ok _ s' => s'
  | .error _ s' => s'

/-- The answer or the failure with which an operation ends. -/
def ending (op : EStateM ε σ α) (s : σ) : Except ε α :=
  match op.run s with
  | .ok a _ => .ok a
  | .error e _ => .error e

/-- An operation without its answer. -/
def silently (op : EStateM ε σ α) : EStateM ε σ Unit := do
  let _ ← op
  pure ()

/-- What an operation answers, if it succeeds. -/
def answer? (op : EStateM ε σ α) (s : σ) : Option α :=
  match op.run s with
  | .ok a _ => some a
  | .error _ _ => none

/-- The answers of a run, in order, as far as the calls have one. -/
def answers (perform : γ → EStateM ε σ Unit) (answer? : γ → σ → Option α) : List γ → σ → List α
  | [], _ => []
  | call :: calls, s =>
    (answer? call s).toList ++ answers perform answer? calls (after (perform call) s)

/-- The end of an operation that has only read: an answer or a failure, and the same state. -/
def unchanged (s : σ) : Except ε α → EStateM.Result ε σ α
  | .ok a => .ok a s
  | .error e => .error e s

/-- An operation either fails and leaves the state as it was, or succeeds with an answer and a state as
    described. -/
def AllOrNothing (op : EStateM ε σ α) (s : σ) (post : α → σ → Prop) : Prop :=
  match op.run s with
  | .ok a s' => post a s'
  | .error _ s' => s' = s

/-- An operation fails for no reasons but these. -/
def FailsOnly (op : EStateM ε σ α) (s : σ) (reason : ε → Prop) : Prop :=
  ∀ e s', op.run s = .error e s' → reason e

/-- A sequence succeeds when its parts do, one after the other. -/
theorem bind_eq_ok {first : EStateM ε σ β} {next : β → EStateM ε σ α} {s t : σ} {a : α} :
    (first >>= next).run s = .ok a t ↔
      ∃ b u, first.run s = .ok b u ∧ (next b).run u = .ok a t := by
  rw [EStateM.run_bind]
  cases first.run s with
  | ok b u =>
    constructor
    · intro hnext
      exact ⟨b, u, rfl, hnext⟩
    · rintro ⟨_, _, hfirst, hnext⟩
      cases hfirst
      exact hnext
  | error e u => simp

/-- A sequence fails in its first part, or after the first part has succeeded. -/
theorem bind_eq_error {first : EStateM ε σ β} {next : β → EStateM ε σ α} {s t : σ} {e : ε} :
    (first >>= next).run s = .error e t ↔
      first.run s = .error e t ∨ ∃ b u, first.run s = .ok b u ∧ (next b).run u = .error e t := by
  rw [EStateM.run_bind]
  cases first.run s with
  | ok b u =>
    constructor
    · intro hnext
      exact .inr ⟨b, u, rfl, hnext⟩
    · rintro (hfirst | ⟨_, _, hfirst, hnext⟩)
      · cases hfirst
      · cases hfirst
        exact hnext
  | error failure u => simp

/-- An operation that is done for its effect, with an answer that is known before. -/
theorem bind_pure_eq_ok {op : EStateM ε σ Unit} {s t : σ} {a answer : α} :
    (op >>= fun _ => pure a).run s = .ok answer t ↔ answer = a ∧ op.run s = .ok () t := by
  rw [bind_eq_ok]
  constructor
  · rintro ⟨_, _, hop, hpure⟩
    cases hpure
    exact ⟨rfl, hop⟩
  · rintro ⟨rfl, hop⟩
    exact ⟨(), t, hop, rfl⟩

/-- Operations for the items of a list, one after the other, fail at the first item whose operation does. -/
theorem forM_eq_error {items : List γ} {op : γ → EStateM ε σ Unit} {s t : σ} {e : ε} :
    (items.forM op).run s = .error e t ↔ ∃ before item later u, items = before ++ item :: later ∧
      (before.forM op).run s = .ok () u ∧ (op item).run u = .error e t := by
  induction items generalizing s with
  | nil => simp [List.forM]
  | cons first items ih =>
    constructor
    · intro herror
      rcases bind_eq_error.1 herror with hfirst | ⟨_, u, hfirst, hrest⟩
      · exact ⟨[], first, items, s, rfl, rfl, hfirst⟩
      · obtain ⟨before, item, later, v, rfl, hbefore, hitem⟩ := ih.1 hrest
        exact ⟨first :: before, item, later, v, rfl, bind_eq_ok.2 ⟨(), u, hfirst, hbefore⟩, hitem⟩
    · rintro ⟨before, item, later, u, hitems, hbefore, hitem⟩
      cases before with
      | nil =>
        cases hitems
        cases hbefore
        exact bind_eq_error.2 (.inl hitem)
      | cons head before =>
        cases hitems
        obtain ⟨_, v, hhead, hbefore⟩ := bind_eq_ok.1 hbefore
        exact bind_eq_error.2 (.inr ⟨(), v, hhead, ih.2 ⟨before, item, later, u, rfl, hbefore, hitem⟩⟩)

/-- An operation is what it leaves and how it ends. -/
theorem run_eq (op : EStateM ε σ α) (s : σ) : op.run s = unchanged (after op s) (ending op s) := by
  unfold after ending
  cases op.run s <;> rfl

theorem ending_eq_of_run {op : EStateM ε σ α} {s t : σ} {result : Except ε α}
    (hrun : op.run s = unchanged t result) : ending op s = result := by
  rw [ending, hrun]
  cases result <;> rfl

theorem after_eq_of_run {op : EStateM ε σ α} {s t : σ} {result : Except ε α}
    (hrun : op.run s = unchanged t result) : after op s = t := by
  rw [after, hrun]
  cases result <;> rfl

theorem after_eq_of_ok {op : EStateM ε σ α} {s t : σ} {a : α} (hrun : op.run s = .ok a t) :
    after op s = t := by
  rw [after, hrun]

theorem answer?_eq_some {op : EStateM ε σ α} {s : σ} {a : α} :
    answer? op s = some a ↔ op.run s = .ok a (after op s) := by
  unfold answer? after
  cases op.run s <;> simp

theorem answer?_eq_none {op : EStateM ε σ α} {s : σ} :
    answer? op s = none ↔ ∃ e, op.run s = .error e (after op s) := by
  unfold answer? after
  cases op.run s <;> simp

theorem after_silently (op : EStateM ε σ α) (s : σ) : after (silently op) s = after op s := by
  unfold after silently
  rw [EStateM.run_bind]
  cases op.run s <;> rfl

theorem unchanged_eq_ok {s s' : σ} {a : α} {read : Except ε α}
    (hread : unchanged s read = .ok a s') : read = .ok a ∧ s' = s := by
  cases read with
  | error e => cases hread
  | ok found =>
    cases hread
    exact ⟨rfl, rfl⟩

theorem unchanged_eq_error {s s' : σ} {e : ε} {read : Except ε α}
    (hread : unchanged s read = .error e s') : read = .error e ∧ s' = s := by
  cases read with
  | ok found => cases hread
  | error failure =>
    cases hread
    exact ⟨rfl, rfl⟩

namespace AllOrNothing

variable {s : σ} {op : EStateM ε σ α} {post : α → σ → Prop}

theorem mono {weaker : α → σ → Prop} (hop : AllOrNothing op s post)
    (hweaker : ∀ a s', post a s' → weaker a s') : AllOrNothing op s weaker := by
  unfold AllOrNothing at hop ⊢
  cases hrun : op.run s with
  | ok a s' =>
    rw [hrun] at hop
    exact hweaker a s' hop
  | error e s' =>
    rw [hrun] at hop
    exact hop

theorem of_run {a : α} {t : σ} (hrun : op.run s = .ok a t) (hpost : post a t) :
    AllOrNothing op s post := by
  unfold AllOrNothing
  rw [hrun]
  exact hpost

theorem of_ok {a : α} {s' : σ} (hop : AllOrNothing op s post) (hrun : op.run s = .ok a s') :
    post a s' := by
  unfold AllOrNothing at hop
  rw [hrun] at hop
  exact hop

theorem of_error {e : ε} {s' : σ} (hop : AllOrNothing op s post) (hrun : op.run s = .error e s') :
    s' = s := by
  unfold AllOrNothing at hop
  rw [hrun] at hop
  exact hop

/-- An operation that fails without a trace is described by its own run. -/
theorem run_eq (hop : AllOrNothing op s post) : AllOrNothing op s fun a s' => op.run s = .ok a s' := by
  unfold AllOrNothing
  cases hrun : op.run s with
  | ok a s' => rfl
  | error e s' => exact hop.of_error hrun

/-- What holds of the old state and of every described state holds of the state that is left. -/
theorem after {P : σ → Prop} (hop : AllOrNothing op s post) (hold : P s)
    (hnew : ∀ a s', post a s' → P s') : P (after op s) := by
  unfold CapabilityArena.after
  cases hrun : op.run s with
  | ok a s' => exact hnew a s' (hop.of_ok hrun)
  | error e s' => exact (hop.of_error hrun) ▸ hold

theorem after_eq_or (hop : AllOrNothing op s post) :
    CapabilityArena.after op s = s ∨ ∃ a, post a (CapabilityArena.after op s) := by
  unfold CapabilityArena.after
  cases hrun : op.run s with
  | ok a s' => exact .inr ⟨a, hop.of_ok hrun⟩
  | error e s' => exact .inl (hop.of_error hrun)

theorem throw {e : ε} : AllOrNothing (MonadExcept.throw e : EStateM ε σ α) s post := rfl

theorem throw_bind {e : ε} {next : β → EStateM ε σ α} :
    AllOrNothing ((MonadExcept.throw e : EStateM ε σ β) >>= next) s post := rfl

theorem pure {a : α} (hpost : post a s) : AllOrNothing (Pure.pure a : EStateM ε σ α) s post := hpost

theorem get_bind {next : σ → EStateM ε σ α} (hnext : AllOrNothing (next s) s post) :
    AllOrNothing (get >>= next) s post := hnext

/-- An operation that begins by only looking is as its continuation. -/
theorem bind {first : EStateM ε σ β} {next : β → EStateM ε σ α}
    (hfirst : AllOrNothing first s fun b s' => s' = s ∧ AllOrNothing (next b) s post) :
    AllOrNothing (first >>= next) s post := by
  unfold AllOrNothing at hfirst ⊢
  rw [EStateM.run_bind]
  cases hrun : first.run s with
  | ok b s' =>
    rw [hrun] at hfirst
    obtain ⟨rfl, hnext⟩ := hfirst
    exact hnext
  | error e s' =>
    rw [hrun] at hfirst
    exact hfirst

/-- An answer computed from that of an operation. -/
theorem bind_pure {answer : α → β} {described : β → σ → Prop}
    (hop : AllOrNothing op s fun a s' => described (answer a) s') :
    AllOrNothing (op >>= fun a => Pure.pure (answer a)) s described := by
  unfold AllOrNothing at hop ⊢
  rw [EStateM.run_bind]
  cases hrun : op.run s with
  | ok a s' =>
    rw [hrun] at hop
    exact hop
  | error e s' =>
    rw [hrun] at hop
    exact hop

theorem silently (hop : AllOrNothing op s post) :
    AllOrNothing (silently op) s fun _ s' => ∃ a, post a s' :=
  bind_pure (hop.mono fun a _ hpost => ⟨a, hpost⟩)

/-- An operation that begins by reading the state is as its continuation, for what was read. -/
theorem read_bind {first : EStateM ε σ β} {read : σ → Except ε β} {next : β → EStateM ε σ α}
    (hfirst : ∀ s, first.run s = unchanged s (read s))
    (hnext : ∀ b, read s = .ok b → AllOrNothing (next b) s post) :
    AllOrNothing (first >>= next) s post := by
  apply bind
  unfold AllOrNothing
  rw [hfirst]
  cases hread : read s with
  | ok b => exact ⟨rfl, hnext b hread⟩
  | error e => rfl

end AllOrNothing

namespace FailsOnly

variable {s : σ} {op : EStateM ε σ α} {reason : ε → Prop}

theorem of_run {a : α} {t : σ} (hrun : op.run s = .ok a t) : FailsOnly op s reason := by
  intro e s' herror
  cases hrun.symm.trans herror

theorem throw {e : ε} (he : reason e) :
    FailsOnly (MonadExcept.throw e : EStateM ε σ α) s reason := by
  intro e' s' herror
  cases herror
  exact he

theorem throw_bind {e : ε} {next : β → EStateM ε σ α} (he : reason e) :
    FailsOnly ((MonadExcept.throw e : EStateM ε σ β) >>= next) s reason := by
  intro e' s' herror
  cases herror
  exact he

theorem get_bind {next : σ → EStateM ε σ α} (hnext : FailsOnly (next s) s reason) :
    FailsOnly (get >>= next) s reason := hnext

theorem bind {first : EStateM ε σ β} {next : β → EStateM ε σ α} (hfirst : FailsOnly first s reason)
    (hnext : ∀ b t, first.run s = .ok b t → FailsOnly (next b) t reason) :
    FailsOnly (first >>= next) s reason := by
  intro e s' herror
  rw [EStateM.run_bind] at herror
  cases hrun : first.run s with
  | ok b t =>
    rw [hrun] at herror
    exact hnext b t hrun e s' herror
  | error failure t =>
    rw [hrun] at herror
    cases herror
    exact hfirst e s' hrun

/-- An operation that begins by reading the state fails for what was read, or later. -/
theorem read_bind {first : EStateM ε σ β} {read : σ → Except ε β} {next : β → EStateM ε σ α}
    (hfirst : ∀ s, first.run s = unchanged s (read s)) (hread : ∀ e, read s = .error e → reason e)
    (hnext : ∀ b, read s = .ok b → FailsOnly (next b) s reason) :
    FailsOnly (first >>= next) s reason := by
  refine bind (fun e s' herror => ?_) fun b t hrun => ?_
  · rw [hfirst] at herror
    cases hvalue : read s with
    | ok b => simp [hvalue, unchanged] at herror
    | error failure =>
      rw [hvalue] at herror
      cases herror
      exact hread _ hvalue
  · obtain ⟨hvalue, rfl⟩ := unchanged_eq_ok ((hfirst s).symm.trans hrun)
    exact hnext b hvalue

theorem silently (hop : FailsOnly op s reason) : FailsOnly (silently op) s reason :=
  bind hop fun _ _ _ => of_run rfl

end FailsOnly

namespace HeapOp

theorem run_reading (read : Heap → Except Failure α) (h : Heap) :
    (reading read).run h = unchanged h (read h) := by
  simp only [reading, EStateM.run_bind, EStateM.run_get]
  cases read h <;> rfl

end HeapOp

namespace EntityOp

theorem run_reading (read : Entity → Except Failure α) (e : Entity) :
    (reading read).run e = unchanged e (read e) := by
  simp only [reading, EStateM.run_bind, EStateM.run_get]
  cases read e <;> rfl

theorem reading_eq_ok {read : Entity → Except Failure α} {e e' : Entity} {a : α}
    (hread : (reading read).run e = .ok a e') : read e = .ok a ∧ e' = e :=
  unchanged_eq_ok ((run_reading read e).symm.trans hread)

theorem onState_eq_ok {change : StateChange α} {failed : String → Failure} {e e' : Entity} {a : α}
    (hchange : (onState change failed).run e = .ok a e') :
    ∃ state, e' = { e with state := state } := by
  simp only [onState, EStateM.run] at hchange
  split at hchange
  next state _ =>
    cases hchange
    exact ⟨state, rfl⟩
  next => cases hchange

/-- What is validated has been changed first, and is valid now. -/
theorem validated_eq_ok_iff {s : Surroundings} {change : EntityOp α} {e e' : Entity} {a : α} :
    (validated s change).run e = .ok a e' ↔ change.run e = .ok a e' ∧ s.validate e' = .ok () := by
  constructor
  · intro hchange
    obtain ⟨b, changed, hrun, hrest⟩ := bind_eq_ok.1 hchange
    obtain ⟨_, _, hvalid, hpure⟩ := bind_eq_ok.1 hrest
    obtain ⟨hvalid, rfl⟩ := reading_eq_ok hvalid
    cases hpure
    exact ⟨hrun, hvalid⟩
  · rintro ⟨hrun, hvalid⟩
    refine bind_eq_ok.2 ⟨a, e', hrun, bind_eq_ok.2 ⟨(), e', ?_, rfl⟩⟩
    rw [validate, run_reading, hvalid, unchanged]

/-- Validation adds nothing to a change that leaves no entity but valid ones. -/
theorem run_validated {s : Surroundings} {change : EntityOp α} {e : Entity}
    (hvalid : ∀ a e', change.run e = .ok a e' → s.validate e' = .ok ()) :
    (validated s change).run e = change.run e := by
  unfold validated
  rw [EStateM.run_bind]
  cases hrun : change.run e with
  | ok a e' =>
    change ((validate s >>= fun _ => pure a) : EntityOp α).run e' = .ok a e'
    rw [EStateM.run_bind, validate, run_reading, hvalid a e' hrun]
    rfl
  | error failure e' => rfl

end EntityOp

namespace RealmOp

theorem run_reading (read : Realm → Except Failure α) (r : Realm) :
    (reading read).run r = unchanged r (read r) := by
  simp only [reading, EStateM.run_bind, EStateM.run_get]
  cases read r <;> rfl

/-- An operation on the heap keeps the rest of the realm. -/
theorem allOrNothing_onHeap {op : HeapOp α} {r : Realm} {post : α → Heap → Prop}
    (hop : AllOrNothing op r.heap post) :
    AllOrNothing (onHeap op) r fun a r' => ∃ h', post a h' ∧ r' = { r with heap := h' } := by
  unfold AllOrNothing at hop ⊢
  simp only [onHeap, EStateM.run] at hop ⊢
  cases hrun : op r.heap with
  | ok a h' =>
    rw [hrun] at hop
    exact ⟨h', hop, rfl⟩
  | error failure h' =>
    rw [hrun] at hop
    subst hop
    rfl

end RealmOp

end CapabilityArena
