import CapabilityArena.Proofs.Heap.Soundness

/-!
The end of arenas. Leaving a scope tears its arena down exactly if it was the last scope, and nothing else
does. So an arena that is present has an open scope, and no operation ever reports one without.
-/

namespace CapabilityArena

/-- Any failure but that of an arena without an active scope. -/
def Failure.FindsScope (failure : Failure) : Prop := ∀ id, failure ≠ .noActiveScope id

theorem Value.findsScope_of_checkStorable {arena : ArenaId} {v : Value} {failure : Failure}
    (hrefused : v.checkStorable arena = .error failure) : failure.FindsScope := by
  unfold checkStorable at hrefused
  split at hrefused
  next found hfound =>
    obtain ⟨r, _, hrefusal⟩ := List.exists_of_findSome?_eq_some hfound
    cases hrefused
    unfold Reference.refusal? at hrefusal
    split at hrefusal
    · cases hrefusal
      exact nofun
    · split at hrefusal
      · cases hrefusal
        exact nofun
      · cases hrefusal
  next => cases hrefused

namespace Heap

variable {h h' : Heap} {id : ArenaId} {address : Address}

theorem arena_eq_error {failure : Failure} (hunknown : h.arena id = .error failure) :
    failure = .unknownArena id := by
  unfold arena at hunknown
  split at hunknown
  next => cases hunknown
  next =>
    cases hunknown
    rfl

/-- No operation on the heap reports an arena without an active scope. -/
structure FindsScopes (h : Heap) : Prop where
  perform : ∀ call : HeapCall, FailsOnly call.perform h Failure.FindsScope
  allocateContent : ∀ id content, FailsOnly (HeapOp.allocateContent id content) h Failure.FindsScope
  arena : ∀ id failure, h.arena id = .error failure → failure.FindsScope
  slot : ∀ address failure, h.slot address = .error failure → failure.FindsScope
  deref : ∀ address failure, h.deref address = .error failure → failure.FindsScope
  derefIn : ∀ id address failure, h.derefIn id address = .error failure → failure.FindsScope
  value : ∀ address failure, h.value address = .error failure → failure.FindsScope
  entity : ∀ address failure, h.entity address = .error failure → failure.FindsScope
  downgrade : ∀ address failure, h.downgrade address = .error failure → failure.FindsScope

section Readers

variable {failure : Failure}

theorem findsScope_arena (hunknown : h.arena id = .error failure) : failure.FindsScope := by
  rw [arena_eq_error hunknown]
  exact nofun

theorem findsScope_slot (hslot : h.slot address = .error failure) : failure.FindsScope := by
  rw [slot_eq_error hslot]
  exact nofun

theorem findsScope_deref (hderef : h.deref address = .error failure) : failure.FindsScope := by
  unfold deref at hderef
  cases hslot : h.slot address with
  | error reason =>
    rw [hslot] at hderef
    cases hderef
    exact findsScope_slot hslot
  | ok slot =>
    simp only [hslot, bind, Except.bind] at hderef
    split at hderef
    · cases hderef
    · cases hderef
      exact nofun

/-- What reads on from a slot fails with the slot, or for a reason of its own. -/
theorem findsScope_bind {α : Type} {next : Content → Except Failure α}
    (hnext : ∀ content reason, next content = .error reason → reason.FindsScope)
    (hread : (h.deref address >>= next) = .error failure) : failure.FindsScope := by
  cases hderef : h.deref address with
  | error reason =>
    rw [hderef] at hread
    cases hread
    exact findsScope_deref hderef
  | ok content =>
    rw [hderef] at hread
    exact hnext content failure hread

theorem findsScope_derefIn (hderef : h.derefIn id address = .error failure) : failure.FindsScope := by
  unfold derefIn at hderef
  split at hderef
  · exact findsScope_deref hderef
  · cases hderef
    exact nofun

theorem findsScope_value (hvalue : h.value address = .error failure) : failure.FindsScope := by
  refine findsScope_bind (fun content reason hreason => ?_) hvalue
  cases content with
  | value v => cases hreason
  | entity e =>
    cases hreason
    exact nofun

theorem findsScope_entity (hentity : h.entity address = .error failure) : failure.FindsScope := by
  refine findsScope_bind (fun content reason hreason => ?_) hentity
  cases content with
  | entity e => cases hreason
  | value v =>
    cases hreason
    exact nofun

theorem findsScope_downgrade (hdowngrade : h.downgrade address = .error failure) :
    failure.FindsScope := by
  unfold downgrade at hdowngrade
  cases hslot : h.slot address with
  | error reason =>
    rw [hslot] at hdowngrade
    cases hdowngrade
    exact findsScope_slot hslot
  | ok slot =>
    rw [hslot] at hdowngrade
    cases hdowngrade

end Readers

namespace Sound

/-- A scope of an arena that is present can be left, and the arena is torn down exactly if that scope was
    its last. -/
theorem exitScope (hsound : h.Sound) {a : Arena} (harena : h.arenas.get? id = some a) :
    ∃ exit h', (HeapOp.exitScope id).run h = .ok exit h' ∧
      (exit.tornDown = true ↔ a.frames.length = 1) ∧
      h'.hasArena id = !exit.tornDown ∧ h'.isTornDown id = exit.tornDown := by
  obtain ⟨frame, outer, hframes⟩ := List.exists_cons_of_ne_nil (hsound.framed id a harena)
  obtain ⟨hid, hgivenFrames, hheld⟩ := hsound.counted.giveBackAll harena hframes
  have hexit := HeapOp.run_exitScope harena hframes
  simp only [hsound.counted.withoutSpent_exit harena hframes, get?_setArena, hid, ↓reduceIte,
    Option.any_some] at hexit
  refine ⟨_, _, hexit, ?_⟩
  have hspent : (Arena.giveBackAll frame.held { a with frames := outer }).1.isSpent = true ↔
      outer = [] := by
    rw [hheld.isSpent_iff, hgivenFrames]
  have hlength : a.frames.length = 1 ↔ outer = [] := by
    rw [hframes, List.length_cons, ← List.length_eq_zero_iff]
    omega
  by_cases hlast : outer = []
  · rw [if_pos hlast, hspent.2 hlast]
    refine ⟨by simp [hlength, hlast], ?_, ?_⟩
    · simp [retire, hasArena, Dictionary.contains]
    · exact (KeySet.contains_add ..).2 (.inl rfl)
  · have hkept : (Arena.giveBackAll frame.held { a with frames := outer }).1.isSpent = false :=
      (Bool.not_eq_true _).mp fun hgone => hlast (hspent.1 hgone)
    rw [if_neg hlast, hkept]
    refine ⟨by simp [hlength, hlast], ?_, ?_⟩
    · simp [hasArena, Dictionary.contains, get?_setArena, hid]
    · cases hgone : h.isTornDown id with
      | false => exact hgone
      | true => cases (hsound.retired id hgone).1.symm.trans harena

/-- A release takes no arena away. -/
theorem release (hsound : h.Sound) (address : Address) :
    AllOrNothing (HeapOp.release address) h fun _ h' =>
      h'.tornDown = h.tornDown ∧ ∀ id, h'.hasArena id = h.hasArena id := by
  refine (HeapOp.release_spec address h).mono fun count h' hrelease => ?_
  obtain ⟨a, slot, frames, given, last, harena, _, _, hunhold, hgiven, _, rfl⟩ := hrelease
  obtain ⟨hid, _, _⟩ := hsound.counted.giveBack_release harena hunhold hgiven
  rw [hsound.counted.withoutSpent_release harena hunhold hgiven, ite_self]
  refine ⟨rfl, fun id => ?_⟩
  rw [hasArena, hasArena, Dictionary.contains, Dictionary.contains, get?_setArena]
  by_cases hsame : id = given.id
  · rw [if_pos hsame, hsame, hid, harena]
    rfl
  · rw [if_neg hsame]

/-! An arena that is present has an open scope, so the operations that need one find it. -/

theorem failsOnly_enterScope (id : ArenaId) :
    FailsOnly (HeapOp.enterScope id) h Failure.FindsScope := by
  unfold HeapOp.enterScope
  exact .read_bind (HeapOp.run_reading _) (fun _ => findsScope_arena) fun _ _ => .of_run rfl

theorem failsOnly_createArena : FailsOnly HeapOp.createArena h Failure.FindsScope := by
  unfold HeapOp.createArena
  refine .get_bind ?_
  by_cases hlast : h.nextArena = 0xffffffff
  · simp only [hlast, ↓reduceIte]
    exact .throw_bind nofun
  · simp only [hlast, ↓reduceIte]
    exact .of_run rfl

theorem failsOnly_exitScope (hsound : h.Sound) (id : ArenaId) :
    FailsOnly (HeapOp.exitScope id) h Failure.FindsScope := by
  cases harena : h.arenas.get? id with
  | none =>
    unfold HeapOp.exitScope
    refine .read_bind (HeapOp.run_reading _) (fun _ => findsScope_arena) fun a hfound => ?_
    cases harena.symm.trans (arena_eq_ok hfound)
  | some a =>
    obtain ⟨exit, h', hrun, _⟩ := hsound.exitScope harena
    exact .of_run hrun

theorem failsOnly_exitScopeChecked (hsound : h.Sound) (id : ArenaId) (scope : ScopeId) :
    FailsOnly (HeapOp.exitScopeChecked id scope) h Failure.FindsScope := by
  unfold HeapOp.exitScopeChecked
  refine .read_bind (HeapOp.run_reading _) (fun _ => findsScope_arena) fun a harena => ?_
  obtain ⟨frame, outer, hframes⟩ :=
    List.exists_cons_of_ne_nil (hsound.framed id a (arena_eq_ok harena))
  simp only [Arena.innermost?, hframes, List.head?_cons, Option.map_some]
  by_cases hscope : frame.id = scope
  · rw [if_pos hscope]
    exact hsound.failsOnly_exitScope id
  · rw [if_neg hscope]
    exact .throw fun _ hreason => by cases hreason

theorem failsOnly_allocateContent (hsound : h.Sound) (id : ArenaId) (content : Content) :
    FailsOnly (HeapOp.allocateContent id content) h Failure.FindsScope := by
  unfold HeapOp.allocateContent
  refine .get_bind (.read_bind (HeapOp.run_reading _) (fun _ => findsScope_arena) fun a harena => ?_)
  obtain ⟨frame, outer, hframes⟩ :=
    List.exists_cons_of_ne_nil (hsound.framed id a (arena_eq_ok harena))
  by_cases hfull : h.maxSlots ≤ a.slots.size ∨ 0x100000000 ≤ a.slots.size
  · simp only [hfull, ↓reduceIte]
    exact .throw_bind fun _ hreason => by cases hreason
  · simp only [hfull, ↓reduceIte, hframes]
    exact .of_run rfl

theorem failsOnly_allocate (hsound : h.Sound) (id : ArenaId) (v : Value) :
    FailsOnly (HeapOp.allocate id v) h Failure.FindsScope := by
  unfold HeapOp.allocate
  refine .read_bind (HeapOp.run_reading _) (fun _ => Value.findsScope_of_checkStorable) fun _ _ => ?_
  exact hsound.failsOnly_allocateContent id (.value v)

theorem failsOnly_reference (address : Address) (scope : ScopeId) :
    FailsOnly (HeapOp.reference address scope) h Failure.FindsScope := by
  unfold HeapOp.reference
  refine .read_bind (HeapOp.run_reading _) (fun _ => findsScope_slot) fun slot _ => ?_
  refine .read_bind (HeapOp.run_reading _) (fun _ => findsScope_arena) fun a _ => ?_
  cases Arena.holdIn? scope address a.frames with
  | none => exact .throw nofun
  | some frames => exact .of_run rfl

theorem failsOnly_retain (hsound : h.Sound) (address : Address) :
    FailsOnly (HeapOp.retain address) h Failure.FindsScope := by
  unfold HeapOp.retain
  refine .get_bind ?_
  cases harena : h.arenas.get? address.arena with
  | none => exact .throw nofun
  | some a =>
    obtain ⟨frame, outer, hframes⟩ := List.exists_cons_of_ne_nil (hsound.framed _ a harena)
    simp only [Arena.innermost?, hframes, List.head?_cons, Option.map_some]
    exact .bind (failsOnly_reference address frame.id) fun _ _ _ => .of_run rfl

theorem failsOnly_release (address : Address) :
    FailsOnly (HeapOp.release address) h Failure.FindsScope := by
  unfold HeapOp.release
  refine .read_bind (HeapOp.run_reading _) (fun _ => findsScope_slot) fun slot _ => ?_
  refine .read_bind (HeapOp.run_reading _) (fun _ => findsScope_arena) fun a _ => ?_
  cases Arena.unholdInnermost? address a.frames with
  | none => exact .throw nofun
  | some frames =>
    simp only
    cases { a with frames := frames }.giveBack? address with
    | none => exact .throw nofun
    | some result =>
      obtain ⟨given, last⟩ := result
      cases last with
      | false => exact .of_run rfl
      | true =>
        refine .bind (.of_run rfl) fun _ t _ => .bind ?_ fun _ _ _ => .of_run rfl
        exact .of_run (HeapOp.run_tearDownIfSpent address.arena t)

theorem failsOnly_perform (hsound : h.Sound) (call : HeapCall) :
    FailsOnly call.perform h Failure.FindsScope := by
  cases call with
  | createArena => exact failsOnly_createArena.silently
  | enterScope id => exact (failsOnly_enterScope id).silently
  | exitScope id => exact (hsound.failsOnly_exitScope id).silently
  | exitScopeChecked id scope => exact (hsound.failsOnly_exitScopeChecked id scope).silently
  | allocate id v => exact (hsound.failsOnly_allocate id v).silently
  | retain address => exact (hsound.failsOnly_retain address).silently
  | reference address scope => exact (failsOnly_reference address scope).silently
  | release address => exact (failsOnly_release address).silently

theorem findsScopes (hsound : h.Sound) : h.FindsScopes where
  perform := hsound.failsOnly_perform
  allocateContent := hsound.failsOnly_allocateContent
  arena := fun _ _ => findsScope_arena
  slot := fun _ _ => findsScope_slot
  deref := fun _ _ => findsScope_deref
  derefIn := fun _ _ _ => findsScope_derefIn
  value := fun _ _ => findsScope_value
  entity := fun _ _ => findsScope_entity
  downgrade := fun _ _ => findsScope_downgrade

/-- Room in the table is all that storing takes in an arena that is present. -/
theorem allocate_iff (hsound : h.Sound) {a : Arena} (harena : h.arenas.get? id = some a) {v : Value}
    (hstorable : v.checkStorable id = .ok ()) :
    (∃ address h', (HeapOp.allocate id v).run h = .ok address h') ↔
      a.slots.size < h.maxSlots ∧ a.slots.size < 0x100000000 := by
  constructor
  · rintro ⟨address, h', hrun⟩
    have hallocate := ((HeapOp.allocate_spec id v h).of_ok hrun).2
    obtain ⟨found, _, _, hfound, _, hroom, hfits, _⟩ :=
      (HeapOp.allocateContent_spec id (.value v) h).of_ok hallocate
    cases harena.symm.trans hfound
    exact ⟨hroom, hfits⟩
  · rintro ⟨hroom, hfits⟩
    obtain ⟨frame, outer, hframes⟩ := List.exists_cons_of_ne_nil (hsound.framed id a harena)
    rw [HeapOp.run_allocate hstorable]
    exact ⟨_, _, HeapOp.run_allocateContent harena hframes hroom hfits (.value v)⟩

end Sound

end Heap

end CapabilityArena
