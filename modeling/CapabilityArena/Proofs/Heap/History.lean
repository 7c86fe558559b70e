import Mathlib.Data.List.Count
import CapabilityArena.Proofs.Heap.Soundness
import CapabilityArena.Proofs.Value.References

/-!
The history of a heap: the arenas that its calls have opened and the addresses that they have given out.
`Logged` says what a call can do to the heap, with what it has checked before and what it enters into the
history, and `Ledger` says what the heap owes to its history after every run.
-/

namespace CapabilityArena

/-- The arena that a call opens. -/
def HeapCall.opened? : HeapCall → Heap → Option ArenaId
  | .createArena, h => answer? HeapOp.createArena h
  | _, _ => none

/-- The address that a call gives out. -/
def HeapCall.given? : HeapCall → Heap → Option Address
  | .allocate id value, h => answer? (HeapOp.allocate id value) h
  | _, _ => none

namespace Heap

/-- The arenas opened in a run. -/
def opened (calls : List HeapCall) (h : Heap) : List ArenaId :=
  answers HeapCall.perform HeapCall.opened? calls h

/-- The addresses given out in a run. -/
def given (calls : List HeapCall) (h : Heap) : List Address :=
  answers HeapCall.perform HeapCall.given? calls h

/-- What a call can do to a heap, also inside a realm, with the arena that it opens and the address that
    it gives out. Nothing is stored that is not at home in its arena. -/
inductive Logged (h : Heap) : Heap → Option ArenaId → Option Address → Prop where
  | idle : Logged h h none none
  | quiet {h' : Heap} (hstep : Step (fun _ => False) h h') (hnext : h'.nextArena = h.nextArena) :
    Logged h h' none none
  | put {address : Address} {before after : Entity}
    (hstored : h.content? address = some (.entity before))
    (hhome : (Content.entity after).HomeIn address.arena) :
    Logged h (h.putEntity address after) none none
  | opens {id : ArenaId} {h' : Heap} (hrun : HeapOp.createArena.run h = .ok id h') :
    Logged h h' (some id) none
  | gives {id : ArenaId} {content : Content} {address : Address} {h' : Heap}
    (hhome : content.HomeIn id)
    (hrun : (HeapOp.allocateContent id content).run h = .ok address h') :
    Logged h h' none (some address)

end Heap

namespace HeapOp

variable {id : ArenaId} {h h' : Heap}

theorem nextArena_exitScope (id : ArenaId) (h : Heap) :
    AllOrNothing (exitScope id) h fun _ h' => h'.nextArena = h.nextArena := by
  refine (exitScope_spec id h).mono fun exit h' hexit => ?_
  obtain ⟨a, frame, outer, _, _, _, rfl⟩ := hexit
  rw [Heap.nextArena_withoutSpent]
  rfl

theorem nextArena_reference (address : Address) (scope : ScopeId) (h : Heap) :
    AllOrNothing (reference address scope) h fun _ h' => h'.nextArena = h.nextArena := by
  refine (reference_spec address scope h).mono fun answer h' href => ?_
  obtain ⟨a, slot, frames, _, _, _, _, _, rfl⟩ := href
  rfl

theorem step_createArena (hrun : createArena.run h = .ok id h') {storable : Content → Prop} :
    Heap.Step storable h h' := by
  obtain ⟨hleft, rfl, rfl⟩ := (createArena_spec h).of_ok hrun
  exact .create hleft

end HeapOp

namespace HeapCall

/-- Only opening an arena takes an arena's number. -/
theorem nextArena_perform {call : HeapCall} (hcall : call ≠ .createArena) (h : Heap) :
    AllOrNothing call.perform h fun _ h' => h'.nextArena = h.nextArena := by
  cases call with
  | createArena => exact absurd rfl hcall
  | enterScope id =>
    refine (HeapOp.enterScope_spec id h).silently.mono fun _ h' henter => ?_
    obtain ⟨scope, a, _, _, rfl⟩ := henter
    rfl
  | exitScope id => exact (HeapOp.nextArena_exitScope id h).silently.mono fun _ _ ⟨_, hnext⟩ => hnext
  | exitScopeChecked id scope =>
    refine (HeapOp.exitScopeChecked_spec id scope h).silently.mono fun _ h' hexit => ?_
    obtain ⟨exit, a, frame, outer, _, _, _, hrun⟩ := hexit
    exact (HeapOp.nextArena_exitScope id h).of_ok hrun
  | allocate id value =>
    refine (HeapOp.allocate_spec id value h).silently.mono fun _ h' hallocate => ?_
    obtain ⟨address, _, hrun⟩ := hallocate
    exact HeapOp.nextArena_allocateContent hrun
  | retain address =>
    refine (HeapOp.retain_spec address h).silently.mono fun _ h' hretain => ?_
    obtain ⟨count, a, scope, _, _, hrun, _⟩ := hretain
    exact (HeapOp.nextArena_reference address scope h).of_ok hrun
  | reference address scope =>
    exact (HeapOp.nextArena_reference address scope h).silently.mono fun _ _ ⟨_, hnext⟩ => hnext
  | release address =>
    refine (HeapOp.release_spec address h).silently.mono fun _ h' hrelease => ?_
    obtain ⟨count, a, slot, frames, given, last, _, _, _, _, _, _, rfl⟩ := hrelease
    cases last with
    | false => rfl
    | true =>
      rw [if_pos rfl, Heap.nextArena_withoutSpent]
      rfl

/-- Calls that open nothing and allocate nothing are quiet. -/
theorem logged_quiet {call : HeapCall} (hopens : call ≠ .createArena)
    (hgives : ∀ id v, call ≠ .allocate id v) (h : Heap) :
    h.Logged (after call.perform h) none none := by
  have hcall : AllOrNothing call.perform h fun _ h' => Heap.Step (fun _ => False) h h' :=
    call.step_perform_of (fun id v heq => hgives id v heq) h
  rcases hcall.after_eq_or with hsame | ⟨_, hstep⟩
  · rw [hsame]
    exact .idle
  · have hnext := nextArena_perform hopens h
    exact .quiet hstep (hnext.after (P := fun h' => h'.nextArena = h.nextArena) rfl fun _ _ hnext => hnext)

theorem logged (call : HeapCall) (h : Heap) :
    h.Logged (after call.perform h) (call.opened? h) (call.given? h) := by
  cases call with
  | createArena =>
    simp only [perform, after_silently, opened?, given?]
    cases hanswer : answer? HeapOp.createArena h with
    | none =>
      obtain ⟨failure, hrun⟩ := answer?_eq_none.1 hanswer
      rw [(HeapOp.createArena_spec h).of_error hrun]
      exact .idle
    | some id => exact .opens (answer?_eq_some.1 hanswer)
  | allocate id value =>
    simp only [perform, after_silently, opened?, given?]
    cases hanswer : answer? (HeapOp.allocate id value) h with
    | none =>
      obtain ⟨failure, hrun⟩ := answer?_eq_none.1 hanswer
      rw [(HeapOp.allocate_spec id value h).of_error hrun]
      exact .idle
    | some address =>
      obtain ⟨hstorable, hrun⟩ := (HeapOp.allocate_spec id value h).of_ok (answer?_eq_some.1 hanswer)
      exact .gives (Content.homeIn_value (Value.checkStorable_eq_ok_iff.1 hstorable)) hrun
  | enterScope id => exact logged_quiet (by simp) (by simp) h
  | exitScope id => exact logged_quiet (by simp) (by simp) h
  | exitScopeChecked id scope => exact logged_quiet (by simp) (by simp) h
  | retain address => exact logged_quiet (by simp) (by simp) h
  | reference address scope => exact logged_quiet (by simp) (by simp) h
  | release address => exact logged_quiet (by simp) (by simp) h

end HeapCall

namespace Heap

variable {h h' : Heap} {id? : Option ArenaId} {address? : Option Address} {address : Address}

namespace Logged

/-- Whatever is entered into the history, the heap stays as it is, takes a step, or has an entity put in
    place of another. -/
theorem turn (hlogged : h.Logged h' id? address?) :
    h' = h ∨ (∃ storable, Step storable h h') ∨ ∃ address before after,
      h.content? address = some (.entity before) ∧ h' = h.putEntity address after := by
  cases hlogged with
  | idle => exact .inl rfl
  | quiet hstep _ => exact .inr (.inl ⟨_, hstep⟩)
  | put hstored _ => exact .inr (.inr ⟨_, _, _, hstored, rfl⟩)
  | opens hrun => exact .inr (.inl ⟨fun _ => False, HeapOp.step_createArena hrun⟩)
  | @gives id content _ _ _ hrun =>
    have hallocate : AllOrNothing (HeapOp.allocateContent id content) h
        fun _ h' => Step (fun _ => True) h h' := HeapOp.step_allocateContent trivial id h
    exact .inr (.inl ⟨_, hallocate.of_ok hrun⟩)

theorem sound (hlogged : h.Logged h' id? address?) (hsound : h.Sound) : h'.Sound := by
  rcases hlogged.turn with rfl | ⟨_, hstep⟩ | ⟨_, _, after, hstored, rfl⟩
  · exact hsound
  · exact hsound.step hstep
  · exact hsound.putEntity hstored after

theorem issued (hlogged : h.Logged h' id? address?) (hsound : h.Sound) (hissued : h.Issued address) :
    h'.Issued address := by
  rcases hlogged.turn with rfl | ⟨_, hstep⟩ | ⟨_, _, after, hstored, rfl⟩
  · exact hissued
  · exact hstep.issued hsound.counted hissued
  · exact issued_putEntity hsound.counted hstored after hissued

theorem maxSlots_eq (hlogged : h.Logged h' id? address?) (hsound : h.Sound) :
    h'.maxSlots = h.maxSlots := by
  rcases hlogged.turn with rfl | ⟨_, hstep⟩ | ⟨_, _, after, hstored, rfl⟩
  · rfl
  · cases hstep.outcome hsound.counted <;> rfl
  · rw [maxSlots_putEntity]

/-- A number that is torn down stays torn down. -/
theorem isTornDown (hlogged : h.Logged h' id? address?) (hsound : h.Sound) {id : ArenaId}
    (hgone : h.isTornDown id = true) : h'.isTornDown id = true := by
  rcases hlogged.turn with rfl | ⟨_, hstep⟩ | ⟨_, _, after, hstored, rfl⟩
  · exact hgone
  · cases hstep.outcome hsound.counted with
    | opened _ => exact hgone
    | changed _ _ _ _ => exact hgone
    | retired _ => exact (KeySet.contains_add ..).2 (.inr hgone)
  · rwa [Heap.isTornDown, tornDown_putEntity]

/-- What is stored at an address was stored there before, or has just been stored: in place of an entity,
    or at an address that was never given out. -/
theorem content_of (hlogged : h.Logged h' id? address?) (hsound : h.Sound) {content : Content}
    (hcontent : h'.content? address = some content) :
    h.content? address = some content ∨
      content.HomeIn address.arena ∧ (¬ h.Issued address ∨ ∃ before after,
        h.content? address = some (.entity before) ∧ content = .entity after) := by
  cases hlogged with
  | idle => exact .inl hcontent
  | quiet hstep _ =>
    rcases hstep.content_of hsound.counted hcontent with hold | ⟨_, _, hnone⟩
    · exact .inl hold
    · exact hnone.elim
  | @put changed before after hstored hhome =>
    rw [content?_putEntity hsound.counted hstored] at hcontent
    by_cases haddress : address = changed
    · rw [if_pos haddress] at hcontent
      cases hcontent
      rw [haddress]
      exact .inr ⟨hhome, .inr ⟨before, after, hstored, rfl⟩⟩
    · rw [if_neg haddress] at hcontent
      exact .inl hcontent
  | opens hrun =>
    have hstep : Step (fun _ => False) h h' := HeapOp.step_createArena hrun
    rcases hstep.content_of hsound.counted hcontent with hold | ⟨_, _, hnone⟩
    · exact .inl hold
    · exact hnone.elim
  | @gives id stored fresh _ hhome hrun =>
    rw [HeapOp.content?_allocateContent hsound.counted hrun] at hcontent
    by_cases haddress : address = fresh
    · rw [if_pos haddress] at hcontent
      cases hcontent
      rw [haddress]
      refine .inr ⟨?_, .inl (HeapOp.not_issued_of_allocateContent hrun)⟩
      rwa [HeapOp.arena_allocateContent hrun]
    · rw [if_neg haddress] at hcontent
      exact .inl hcontent

end Logged

/-- What a heap owes to its history. Every opened arena has taken a number, addresses are given out once,
    and a table has as many slots as addresses were given out in its arena. -/
structure Ledger (h : Heap) (opened : List ArenaId) (given : List Address) : Prop where
  next_eq : h.nextArena.toNat = opened.length + 1
  nodup : given.Nodup
  issued : ∀ address ∈ given, h.Issued address
  size_eq : ∀ id a, h.arenas.get? id = some a → a.slots.size = given.countP (·.arena = id)

theorem ledger_empty (maxSlots : Nat) : (empty maxSlots).Ledger [] [] where
  next_eq := rfl
  nodup := List.nodup_nil
  issued := by simp
  size_eq := by simp [empty]

namespace Ledger

variable {opened : List ArenaId} {given : List Address}

/-- An entry is not needed where no number is taken and no table grows. -/
theorem keep (hledger : h.Ledger opened given) (hnext : h'.nextArena = h.nextArena)
    (hissued : ∀ address, h.Issued address → h'.Issued address)
    (hsize : ∀ id found, h'.arenas.get? id = some found →
      ∃ a, h.arenas.get? id = some a ∧ found.slots.size = a.slots.size) :
    h'.Ledger opened given where
  next_eq := hnext ▸ hledger.next_eq
  nodup := hledger.nodup
  issued := fun address hmem => hissued address (hledger.issued address hmem)
  size_eq := by
    intro id found hfound
    obtain ⟨a, harena, hsame⟩ := hsize id found hfound
    rw [hsame, hledger.size_eq id a harena]

theorem opens (hledger : h.Ledger opened given) (hsound : h.Sound) {id : ArenaId}
    (hrun : HeapOp.createArena.run h = .ok id h') : h'.Ledger (opened ++ [id]) given := by
  have hstep : Step (fun _ => False) h h' := HeapOp.step_createArena hrun
  refine ⟨?next_eq, hledger.nodup, fun address hmem => ?issued, fun query found hfound => ?size_eq⟩
  case next_eq =>
    obtain ⟨hleft, _, rfl⟩ := (HeapOp.createArena_spec h).of_ok hrun
    rw [List.length_append, List.length_singleton, ← hledger.next_eq]
    exact Step.toNat_nextArena hleft
  case issued => exact hstep.issued hsound.counted (hledger.issued address hmem)
  case size_eq =>
    rcases hstep.arena_extends hsound.counted hfound with ⟨a, harena, hextends⟩ | ⟨hquery, _, hslots⟩
    · rw [hextends.size_eq, hledger.size_eq query a harena]
    · -- No address has been given out in an arena that has just been opened.
      have hnone : given.countP (·.arena = query) = 0 := by
        refine List.countP_eq_zero.2 fun address hmem harena => ?_
        have hbefore := (hledger.issued address hmem).1
        rw [of_decide_eq_true harena, hquery] at hbefore
        exact UInt32.lt_irrefl _ hbefore
      rw [hslots, hnone]
      rfl

theorem gives (hledger : h.Ledger opened given) (hsound : h.Sound) {id : ArenaId} {content : Content}
    (hrun : (HeapOp.allocateContent id content).run h = .ok address h')
    (hkept : ∀ query, h.Issued query → h'.Issued query) : h'.Ledger opened (given ++ [address]) := by
  refine ⟨?next_eq, ?nodup, fun query hmem => ?issued, fun query found hfound => ?size_eq⟩
  case next_eq => rw [HeapOp.nextArena_allocateContent hrun, hledger.next_eq]
  case nodup =>
    have hfresh : address ∉ given :=
      fun hmem => HeapOp.not_issued_of_allocateContent hrun (hledger.issued address hmem)
    exact (List.perm_append_singleton address given).nodup_iff.2
      (List.nodup_cons.2 ⟨hfresh, hledger.nodup⟩)
  case issued =>
    rcases List.mem_append.1 hmem with hold | hnew
    · exact hkept query (hledger.issued query hold)
    · rw [List.mem_singleton.1 hnew]
      exact HeapOp.issued_of_allocateContent hsound.counted hsound.numbered hrun
  case size_eq =>
    obtain ⟨a, harena, hsize⟩ := HeapOp.size_allocateContent hsound.counted hrun hfound
    rw [hsize, hledger.size_eq query a harena, List.countP_append, List.countP_singleton,
      HeapOp.arena_allocateContent hrun]
    simp [eq_comm]

theorem logged (hledger : h.Ledger opened given) (hsound : h.Sound)
    (hlogged : h.Logged h' id? address?) :
    h'.Ledger (opened ++ id?.toList) (given ++ address?.toList) := by
  have hissued : ∀ address, h.Issued address → h'.Issued address := fun _ => hlogged.issued hsound
  cases hlogged with
  | idle => simpa using hledger
  | quiet hstep hnext =>
    simp only [Option.toList_none, List.append_nil]
    refine hledger.keep hnext hissued fun id found hfound => ?_
    rcases hstep.arena_extends hsound.counted hfound with ⟨a, harena, hextends⟩ | ⟨_, hlater, _⟩
    · exact ⟨a, harena, hextends.size_eq⟩
    · rw [hnext] at hlater
      exact absurd hlater (UInt32.lt_irrefl _)
  | @put changed before after hstored _ =>
    obtain ⟨a, slot, harena, hslot, _⟩ := exists_slot_of_content hstored
    have hput := putEntity_eq harena hslot after
    simp only [Option.toList_none, List.append_nil]
    refine hledger.keep (nextArena_putEntity ..) hissued fun id found hfound => ?_
    rw [hput, get?_setArena] at hfound
    by_cases hid : id = a.id
    · have hsame := (hsound.counted _ a harena).1
      rw [if_pos (by exact hid)] at hfound
      cases hfound
      exact ⟨a, by rw [hid, hsame, harena], by simp [Arena.replaceSlot]⟩
    · exact ⟨found, by rwa [if_neg (by exact hid)] at hfound, rfl⟩
  | opens hrun => simpa using hledger.opens hsound hrun
  | gives _ hrun => simpa using hledger.gives hsound hrun hissued

end Ledger

end Heap

end CapabilityArena
