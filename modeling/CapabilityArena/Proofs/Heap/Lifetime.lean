import CapabilityArena.Proofs.Heap.History

/-!
How long an address is good for. When its slot is gone, every use of it fails (`Dangling`); what has been
given out and is gone stays gone, and a value stays what it was for as long as its slot is there.
-/

namespace CapabilityArena.Heap

/-- Nothing is left at the address, and whatever is tried with it fails for that reason and changes
    nothing. -/
structure Dangling (h : Heap) (address : Address) : Prop where
  deref : h.deref address = .error (.danglingAddress address)
  value : h.value address = .error (.danglingAddress address)
  entity : h.entity address = .error (.danglingAddress address)
  downgrade : h.downgrade address = .error (.danglingAddress address)
  retain : (HeapOp.retain address).run h = .error (.danglingAddress address) h
  reference : ∀ scope, (HeapOp.reference address scope).run h = .error (.danglingAddress address) h
  release : (HeapOp.release address).run h = .error (.danglingAddress address) h
  refCount : h.refCount address = 0

/-- The address has been given out, and its slot or its arena is gone. -/
def Gone (h : Heap) (address : Address) : Prop := h.Issued address ∧ h.content? address = none

/-- The address has been given out for a value, and holds that value if it still holds anything. -/
def Keeps (h : Heap) (address : Address) (v : Value) : Prop :=
  h.Issued address ∧ ∀ content, h.content? address = some content → content = .value v

variable {h h' : Heap} {address : Address} {v : Value}

theorem Counted.slot_eq_error (hcounted : h.Counted) (hnone : h.content? address = none) :
    h.slot address = .error (.danglingAddress address) := by
  cases hslot : h.slot address with
  | error failure => rw [Heap.slot_eq_error hslot]
  | ok slot =>
    obtain ⟨a, harena, hat, hlive⟩ := slot_eq_ok hslot
    have hstored := ((hcounted _ a harena).2.content_iff _ slot hat).2 (Slot.isLive_iff.1 hlive)
    rw [content?, harena, Option.bind_some, Arena.content?, hat, Option.bind_some] at hnone
    rw [hnone] at hstored
    cases hstored

theorem Counted.value_eq_ok (hcounted : h.Counted) (hstored : h.content? address = some (.value v)) :
    h.value address = .ok v := by
  rw [value, hcounted.deref_eq_ok_iff.2 hstored]
  rfl

/-- An operation that begins with the slot stops there. -/
theorem run_slot_bind {α : Type} (hslot : h.slot address = .error (.danglingAddress address))
    (next : Slot → HeapOp α) :
    (HeapOp.reading (·.slot address) >>= next).run h = .error (.danglingAddress address) h := by
  rw [EStateM.run_bind, HeapOp.run_reading, hslot]
  rfl

/-- An arena that is present has a frame open, so retaining gets as far as the slot. -/
theorem Sound.run_retain (hsound : h.Sound)
    (hslot : h.slot address = .error (.danglingAddress address)) :
    (HeapOp.retain address).run h = .error (.danglingAddress address) h := by
  simp only [HeapOp.retain, EStateM.run_bind, EStateM.run_get]
  cases harena : h.arenas.get? address.arena with
  | none => rfl
  | some a =>
    obtain ⟨frame, outer, hframes⟩ := List.exists_cons_of_ne_nil (hsound.framed _ a harena)
    simp only [Arena.innermost?, hframes, List.head?_cons, Option.map_some, EStateM.run_bind]
    rw [HeapOp.reference, run_slot_bind hslot]

theorem Sound.dangling (hsound : h.Sound) (hnone : h.content? address = none) :
    h.Dangling address := by
  have hslot := hsound.counted.slot_eq_error hnone
  have hderef : h.deref address = .error (.danglingAddress address) := by
    rw [deref, hslot]
    rfl
  constructor
  case deref => exact hderef
  case value => rw [value, hderef]; rfl
  case entity => rw [entity, hderef]; rfl
  case downgrade => rw [downgrade, hslot]; rfl
  case retain => exact hsound.run_retain hslot
  case reference => exact fun _ => run_slot_bind hslot _
  case release => exact run_slot_bind hslot _
  case refCount => rw [refCount, hslot]

namespace Logged

variable {id? : Option ArenaId} {address? : Option Address}

theorem gone (hlogged : h.Logged h' id? address?) (hsound : h.Sound) (hgone : h.Gone address) :
    h'.Gone address := by
  obtain ⟨hissued, hnone⟩ := hgone
  refine ⟨hlogged.issued hsound hissued, ?_⟩
  cases hcontent : h'.content? address with
  | none => rfl
  | some content =>
    rcases hlogged.content_of hsound hcontent with hold | ⟨_, hfresh | ⟨before, after, hold, _⟩⟩
    · cases hnone.symm.trans hold
    · exact absurd hissued hfresh
    · cases hnone.symm.trans hold

theorem keeps (hlogged : h.Logged h' id? address?) (hsound : h.Sound) (hkeeps : h.Keeps address v) :
    h'.Keeps address v := by
  obtain ⟨hissued, hvalue⟩ := hkeeps
  refine ⟨hlogged.issued hsound hissued, fun content hcontent => ?_⟩
  rcases hlogged.content_of hsound hcontent with hold | ⟨_, hfresh | ⟨before, after, hold, _⟩⟩
  · exact hvalue content hold
  · exact absurd hissued hfresh
  · cases hvalue _ hold

end Logged

theorem Sound.allocate (hsound : h.Sound) {id : ArenaId}
    (hrun : (HeapOp.allocate id v).run h = .ok address h') : h'.Sound := by
  have hallocate : AllOrNothing (HeapOp.allocateContent id (.value v)) h
      fun _ h' => Step Content.IsValue h h' := HeapOp.step_allocateContent ⟨v, rfl⟩ id h
  exact hsound.step (hallocate.of_ok ((HeapOp.allocate_spec id v h).of_ok hrun).2)

theorem Sound.keeps_of_allocate (hsound : h.Sound) {id : ArenaId}
    (hrun : (HeapOp.allocate id v).run h = .ok address h') : h'.Keeps address v := by
  have hallocate := ((HeapOp.allocate_spec id v h).of_ok hrun).2
  refine ⟨HeapOp.issued_of_allocateContent hsound.counted hsound.numbered hallocate,
    fun content hcontent => ?_⟩
  rw [HeapOp.content?_allocateContent hsound.counted hallocate, if_pos rfl] at hcontent
  exact (Option.some.inj hcontent).symm

/-- What is kept can be read as long as the address is live. -/
theorem Sound.value_of_keeps (hsound : h.Sound) (hkeeps : h.Keeps address v)
    (hlive : h.isLive address = true) : h.value address = .ok v := by
  cases hcontent : h.content? address with
  | none =>
    rw [isLive, hsound.counted.slot_eq_error hcontent] at hlive
    cases hlive
  | some content =>
    have hvalue := hkeeps.2 content hcontent
    rw [hvalue] at hcontent
    exact hsound.counted.value_eq_ok hcontent

end CapabilityArena.Heap
