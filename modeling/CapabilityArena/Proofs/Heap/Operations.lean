import CapabilityArena.Proofs.Operation

/-!
What each heap operation does when it succeeds. A failing operation leaves the heap as it was.
-/

namespace CapabilityArena

namespace Heap

theorem arena_eq_ok {h : Heap} {id : ArenaId} {a : Arena} (harena : h.arena id = .ok a) :
    h.arenas.get? id = some a := by
  unfold arena at harena
  split at harena
  next found hfound =>
    cases harena
    exact hfound
  next => cases harena

theorem arena_of_get? {h : Heap} {id : ArenaId} {a : Arena} (harena : h.arenas.get? id = some a) :
    h.arena id = .ok a := by
  rw [arena, harena]

/-- A live slot is in the table of its arena and is counted. -/
theorem slot_eq_ok {h : Heap} {address : Address} {slot : Slot} (hslot : h.slot address = .ok slot) :
    ∃ a, h.arenas.get? address.arena = some a ∧ a.slot? address = some slot ∧ slot.isLive = true := by
  unfold Heap.slot at hslot
  split at hslot
  next found hfound =>
    split at hslot
    next hlive =>
      cases hslot
      obtain ⟨a, harena, hat⟩ := Option.bind_eq_some_iff.1 hfound
      exact ⟨a, harena, hat, hlive⟩
    next => cases hslot
  next => cases hslot

/-- There is only one reason why a slot cannot be read. -/
theorem slot_eq_error {h : Heap} {address : Address} {failure : Failure}
    (hslot : h.slot address = .error failure) : failure = .danglingAddress address := by
  unfold Heap.slot at hslot
  split at hslot
  next =>
    split at hslot
    next => cases hslot
    next =>
      cases hslot
      rfl
  next =>
    cases hslot
    rfl

/-- The heap after an arena has been torn down, if it was spent. -/
def withoutSpent (h : Heap) (id : ArenaId) : Heap :=
  if (h.arenas.get? id).any (·.isSpent) then
    { h with arenas := h.arenas.erase id, tornDown := h.tornDown.add id }
  else h

end Heap

namespace HeapOp

theorem run_tearDownIfSpent (id : ArenaId) (h : Heap) :
    (tearDownIfSpent id).run h = .ok ((h.arenas.get? id).any (·.isSpent)) (h.withoutSpent id) := by
  simp only [tearDownIfSpent, EStateM.run_bind, EStateM.run_get, Heap.withoutSpent]
  cases h.arenas.get? id with
  | none => rfl
  | some a =>
    cases hspent : a.isSpent with
    | false => simp [hspent]
    | true =>
      simp only [hspent, ↓reduceIte, Option.any_some]
      rfl

theorem createArena_spec (h : Heap) :
    AllOrNothing createArena h fun id h' =>
      h.nextArena ≠ 0xffffffff ∧ id = ⟨h.nextArena⟩ ∧
      h' = { h.setArena (.opened id ⟨h.nextScope⟩) with
        nextArena := h.nextArena + 1
        nextScope := h.nextScope + 1 } := by
  unfold createArena
  refine .get_bind ?_
  by_cases hlast : h.nextArena = 0xffffffff
  · simp only [hlast, ↓reduceIte]
    exact .throw_bind
  · simp only [hlast, ↓reduceIte]
    exact ⟨hlast, rfl, rfl⟩

theorem enterScope_spec (id : ArenaId) (h : Heap) :
    AllOrNothing (enterScope id) h fun scope h' => ∃ a,
      h.arenas.get? id = some a ∧ scope = ⟨h.nextScope⟩ ∧
      h' = { h.setArena { a with frames := ⟨scope, []⟩ :: a.frames } with
        nextScope := h.nextScope + 1 } := by
  unfold enterScope
  refine .read_bind (run_reading _) fun a harena => ?_
  exact ⟨a, Heap.arena_eq_ok harena, rfl, rfl⟩

/-- A scope can always be entered, as long as the arena is there. -/
theorem run_enterScope {id : ArenaId} {h : Heap} {a : Arena} (harena : h.arenas.get? id = some a) :
    (enterScope id).run h = .ok ⟨h.nextScope⟩
      { h.setArena { a with frames := ⟨⟨h.nextScope⟩, []⟩ :: a.frames } with
        nextScope := h.nextScope + 1 } := by
  simp only [enterScope, EStateM.run_bind, run_reading, Heap.arena_of_get? harena, unchanged,
    EStateM.run_get, EStateM.run_set, EStateM.run_pure]

/-- An open scope can always be left. Leaving it gives back what its frame holds and tears the arena down
    if nothing is left. -/
theorem run_exitScope {id : ArenaId} {h : Heap} {a : Arena} {frame : Frame} {outer : List Frame}
    (harena : h.arenas.get? id = some a) (hframes : a.frames = frame :: outer) :
    let given := Arena.giveBackAll frame.held { a with frames := outer }
    (exitScope id).run h = .ok ⟨frame.id, frame.held.length, given.2,
      ((h.setArena given.1).arenas.get? id).any (·.isSpent)⟩ ((h.setArena given.1).withoutSpent id) := by
  simp only [exitScope, EStateM.run_bind, run_reading, Heap.arena_of_get? harena, unchanged, hframes,
    EStateM.run_modify, run_tearDownIfSpent, EStateM.run_pure]

theorem exitScope_spec (id : ArenaId) (h : Heap) :
    AllOrNothing (exitScope id) h fun exit h' => ∃ a frame outer,
      h.arenas.get? id = some a ∧ a.frames = frame :: outer ∧
      let given := Arena.giveBackAll frame.held { a with frames := outer }
      exit = ⟨frame.id, frame.held.length, given.2,
        ((h.setArena given.1).arenas.get? id).any (·.isSpent)⟩ ∧
      h' = (h.setArena given.1).withoutSpent id := by
  unfold exitScope
  refine .read_bind (run_reading _) fun a harena => ?_
  have hget := Heap.arena_eq_ok harena
  cases hframes : a.frames with
  | nil => exact .throw
  | cons frame outer =>
    have hrun := run_exitScope hget hframes
    rw [exitScope, EStateM.run_bind, run_reading, harena] at hrun
    simp only [unchanged, hframes] at hrun
    exact .of_run hrun ⟨a, frame, outer, hget, hframes, rfl, rfl⟩

/-- The checked exit is the exit of the innermost scope, for that scope only. -/
theorem exitScopeChecked_spec (id : ArenaId) (scope : ScopeId) (h : Heap) :
    AllOrNothing (exitScopeChecked id scope) h fun exit h' => ∃ a frame outer,
      h.arenas.get? id = some a ∧ a.frames = frame :: outer ∧ frame.id = scope ∧
      (exitScope id).run h = .ok exit h' := by
  unfold exitScopeChecked
  refine .read_bind (run_reading _) fun a harena => ?_
  have hget := Heap.arena_eq_ok harena
  cases hframes : a.frames with
  | nil =>
    simp only [Arena.innermost?, hframes]
    exact .throw
  | cons frame outer =>
    simp only [Arena.innermost?, hframes, List.head?_cons, Option.map_some]
    by_cases hscope : frame.id = scope
    · rw [if_pos hscope]
      refine (exitScope_spec id h).run_eq.mono fun exit h' hrun => ?_
      exact ⟨a, frame, outer, hget, hframes, hscope, hrun⟩
    · rw [if_neg hscope]
      exact .throw

/-- An arena with an open scope and room for a slot takes new content at the next offset, held once by the
    innermost frame. -/
theorem run_allocateContent {id : ArenaId} {h : Heap} {a : Arena} {frame : Frame} {outer : List Frame}
    (harena : h.arenas.get? id = some a) (hframes : a.frames = frame :: outer)
    (hroom : a.slots.size < h.maxSlots) (hfits : a.slots.size < 0x100000000) (content : Content) :
    let address := Address.ofParts id (.ofNat a.slots.size)
    (allocateContent id content).run h = .ok address (h.setArena { a with
      slots := a.slots.push (.holding content)
      live := a.live.add address.offset
      frames := frame.hold address :: outer }) := by
  have hnotFull : ¬ (h.maxSlots ≤ a.slots.size ∨ 0x100000000 ≤ a.slots.size) := by omega
  simp only [allocateContent, EStateM.run_bind, EStateM.run_get, run_reading, Heap.arena_of_get? harena,
    unchanged, hnotFull, ↓reduceIte, hframes, EStateM.run_pure, EStateM.run_set]

theorem allocateContent_spec (id : ArenaId) (content : Content) (h : Heap) :
    AllOrNothing (allocateContent id content) h fun address h' => ∃ a frame outer,
      h.arenas.get? id = some a ∧ a.frames = frame :: outer ∧
      a.slots.size < h.maxSlots ∧ a.slots.size < 0x100000000 ∧
      address = .ofParts id (.ofNat a.slots.size) ∧
      h' = h.setArena { a with
        slots := a.slots.push (.holding content)
        live := a.live.add address.offset
        frames := frame.hold address :: outer } := by
  unfold allocateContent
  refine .get_bind (.read_bind (run_reading _) fun a harena => ?_)
  by_cases hfull : h.maxSlots ≤ a.slots.size ∨ 0x100000000 ≤ a.slots.size
  · simp only [hfull, ↓reduceIte]
    exact .throw_bind
  · simp only [hfull, ↓reduceIte]
    cases hframes : a.frames with
    | nil => exact .throw
    | cons frame outer =>
      exact ⟨a, frame, outer, Heap.arena_eq_ok harena, hframes, by omega, by omega, rfl, rfl⟩

/-- Storing a value that may be stored is taking a slot for it. -/
theorem run_allocate {id : ArenaId} {v : Value} (hstorable : v.checkStorable id = .ok ()) (h : Heap) :
    (allocate id v).run h = (allocateContent id (.value v)).run h := by
  rw [allocate, EStateM.run_bind, run_reading, hstorable]
  rfl

theorem allocate_spec (id : ArenaId) (v : Value) (h : Heap) :
    AllOrNothing (allocate id v) h fun address h' =>
      v.checkStorable id = .ok () ∧ (allocateContent id (.value v)).run h = .ok address h' := by
  unfold allocate
  refine .read_bind (run_reading _) fun _ hstorable => ?_
  exact (allocateContent_spec id (.value v) h).run_eq.mono fun _ _ hrun => ⟨hstorable, hrun⟩

/-- A reference adds a hold to the frame of an open scope and a count to the slot. -/
theorem reference_spec (address : Address) (scope : ScopeId) (h : Heap) :
    AllOrNothing (reference address scope) h fun answer h' => ∃ a slot frames,
      h.arenas.get? address.arena = some a ∧ a.slot? address = some slot ∧ slot.isLive = true ∧
      Arena.holdIn? scope address a.frames = some frames ∧ answer = address ∧
      h' = h.setArena ({ a with frames := frames }.replaceSlot address slot.gain) := by
  unfold reference
  refine .read_bind (run_reading _) fun slot hslot => ?_
  obtain ⟨a, harena, hat, hlive⟩ := Heap.slot_eq_ok hslot
  refine .read_bind (run_reading _) fun found hfound => ?_
  cases harena.symm.trans (Heap.arena_eq_ok hfound)
  cases hframes : Arena.holdIn? scope address a.frames with
  | none => exact .throw
  | some frames => exact ⟨a, slot, frames, harena, hat, hlive, hframes, rfl, rfl⟩

/-- Retaining is referring from the innermost scope. -/
theorem retain_spec (address : Address) (h : Heap) :
    AllOrNothing (retain address) h fun count h' => ∃ a scope,
      h.arenas.get? address.arena = some a ∧ a.innermost? = some scope ∧
      (reference address scope).run h = .ok address h' ∧ count = h'.refCount address := by
  unfold retain
  refine .get_bind ?_
  cases harena : h.arenas.get? address.arena with
  | none => exact .throw
  | some a =>
    cases hscope : a.innermost? with
    | none =>
      simp only [hscope]
      exact .throw
    | some scope =>
      simp only [hscope]
      have href := reference_spec address scope h
      cases hrun : (reference address scope).run h with
      | ok answer h' =>
        obtain ⟨_, _, _, _, _, _, _, rfl, _⟩ := href.of_ok hrun
        refine .of_run (a := h'.refCount answer) (t := h') ?_
          ⟨a, scope, rfl, hscope, hrun, rfl⟩
        rw [EStateM.run_bind, hrun]
        rfl
      | error failure h' =>
        unfold AllOrNothing
        rw [EStateM.run_bind, hrun]
        exact href.of_error hrun

/-- A release takes the hold of the innermost frame that has one and a count from the slot. -/
theorem release_spec (address : Address) (h : Heap) :
    AllOrNothing (release address) h fun count h' => ∃ a slot frames given last,
      h.arenas.get? address.arena = some a ∧ a.slot? address = some slot ∧ slot.isLive = true ∧
      Arena.unholdInnermost? address a.frames = some frames ∧
      { a with frames := frames }.giveBack? address = some (given, last) ∧
      count = (if last then 0 else (h.setArena given).refCount address) ∧
      h' = if last then (h.setArena given).withoutSpent address.arena else h.setArena given := by
  unfold release
  refine .read_bind (run_reading _) fun slot hslot => ?_
  obtain ⟨a, harena, hat, hlive⟩ := Heap.slot_eq_ok hslot
  refine .read_bind (run_reading _) fun found hfound => ?_
  cases harena.symm.trans (Heap.arena_eq_ok hfound)
  cases hframes : Arena.unholdInnermost? address a.frames with
  | none => exact .throw
  | some frames =>
    simp only
    cases hgiven : { a with frames := frames }.giveBack? address with
    | none => exact .throw
    | some result =>
      obtain ⟨given, last⟩ := result
      cases last with
      | false => exact ⟨a, slot, frames, given, false, harena, hat, hlive, hframes, hgiven, rfl, rfl⟩
      | true =>
        refine .of_run (a := 0) (t := (h.setArena given).withoutSpent address.arena) ?_
          ⟨a, slot, frames, given, true, harena, hat, hlive, hframes, hgiven, rfl, rfl⟩
        simp only [EStateM.run_bind, EStateM.run_modify, run_tearDownIfSpent, EStateM.run_pure]

end HeapOp

end CapabilityArena
