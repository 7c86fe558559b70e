import CapabilityArena.Proofs.Heap.Content

/-!
Allocation seen from outside. A successful allocation gives out an address that was never given out before,
stores its content there and leaves everything else as it is.
-/

namespace CapabilityArena.HeapOp

variable {h h' : Heap} {id : ArenaId} {content : Content} {address : Address}

theorem arena_allocateContent (hrun : (allocateContent id content).run h = .ok address h') :
    address.arena = id := by
  obtain ⟨_, _, _, _, _, _, _, rfl, _⟩ := (allocateContent_spec id content h).of_ok hrun
  exact Address.arena_ofParts ..

theorem nextArena_allocateContent (hrun : (allocateContent id content).run h = .ok address h') :
    h'.nextArena = h.nextArena := by
  obtain ⟨_, _, _, _, _, _, _, _, rfl⟩ := (allocateContent_spec id content h).of_ok hrun
  rfl

/-- The new slot is the one after the last. -/
theorem offset_allocateContent (hrun : (allocateContent id content).run h = .ok address h') :
    ∃ a, h.arenas.get? id = some a ∧ address.offset.toNat = a.slots.size := by
  obtain ⟨a, _, _, harena, _, _, hroom, rfl, _⟩ := (allocateContent_spec id content h).of_ok hrun
  refine ⟨a, harena, ?_⟩
  rw [Address.offset_ofParts, UInt32.toNat_ofNat_of_lt' hroom]

theorem not_issued_of_allocateContent (hrun : (allocateContent id content).run h = .ok address h') :
    ¬ h.Issued address := by
  intro hissued
  obtain ⟨a, harena, hend⟩ := offset_allocateContent hrun
  have hinside := hissued.2 a (by rw [arena_allocateContent hrun, harena])
  omega

theorem content?_eq_none_of_allocateContent (hnumbered : h.Numbered)
    (hrun : (allocateContent id content).run h = .ok address h') : h.content? address = none := by
  cases hstored : h.content? address with
  | none => rfl
  | some stored =>
    exact absurd (Heap.issued_of_content hnumbered hstored) (not_issued_of_allocateContent hrun)

/-- The table of the arena grows by one slot, and no other table changes. -/
theorem size_allocateContent (hcounted : h.Counted)
    (hrun : (allocateContent id content).run h = .ok address h') {query : ArenaId} {found : Arena}
    (hfound : h'.arenas.get? query = some found) :
    ∃ a, h.arenas.get? query = some a ∧
      found.slots.size = a.slots.size + if query = id then 1 else 0 := by
  obtain ⟨a, frame, outer, harena, _, _, _, _, rfl⟩ := (allocateContent_spec id content h).of_ok hrun
  obtain ⟨rfl, _⟩ := hcounted id a harena
  rw [Heap.get?_setArena] at hfound
  by_cases hquery : query = a.id
  · simp only [hquery, ↓reduceIte, Option.some.injEq] at hfound
    subst hfound
    exact ⟨a, hquery ▸ harena, by simp [hquery, Array.size_push]⟩
  · exact ⟨found, by simpa [hquery] using hfound, by simp [hquery]⟩

theorem issued_of_allocateContent (hcounted : h.Counted) (hnumbered : h.Numbered)
    (hrun : (allocateContent id content).run h = .ok address h') : h'.Issued address := by
  obtain ⟨a, harena, hend⟩ := offset_allocateContent hrun
  have hid := arena_allocateContent hrun
  constructor
  · rw [nextArena_allocateContent hrun, hid]
    exact hnumbered id a harena
  · intro found hfound
    obtain ⟨before, hbefore, hsize⟩ := size_allocateContent hcounted hrun hfound
    rw [hid, harena, Option.some.injEq] at hbefore
    rw [hid, if_pos rfl] at hsize
    rw [hbefore] at hend
    omega

theorem content?_allocateContent (hcounted : h.Counted)
    (hrun : (allocateContent id content).run h = .ok address h') (query : Address) :
    h'.content? query = if query = address then some content else h.content? query := by
  obtain ⟨a, frame, outer, harena, _, _, hroom, rfl, rfl⟩ :=
    (allocateContent_spec id content h).of_ok hrun
  obtain ⟨rfl, _⟩ := hcounted id a harena
  rw [Heap.content?_setArena]
  by_cases hsame : query.arena = a.id
  · have hend : query.offset.toNat = a.slots.size ↔
        query = .ofParts a.id (.ofNat a.slots.size) := by
      constructor
      · intro hoffset
        refine Address.eq_of_parts (by rw [hsame, Address.arena_ofParts]) ?_
        rw [Address.offset_ofParts, ← hoffset, UInt32.ofNat_toNat]
      · rintro rfl
        rw [Address.offset_ofParts, UInt32.toNat_ofNat_of_lt' hroom]
    rw [if_pos hsame, Arena.content?, Arena.slot?, Array.getElem?_push]
    by_cases hquery : query.offset.toNat = a.slots.size
    · rw [if_pos hquery, if_pos (hend.1 hquery)]
      rfl
    · rw [if_neg hquery, if_neg fun heq => hquery (hend.2 heq), Heap.content?, hsame, harena]
      rfl
  · have hquery : query ≠ .ofParts a.id (.ofNat a.slots.size) := by
      rintro rfl
      exact hsame (Address.arena_ofParts ..)
    rw [if_neg hsame, if_neg hquery]

end CapabilityArena.HeapOp
