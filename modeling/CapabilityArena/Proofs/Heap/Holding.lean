import CapabilityArena.Proofs.Heap.Soundness

/-!
What a heap answers about counts, in terms of holds: the count of an address is the number of holds that the
frames of its arena have of it, and it is live as long as there is one.
-/

namespace CapabilityArena.Heap

/-- All holds of the open frames of an arena. -/
def held (h : Heap) (id : ArenaId) : List Address := (h.arenas.get? id).elim [] (·.held)

variable {h : Heap} {id : ArenaId} {a : Arena} {address : Address}

theorem held_eq (harena : h.arenas.get? id = some a) : h.held id = a.held := by
  rw [held, harena, Option.elim_some]

theorem held_setArena (h : Heap) (a : Arena) : (h.setArena a).held a.id = a.held :=
  held_eq (by rw [get?_setArena, if_pos rfl])

theorem held_retire (h : Heap) (id : ArenaId) : (h.retire id).held id = [] := by
  rw [held, retire, Dictionary.get?_erase_self, Option.elim_none]

/-- What counts is live, and the other way round. -/
theorem isLive_iff : h.isLive address = true ↔ 1 ≤ h.refCount address := by
  rw [isLive, refCount]
  cases hslot : h.slot address with
  | error failure => simp
  | ok slot =>
    obtain ⟨_, _, _, hlive⟩ := slot_eq_ok hslot
    simpa using Slot.isLive_iff.1 hlive

namespace Counted

theorem arena_of_mem_held (hcounted : h.Counted) (hmem : address ∈ h.held id) : address.arena = id := by
  cases harena : h.arenas.get? id with
  | none =>
    rw [held, harena] at hmem
    cases hmem
  | some a =>
    obtain ⟨rfl, ha⟩ := hcounted id a harena
    rw [held_eq harena] at hmem
    exact (ha.inside address hmem).1

/-- An address that is held has its slot in the table, counted as often. -/
theorem exists_slot (hcounted : h.Counted) (hmem : address ∈ h.held address.arena) :
    ∃ a slot, h.arenas.get? address.arena = some a ∧ h.slot address = .ok slot ∧
      a.slot? address = some slot ∧ slot.count = a.held.count address := by
  cases harena : h.arenas.get? address.arena with
  | none =>
    rw [held, harena] at hmem
    cases hmem
  | some a =>
    rw [held_eq harena] at hmem
    obtain ⟨slot, hslot, hcount⟩ := (hcounted _ a harena).2.exists_slot hmem
    have hlive : slot.isLive = true := by
      rw [Slot.isLive_iff, hcount]
      exact List.count_pos_iff.2 hmem
    refine ⟨a, slot, rfl, ?_, hslot, hcount⟩
    rw [Heap.slot, harena, Option.bind_some, hslot]
    exact if_pos hlive

theorem refCount_eq (hcounted : h.Counted) (address : Address) :
    h.refCount address = (h.held address.arena).count address := by
  by_cases hmem : address ∈ h.held address.arena
  · obtain ⟨a, slot, harena, hslot, _, hcount⟩ := hcounted.exists_slot hmem
    rw [refCount, hslot, held_eq harena]
    exact hcount
  · rw [List.count_eq_zero.2 hmem, refCount]
    cases hslot : h.slot address with
    | error failure => rfl
    | ok slot =>
      obtain ⟨a, harena, hat, hlive⟩ := slot_eq_ok hslot
      obtain ⟨hid, ha⟩ := hcounted _ a harena
      rw [held_eq harena] at hmem
      have hcount := ha.count_eq address.offset slot hat
      rw [(Arena.addressAt_eq_iff hid.symm _).2 rfl, List.count_eq_zero.2 hmem] at hcount
      exact hcount

theorem isLive_iff (hcounted : h.Counted) :
    h.isLive address = true ↔ address ∈ h.held address.arena := by
  rw [Heap.isLive_iff, hcounted.refCount_eq]
  exact List.count_pos_iff

/-- A live address is held by an open frame, and its slot is in the table with that count. -/
theorem exists_slot_of_isLive (hcounted : h.Counted) (hlive : h.isLive address = true) :
    ∃ a slot, h.arenas.get? address.arena = some a ∧ h.slot address = .ok slot ∧
      a.slot? address = some slot ∧ address ∈ a.held ∧ slot.count = a.held.count address ∧
      1 ≤ slot.count := by
  have hheld := hcounted.isLive_iff.1 hlive
  obtain ⟨a, slot, harena, hslot, hat, hcount⟩ := hcounted.exists_slot hheld
  rw [held_eq harena] at hheld
  exact ⟨a, slot, harena, hslot, hat, hheld, hcount, hcount ▸ List.count_pos_iff.2 hheld⟩

end Counted

end CapabilityArena.Heap
