import CapabilityArena.Proofs.Arena.Releasing
import CapabilityArena.Proofs.Heap.Holding

/-!
Releasing and retaining an address that is live. Both succeed: what is live is held, so a release finds a hold
to give back, and a scope is open that can take one more.
-/

namespace CapabilityArena.Heap

variable {h : Heap} {address : Address} {a given : Arena} {frames : List Frame} {last : Bool} {slot : Slot}

namespace Counted

/-- A release takes one count of its address. -/
theorem refCount_release (hcounted : h.Counted) (harena : h.arenas.get? address.arena = some a)
    (hunhold : Arena.unholdInnermost? address a.frames = some frames)
    (hgiven : { a with frames := frames }.giveBack? address = some (given, last)) :
    h.refCount address = (h.setArena given).refCount address + 1 := by
  obtain ⟨hid, _, hgivenCounted⟩ := hcounted.giveBack_release harena hunhold hgiven
  have hheld : given.held = frames.flatMap (·.held) := by
    rw [Arena.held, Arena.frames_of_giveBack? hgiven]
  rw [hcounted.refCount_eq, (hcounted.setArena hgivenCounted).refCount_eq, held_eq harena, ← hid,
    held_setArena, hheld, Arena.held, (Arena.perm_of_unholdInnermost? hunhold).count_eq, List.count_cons_self]

/-- What a frame holds can be released. -/
theorem run_release (hcounted : h.Counted) (harena : h.arenas.get? address.arena = some a)
    (hunhold : Arena.unholdInnermost? address a.frames = some frames)
    (hgiven : { a with frames := frames }.giveBack? address = some (given, last)) :
    (HeapOp.release address).run h =
      .ok ((h.setArena given).refCount address) (h.setArena given) := by
  have hheld : address ∈ h.held address.arena := by
    rw [held_eq harena, Arena.held, (Arena.perm_of_unholdInnermost? hunhold).mem_iff]
    exact List.mem_cons_self
  obtain ⟨_, slot, hfound, hslot, hat, _⟩ := hcounted.exists_slot hheld
  cases harena.symm.trans hfound
  simp only [HeapOp.release, EStateM.run_bind, HeapOp.run_reading, hslot, arena_of_get? harena, unchanged,
    hunhold, hgiven]
  cases last with
  | false => rfl
  | true =>
    have hlast : slot.count = 1 :=
      (Arena.last_iff_of_giveBack? (a := { a with frames := frames }) hat hgiven).1 rfl
    have hbefore : h.refCount address = slot.count := by rw [refCount, hslot]
    have hcount := hcounted.refCount_release harena hunhold hgiven
    have hzero : (h.setArena given).refCount address = 0 := by omega
    simp only [EStateM.run_bind, EStateM.run_modify, HeapOp.run_tearDownIfSpent, EStateM.run_pure, hzero,
      hcounted.withoutSpent_release harena hunhold hgiven]

theorem exists_release (hcounted : h.Counted) (hlive : h.isLive address = true) :
    ∃ now later, h.arenas.get? address.arena = some now ∧ later.Releases now address ∧
      (HeapOp.release address).run h =
        .ok ((h.setArena later).refCount address) (h.setArena later) ∧
      h.refCount address = (h.setArena later).refCount address + 1 := by
  obtain ⟨now, slot, harena, _, hat, hheld, hcount, hpos⟩ := hcounted.exists_slot_of_isLive hlive
  obtain ⟨inner, frame, outer, newer, older, hlatest⟩ := Arena.exists_latestHold hheld
  have hunhold := hlatest.unholdInnermost?
  have hgiven := Arena.giveBack?_eq (a := { now with
    frames := inner ++ { frame with held := newer ++ older } :: outer }) hat hpos
  exact ⟨now, _, harena, Arena.releases_lessOne hlatest hat hcount,
    hcounted.run_release harena hunhold hgiven, hcounted.refCount_release harena hunhold hgiven⟩

end Counted

/-- Retaining a live address adds a hold to the innermost frame and a count to the slot. -/
theorem run_retain {frame : Frame} {outer : List Frame} (harena : h.arenas.get? address.arena = some a)
    (hframes : a.frames = frame :: outer) (hslot : h.slot address = .ok slot) :
    let retained := h.setArena ({ a with frames := frame.hold address :: outer }.replaceSlot address slot.gain)
    (HeapOp.retain address).run h = .ok (retained.refCount address) retained := by
  simp only [HeapOp.retain, EStateM.run_bind, EStateM.run_get, harena, Arena.innermost?, hframes,
    List.head?_cons, Option.map_some, HeapOp.reference, HeapOp.run_reading, hslot, arena_of_get? harena,
    unchanged, Arena.holdIn?, ↓reduceIte, EStateM.run_modify, EStateM.run_pure]

/-- The hold that a retain adds is the latest there is, so a release gives back that one and leaves the heap of
    before. -/
theorem Counted.exists_retain_release (hcounted : h.Counted) (hlive : h.isLive address = true) :
    ∃ retained, (HeapOp.retain address).run h = .ok (h.refCount address + 1) retained ∧
      (HeapOp.release address).run retained = .ok (h.refCount address) h := by
  obtain ⟨now, slot, harena, hslot, hat, hheld, _, hpos⟩ := hcounted.exists_slot_of_isLive hlive
  have hid := (hcounted _ now harena).1
  obtain ⟨frame, outer, hframes⟩ : ∃ frame outer, now.frames = frame :: outer := by
    refine List.exists_cons_of_ne_nil fun hnone => ?_
    rw [Arena.held, hnone] at hheld
    cases hheld
  have hhold : Arena.holdIn? frame.id address now.frames = some (frame.hold address :: outer) := by
    rw [hframes, Arena.holdIn?, if_pos rfl]
  have hstep : Step (fun _ => False) h (h.setArena
      ({ now with frames := frame.hold address :: outer }.replaceSlot address slot.gain)) :=
    .refer harena hat (Slot.isLive_iff.2 hpos) hhold
  have hlater := hcounted.step hstep
  have hretain := run_retain harena hframes hslot
  obtain ⟨hunhold, hgiven⟩ := Arena.undo_hold hframes hat hpos
  generalize hretained : { now with frames := frame.hold address :: outer }.replaceSlot address slot.gain =
    retained at *
  have hretainedId : retained.id = address.arena := hretained ▸ hid
  have hfound : (h.setArena retained).arenas.get? address.arena = some retained := by
    rw [get?_setArena, if_pos hretainedId.symm]
  have hback : (h.setArena retained).setArena now = h := by
    rw [setArena_setArena (hretainedId.trans hid.symm), setArena_self hid harena]
  have hless := hlater.refCount_release hfound hunhold hgiven
  have hrelease := hlater.run_release hfound hunhold hgiven
  rw [hback] at hless hrelease
  exact ⟨_, hless ▸ hretain, hrelease⟩

end CapabilityArena.Heap
