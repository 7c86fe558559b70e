import CapabilityArena.Proofs.Arena.Bracket
import CapabilityArena.Proofs.Arena.Dropping

/-!
Giving back one hold. A release takes the latest hold of its address, in the innermost frame that has one, and
one count of the slot; so it undoes what a hold of the innermost frame has just done.
-/

namespace CapabilityArena.Arena

/-- Where the hold is that a release gives back: no frame inside has one, and the frame has no newer one. -/
structure LatestHold (address : Address) (frames inner : List Frame) (frame : Frame) (outer : List Frame)
    (newer older : List Address) : Prop where
  frames_eq : frames = inner ++ frame :: outer
  not_inside : ∀ inside ∈ inner, address ∉ inside.held
  held_eq : frame.held = newer ++ address :: older
  latest : address ∉ newer

variable {a : Arena} {address : Address} {slot : Slot} {frames inner outer : List Frame} {frame : Frame}
  {newer older : List Address}

theorem exists_latestHold (hheld : address ∈ frames.flatMap (·.held)) :
    ∃ inner frame outer newer older, LatestHold address frames inner frame outer newer older := by
  induction frames with
  | nil => cases hheld
  | cons first rest ih =>
    by_cases hfirst : address ∈ first.held
    · obtain ⟨newer, older, hsplit, hlatest⟩ := List.eq_append_cons_of_mem hfirst
      exact ⟨[], first, rest, newer, older, rfl, by simp, hsplit, hlatest⟩
    · rw [List.flatMap_cons, List.mem_append] at hheld
      obtain ⟨inner, frame, outer, newer, older, hframes, hinside, hsplit, hlatest⟩ :=
        ih (hheld.resolve_left hfirst)
      refine ⟨first :: inner, frame, outer, newer, older, ?_, ?_, hsplit, hlatest⟩
      · rw [hframes, List.cons_append]
      · exact List.forall_mem_cons.2 ⟨hfirst, hinside⟩

section ChangeFirst

variable {kind : Frame → Prop} [DecidablePred kind] {change : Frame → Frame} {changed : List Frame}

theorem changeFirst_split (hinner : ∀ inside ∈ inner, ¬ kind inside) (hkind : kind frame) :
    changeFirst kind change (inner ++ frame :: outer) = some (inner ++ change frame :: outer) := by
  induction inner with
  | nil => exact if_pos hkind
  | cons first inner ih =>
    obtain ⟨hfirst, hrest⟩ := List.forall_mem_cons.1 hinner
    rw [List.cons_append, changeFirst, if_neg hfirst, ih hrest]
    rfl

/-- A frame is found by its scope, if no frame inside has the same. -/
theorem find?_split (hinner : ∀ inside ∈ inner, inside.id ≠ frame.id) :
    (inner ++ frame :: outer).find? (·.id = frame.id) = some frame := by
  have hskip : inner.find? (·.id = frame.id) = none := by simpa using hinner
  rw [List.find?_append, hskip, Option.none_or, List.find?_cons_of_pos (by simp)]

/-- Exchanging the innermost frame of a kind leaves a frame as it is, unless this is the one: it is of that
    kind, and no frame inside is. -/
theorem find?_changeFirst (hchanged : changeFirst kind change (inner ++ frame :: outer) = some changed)
    (hid : ∀ frame, (change frame).id = frame.id) (hinner : ∀ inside ∈ inner, inside.id ≠ frame.id) :
    changed.find? (·.id = frame.id) = some frame ∨
      (kind frame ∧ (∀ inside ∈ inner, ¬ kind inside) ∧
        changed.find? (·.id = frame.id) = some (change frame)) := by
  induction inner generalizing changed with
  | nil =>
    rw [List.nil_append, changeFirst] at hchanged
    by_cases hkind : kind frame
    · rw [if_pos hkind] at hchanged
      cases hchanged
      exact .inr ⟨hkind, by simp, List.find?_cons_of_pos (by simp [hid])⟩
    · rw [if_neg hkind] at hchanged
      obtain ⟨rest, _, rfl⟩ := Option.map_eq_some_iff.1 hchanged
      exact .inl (List.find?_cons_of_pos (by simp))
  | cons first inner ih =>
    obtain ⟨hfirst, hrest⟩ := List.forall_mem_cons.1 hinner
    rw [List.cons_append, changeFirst] at hchanged
    by_cases hkind : kind first
    · rw [if_pos hkind] at hchanged
      cases hchanged
      rw [List.find?_cons_of_neg (by simpa [hid] using hfirst)]
      exact .inl (find?_split hrest)
    · rw [if_neg hkind] at hchanged
      obtain ⟨later, hlater, rfl⟩ := Option.map_eq_some_iff.1 hchanged
      rw [List.find?_cons_of_neg (by simpa using hfirst)]
      rcases ih hlater hrest with hsame | ⟨hframe, hinside, hfound⟩
      · exact .inl hsame
      · exact .inr ⟨hframe, List.forall_mem_cons.2 ⟨hkind, hinside⟩, hfound⟩

end ChangeFirst

theorem LatestHold.unholdInnermost? (hlatest : LatestHold address frames inner frame outer newer older) :
    unholdInnermost? address frames = some (inner ++ { frame with held := newer ++ older } :: outer) := by
  have hmem : address ∈ frame.held := by
    rw [hlatest.held_eq]
    exact List.mem_append_right _ List.mem_cons_self
  rw [unholdInnermost?_eq, hlatest.frames_eq, changeFirst_split hlatest.not_inside hmem, hlatest.held_eq,
    List.erase_append_right _ hlatest.latest, List.erase_cons_head]

/-- The arena without one count of a slot, which goes when that was its last. -/
def lessOne (a : Arena) (address : Address) (slot : Slot) : Arena :=
  { a.replaceSlot address (slot.less 1) with
    live := if slot.count = 1 then a.live.remove address.offset else a.live }

theorem held_lessOne (a : Arena) (address : Address) (slot : Slot) :
    (a.lessOne address slot).held = a.held := rfl

theorem slot?_lessOne (hslot : a.slot? address = some slot) (query : Address) :
    (a.lessOne address slot).slot? query =
      if query.offset = address.offset then some (slot.less 1) else a.slot? query :=
  slot?_replaceSlot hslot (slot.less 1) query

theorem contains_lessOne (a : Arena) (address : Address) (slot : Slot) (offset : UInt32) :
    (a.lessOne address slot).live.contains offset = true ↔
      a.live.contains offset = true ∧ (offset = address.offset → slot.count ≠ 1) := by
  rw [lessOne]
  by_cases hlast : slot.count = 1
  · rw [if_pos hlast, KeySet.contains_remove]
    simp [hlast, and_comm]
  · rw [if_neg hlast]
    simp [hlast]

theorem giveBack?_eq (hslot : a.slot? address = some slot) (hpos : 1 ≤ slot.count) :
    a.giveBack? address = some (a.lessOne address slot, decide (slot.count = 1)) := by
  obtain ⟨count, content⟩ := slot
  match count with
  | 0 => cases hpos
  | 1 => simp [giveBack?, hslot, Slot.lose?, Slot.isLive, lessOne, Slot.less]
  | count + 2 => simp [giveBack?, hslot, Slot.lose?, Slot.isLive, lessOne, Slot.less, replaceSlot]

/-- A count that has just been taken of a live slot can be given back, and that leaves the arena as it was. -/
theorem giveBack?_gain (hslot : a.slot? address = some slot) (hpos : 1 ≤ slot.count) :
    (a.replaceSlot address slot.gain).giveBack? address = some (a, false) := by
  have hgained : (a.replaceSlot address slot.gain).slot? address = some slot.gain := by
    rw [slot?_replaceSlot hslot, if_pos rfl]
  have hmore : ¬ slot.gain.count ≤ 1 := by
    simp only [Slot.gain]
    omega
  have hless : slot.gain.less 1 = slot := by
    rw [Slot.less, if_neg hmore]
    rfl
  have hlast : slot.gain.count ≠ 1 := by omega
  rw [giveBack?_eq hgained (by omega), lessOne, hless, replaceSlot_replaceSlot, replaceSlot_self hslot,
    if_neg hlast, decide_eq_false hlast]
  rfl

/-- The latest hold of all is the one that the innermost frame has just taken, so giving back undoes it. -/
theorem undo_hold (hframes : a.frames = frame :: outer) (hslot : a.slot? address = some slot)
    (hpos : 1 ≤ slot.count) :
    let held := { a with frames := frame.hold address :: outer }.replaceSlot address slot.gain
    unholdInnermost? address held.frames = some a.frames ∧
      { held with frames := a.frames }.giveBack? address = some (a, false) := by
  intro held
  have hlatest : LatestHold address held.frames [] (frame.hold address) outer [] frame.held :=
    ⟨rfl, by simp, rfl, by simp⟩
  refine ⟨?_, giveBack?_gain hslot hpos⟩
  rw [hlatest.unholdInnermost?, hframes]
  rfl

/-- An arena after a release: the latest hold of the address is gone from the innermost frame that had one, and
    one count from the slot, which becomes a tombstone if nothing holds it any more. All other holds, frames
    and slots are what they were. -/
structure Releases (later now : Arena) (address : Address) : Prop where
  id_eq : later.id = now.id
  frames : ∃ inner frame outer newer older, LatestHold address now.frames inner frame outer newer older ∧
    later.frames = inner ++ { frame with held := newer ++ older } :: outer
  slot : ∃ slot, now.slot? address = some slot ∧ later.slot? address = some (slot.less 1)
  others : ∀ other, other.offset ≠ address.offset → later.slot? other = now.slot? other
  tombstone_iff : later.slot? address = some ⟨0, none⟩ ↔ address ∉ later.held
  live_iff : ∀ offset, later.live.contains offset = true ↔
    now.live.contains offset = true ∧ (offset = address.offset → address ∈ later.held)

theorem releases_lessOne (hlatest : LatestHold address a.frames inner frame outer newer older)
    (hslot : a.slot? address = some slot) (hcount : slot.count = a.held.count address) :
    ({ a with frames := inner ++ { frame with held := newer ++ older } :: outer }.lessOne address
      slot).Releases a address := by
  generalize hleft : { a with frames := inner ++ { frame with held := newer ++ older } :: outer } = left
  have hslotLeft : left.slot? address = some slot := hleft ▸ hslot
  have hpositive : slot.count = left.held.count address + 1 := by
    rw [hcount, held, (perm_of_unholdInnermost? hlatest.unholdInnermost?).count_eq, List.count_cons_self,
      ← hleft, held]
  have hheld : address ∈ left.held ↔ slot.count ≠ 1 := by
    rw [← List.count_pos_iff]
    omega
  constructor
  case id_eq => exact hleft ▸ rfl
  case frames => exact ⟨inner, frame, outer, newer, older, hlatest, hleft ▸ rfl⟩
  case slot => exact ⟨slot, hslot, by rw [slot?_lessOne hslotLeft, if_pos rfl]⟩
  case others =>
    intro other hother
    rw [slot?_lessOne hslotLeft, if_neg hother, ← hleft]
    rfl
  case tombstone_iff =>
    rw [slot?_lessOne hslotLeft, if_pos rfl, held_lessOne, hheld, not_not, Slot.less]
    by_cases hlast : slot.count ≤ 1
    · simp only [hlast, ↓reduceIte, true_iff]
      omega
    · simp only [hlast, ↓reduceIte, Option.some.injEq, Slot.mk.injEq]
      omega
  case live_iff =>
    intro offset
    rw [contains_lessOne, held_lessOne, hheld, ← hleft]

end CapabilityArena.Arena
