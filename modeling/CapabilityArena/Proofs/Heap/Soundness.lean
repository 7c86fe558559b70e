import CapabilityArena.Proofs.Heap.Allocation

/-!
What holds of every heap that calls can reach. The frames of an arena hold all its counts, so an arena that
has lost its last frame has nothing live left, and is torn down at once: the arenas that are present have a
frame open, and every arena that was opened is either present or torn down, for good.
-/

namespace CapabilityArena

/-- Without frames nothing is held, and what is not held is not live. -/
theorem Arena.CountedBy.isSpent_iff {a : Arena} (hcounted : a.CountedBy a.held) :
    a.isSpent = true ↔ a.frames = [] := by
  rw [isSpent, Bool.and_eq_true, List.isEmpty_iff]
  refine ⟨And.left, fun hframes => ⟨hframes, Dictionary.isEmpty_iff.2 fun offset => ?_⟩⟩
  cases hlive : a.live.contains offset with
  | false => rfl
  | true =>
    obtain ⟨slot, hslot, hpos⟩ := (hcounted.live_iff offset).1 hlive
    have hcount := hcounted.count_eq offset slot hslot
    rw [held, hframes, List.flatMap_nil, List.count_nil] at hcount
    omega

namespace Heap

/-- The heap after the last frame of an arena is gone. -/
def retire (h : Heap) (id : ArenaId) : Heap :=
  { h with arenas := h.arenas.erase id, tornDown := h.tornDown.add id }

variable {h h' : Heap} {storable : Content → Prop}

/-- Tearing down asks for nothing but the last frame. -/
theorem withoutSpent_setArena {a : Arena} (ha : a.CountedBy a.held) :
    (h.setArena a).withoutSpent a.id = if a.frames = [] then h.retire a.id else h.setArena a := by
  have hfound : (h.setArena a).arenas.get? a.id = some a := by rw [get?_setArena, if_pos rfl]
  rw [withoutSpent, hfound, Option.any_some]
  by_cases hframes : a.frames = []
  · rw [if_pos (ha.isSpent_iff.2 hframes), if_pos hframes]
    simp only [retire, setArena, Dictionary.erase_insert]
  · rw [if_neg (fun hspent => hframes (ha.isSpent_iff.1 hspent)), if_neg hframes]

/-- The end of an exit: the arena is torn down if its last frame is gone, and kept otherwise. -/
theorem Counted.withoutSpent_exit (hcounted : h.Counted) {id : ArenaId} {a : Arena} {frame : Frame}
    {outer : List Frame} (harena : h.arenas.get? id = some a) (hframes : a.frames = frame :: outer) :
    (h.setArena (Arena.giveBackAll frame.held { a with frames := outer }).1).withoutSpent id =
      if outer = [] then h.retire id
      else h.setArena (Arena.giveBackAll frame.held { a with frames := outer }).1 := by
  obtain ⟨hid, hgivenFrames, hheld⟩ := hcounted.giveBackAll harena hframes
  have hgone := withoutSpent_setArena (h := h) hheld
  rwa [hid, hgivenFrames] at hgone

/-- A release leaves a frame, so it tears no arena down, even if its last slot went. -/
theorem Counted.withoutSpent_release (hcounted : h.Counted) {address : Address} {a given : Arena}
    {frames : List Frame} {last : Bool} (harena : h.arenas.get? address.arena = some a)
    (hunhold : Arena.unholdInnermost? address a.frames = some frames)
    (hgiven : { a with frames := frames }.giveBack? address = some (given, last)) :
    (h.setArena given).withoutSpent address.arena = h.setArena given := by
  obtain ⟨hid, hopen, hheld⟩ := hcounted.giveBack_release harena hunhold hgiven
  have hkept := withoutSpent_setArena (h := h) hheld
  rwa [if_neg hopen, hid] at hkept

/-- What can become of the arenas in one step: one is opened, one is changed and keeps a frame, or one
    loses its last frame and is torn down. -/
inductive Outcome (h : Heap) : Heap → Prop where
  | opened (hleft : h.nextArena ≠ 0xffffffff) :
    Outcome h { h.setArena (.opened ⟨h.nextArena⟩ ⟨h.nextScope⟩) with
      nextArena := h.nextArena + 1
      nextScope := h.nextScope + 1 }
  | changed {a : Arena} (after : Arena) (nextScope : Nat) (harena : h.arenas.get? after.id = some a)
    (hframes : after.frames ≠ []) : Outcome h { h.setArena after with nextScope := nextScope }
  | retired {id : ArenaId} {a : Arena} (harena : h.arenas.get? id = some a) : Outcome h (h.retire id)

theorem Step.outcome (hstep : Step storable h h') (hcounted : h.Counted) : h.Outcome h' := by
  cases hstep with
  | create hleft => exact .opened hleft
  | @enter id a harena =>
    obtain ⟨rfl, _⟩ := hcounted id a harena
    exact .changed { a with frames := ⟨⟨h.nextScope⟩, []⟩ :: a.frames } (h.nextScope + 1) harena
      (List.cons_ne_nil _ _)
  | @exit id a frame outer harena hframes =>
    obtain ⟨hid, hgivenFrames, _⟩ := hcounted.giveBackAll harena hframes
    rw [hcounted.withoutSpent_exit harena hframes]
    by_cases hlast : outer = []
    · rw [if_pos hlast]
      exact .retired harena
    · rw [if_neg hlast]
      exact .changed _ h.nextScope (by rw [hid]; exact harena) (by rw [hgivenFrames]; exact hlast)
  | @allocate id a frame outer address content harena _ _ _ _ =>
    obtain ⟨rfl, _⟩ := hcounted id a harena
    exact .changed { a with
      slots := a.slots.push (.holding content)
      live := a.live.add address.offset
      frames := frame.hold address :: outer } h.nextScope harena (List.cons_ne_nil _ _)
  | @refer address scope a slot frames harena _ _ hhold =>
    have hid := (hcounted _ a harena).1
    exact .changed ({ a with frames := frames }.replaceSlot address slot.gain) h.nextScope
      (by rw [← hid] at harena; exact harena) (Arena.ne_nil_of_holdIn? hhold)
  | @release address a given frames last harena hunhold hgiven =>
    obtain ⟨hid, hopen, _⟩ := hcounted.giveBack_release harena hunhold hgiven
    rw [hcounted.withoutSpent_release harena hunhold hgiven, ite_self]
    exact .changed given h.nextScope (by rw [hid]; exact harena) hopen

/-- What holds of every heap that calls can reach. -/
structure Sound (h : Heap) : Prop where
  counted : h.Counted
  numbered : h.Numbered
  framed : ∀ id a, h.arenas.get? id = some a → a.frames ≠ []
  /-- An arena that was torn down is gone, and its number has been given out. -/
  retired : ∀ id, h.isTornDown id = true → h.arenas.get? id = none ∧ id.number < h.nextArena
  /-- Every arena that was opened is present or torn down. -/
  conserved : h.arenas.size + h.tornDown.size + 1 = h.nextArena.toNat

theorem sound_empty (maxSlots : Nat) : (empty maxSlots).Sound where
  counted := counted_empty maxSlots
  numbered := by
    intro id a harena
    simp [empty] at harena
  framed := by
    intro id a harena
    simp [empty] at harena
  retired := by
    intro id hgone
    simp [empty, isTornDown, Dictionary.contains] at hgone
  conserved := rfl

namespace Sound

theorem framed_setArena (hsound : h.Sound) {a : Arena} (hframes : a.frames ≠ []) {id : ArenaId}
    {found : Arena} (hfound : (h.setArena a).arenas.get? id = some found) : found.frames ≠ [] := by
  rw [get?_setArena] at hfound
  by_cases hid : id = a.id
  · rw [if_pos hid] at hfound
    cases hfound
    exact hframes
  · rw [if_neg hid] at hfound
    exact hsound.framed id found hfound

/-- The number of a new arena is not in use. -/
theorem get?_nextArena (hsound : h.Sound) : h.arenas.get? ⟨h.nextArena⟩ = none := by
  cases harena : h.arenas.get? ⟨h.nextArena⟩ with
  | none => rfl
  | some a => exact absurd (hsound.numbered _ a harena) (UInt32.lt_irrefl _)

theorem framed_outcome (hsound : h.Sound) (houtcome : h.Outcome h') {id : ArenaId} {found : Arena}
    (hfound : h'.arenas.get? id = some found) : found.frames ≠ [] := by
  cases houtcome with
  | opened hleft => exact hsound.framed_setArena (List.cons_ne_nil _ _) hfound
  | changed after nextScope harena hframes => exact hsound.framed_setArena hframes hfound
  | @retired gone a harena =>
    by_cases hid : id = gone
    · simp [retire, hid] at hfound
    · rw [retire, Dictionary.get?_erase_of_ne _ hid] at hfound
      exact hsound.framed id found hfound

theorem retired_outcome (hsound : h.Sound) (houtcome : h.Outcome h') {id : ArenaId}
    (hgone : h'.isTornDown id = true) : h'.arenas.get? id = none ∧ id.number < h'.nextArena := by
  cases houtcome with
  | opened hleft =>
    obtain ⟨hnone, hnumber⟩ := hsound.retired id hgone
    have hid : id ≠ ⟨h.nextArena⟩ := by
      rintro rfl
      exact UInt32.lt_irrefl _ hnumber
    refine ⟨?_, UInt32.lt_of_lt_of_le hnumber (UInt32.le_of_lt (Step.nextArena_lt hleft))⟩
    exact (get?_setArena h _ id).trans ((if_neg hid).trans hnone)
  | @changed a after nextScope harena hframes =>
    obtain ⟨hnone, hnumber⟩ := hsound.retired id hgone
    have hid : id ≠ after.id := by
      rintro rfl
      cases hnone.symm.trans harena
    exact ⟨(get?_setArena h after id).trans ((if_neg hid).trans hnone), hnumber⟩
  | @retired gone a harena =>
    rcases (KeySet.contains_add ..).1 hgone with rfl | hold
    · exact ⟨Dictionary.get?_erase_self .., hsound.numbered id a harena⟩
    · obtain ⟨hnone, hnumber⟩ := hsound.retired id hold
      refine ⟨?_, hnumber⟩
      by_cases hid : id = gone
      · simp [retire, hid]
      · rw [retire, Dictionary.get?_erase_of_ne _ hid, hnone]

theorem conserved_outcome (hsound : h.Sound) (houtcome : h.Outcome h') :
    h'.arenas.size + h'.tornDown.size + 1 = h'.nextArena.toNat := by
  have hconserved := hsound.conserved
  cases houtcome with
  | opened hleft =>
    have hsize : (h.arenas.insert ⟨h.nextArena⟩ (.opened ⟨h.nextArena⟩ ⟨h.nextScope⟩)).size =
        h.arenas.size + 1 := by
      rw [Dictionary.size_insert, Dictionary.contains, hsound.get?_nextArena]
      rfl
    have hnext := Step.toNat_nextArena hleft
    change (h.arenas.insert ⟨h.nextArena⟩ _).size + h.tornDown.size + 1 = (h.nextArena + 1).toNat
    omega
  | @changed a after nextScope harena hframes =>
    have hsize : (h.arenas.insert after.id after).size = h.arenas.size := by
      rw [Dictionary.size_insert, Dictionary.contains, harena]
      rfl
    change (h.arenas.insert after.id after).size + h.tornDown.size + 1 = h.nextArena.toNat
    omega
  | @retired gone a harena =>
    have hpresent : h.arenas.contains gone = true := by rw [Dictionary.contains, harena]; rfl
    have hfresh : h.tornDown.contains gone = false := by
      cases hgone : h.tornDown.contains gone with
      | false => rfl
      | true => cases (hsound.retired gone hgone).1.symm.trans harena
    have hsome : 0 < h.arenas.size := List.length_pos_of_mem (Dictionary.mem_entries_iff.2 harena)
    have harenas : (h.arenas.erase gone).size = h.arenas.size - 1 := by
      rw [Dictionary.size_erase, if_pos hpresent]
    have htornDown : (h.tornDown.add gone).size = h.tornDown.size + 1 := by
      rw [KeySet.add, Dictionary.size_insert, hfresh]
      rfl
    change (h.arenas.erase gone).size + (h.tornDown.add gone).size + 1 = h.nextArena.toNat
    omega

theorem outcome (hsound : h.Sound) (houtcome : h.Outcome h') (hcounted : h'.Counted)
    (hnumbered : h'.Numbered) : h'.Sound where
  counted := hcounted
  numbered := hnumbered
  framed := fun _ _ => hsound.framed_outcome houtcome
  retired := fun _ => hsound.retired_outcome houtcome
  conserved := hsound.conserved_outcome houtcome

theorem step (hsound : h.Sound) (hstep : Step storable h h') : h'.Sound :=
  hsound.outcome (hstep.outcome hsound.counted) (hsound.counted.step hstep)
    (hstep.numbered hsound.counted hsound.numbered)

theorem putEntity (hsound : h.Sound) {address : Address} {content : Content}
    (hstored : h.content? address = some content) (e : Entity) : (h.putEntity address e).Sound := by
  refine hsound.outcome ?_ (hsound.counted.putEntity hstored e)
    (numbered_putEntity hsound.counted hstored e hsound.numbered)
  obtain ⟨a, slot, harena, hslot, _⟩ := exists_slot_of_content hstored
  have hid := (hsound.counted _ a harena).1
  have hframes := hsound.framed _ a harena
  rw [putEntity_eq harena hslot]
  rw [← hid] at harena
  exact .changed (a.replaceSlot address { slot with content := some (.entity e) }) h.nextScope harena
    hframes

theorem run (hsound : h.Sound) (calls : List HeapCall) : (h.run calls).Sound :=
  run_induction (fun _ _ hsound hstep => hsound.step hstep) hsound calls

end Sound

end Heap

end CapabilityArena
