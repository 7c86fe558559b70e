import CapabilityArena.Proofs.Arena.Counting

/-!
Scope brackets inside one arena. The frames that were there before a scope was entered lie under those of
the scope (`Bracketed`), and the slots that were there before stay filled as they were or become empty
(`Covers`). With the same frames as before, the slots are the same again, because counts are holds; what has
been added are tombstones.
-/

namespace CapabilityArena

namespace Arena

/-- A slot is live when a frame holds it. -/
theorem CountedBy.live_iff_mem {a : Arena} {holds : List Address} (hcounted : a.CountedBy holds)
    (offset : UInt32) : a.live.contains offset = true ↔ a.addressAt offset ∈ holds := by
  rw [hcounted.live_iff]
  constructor
  · rintro ⟨slot, hslot, hpos⟩
    rw [hcounted.count_eq offset slot hslot] at hpos
    exact List.count_pos_iff.1 hpos
  · intro hmem
    obtain ⟨slot, hslot, hcount⟩ := hcounted.exists_slot hmem
    rw [slot?, addressAt, Address.offset_ofParts] at hslot
    exact ⟨slot, hslot, hcount ▸ List.count_pos_iff.2 hmem⟩

/-- Exchanges the innermost frame of some kind. -/
def changeFirst (kind : Frame → Prop) [DecidablePred kind] (change : Frame → Frame) :
    List Frame → Option (List Frame)
  | [] => none
  | frame :: outer =>
    if kind frame then some (change frame :: outer)
    else (changeFirst kind change outer).map (frame :: ·)

theorem holdIn?_eq (scope : ScopeId) (address : Address) (frames : List Frame) :
    holdIn? scope address frames = changeFirst (·.id = scope) (·.hold address) frames := by
  induction frames with
  | nil => rfl
  | cons frame outer ih => rw [holdIn?, changeFirst, ih]

theorem unholdInnermost?_eq (address : Address) (frames : List Frame) :
    unholdInnermost? address frames =
      changeFirst (address ∈ ·.held) (fun frame => { frame with held := frame.held.erase address })
        frames := by
  induction frames with
  | nil => rfl
  | cons frame outer ih =>
    rw [unholdInnermost?, changeFirst, ih]
    by_cases hmem : address ∈ frame.held <;> simp only [Frame.unhold?, hmem, ↓reduceIte]

theorem frames_of_giveBack? {a given : Arena} {address : Address} {last : Bool}
    (hgiven : a.giveBack? address = some (given, last)) : given.frames = a.frames := by
  obtain ⟨slot, _, hrest⟩ := Option.bind_eq_some_iff.1 hgiven
  obtain ⟨less, _, hrest⟩ := Option.bind_eq_some_iff.1 hrest
  split at hrest <;> cases hrest <;> rfl

/-- The frames opened since: those over the frames that were there before. -/
def openedSince (now before : Arena) : List Frame :=
  now.frames.take (now.frames.length - before.frames.length)

/-- The frame of a scope stands right on others, with the frames of the scopes inside over it. -/
def Bracketed (scope : ScopeId) (outer frames : List Frame) : Prop :=
  ∃ inside own, frames = inside ++ own :: outer ∧ own.id = scope

namespace Bracketed

variable {scope : ScopeId} {outer frames rest : List Frame} {frame : Frame}

theorem enter (hbracketed : Bracketed scope outer frames) (frame : Frame) :
    Bracketed scope outer (frame :: frames) := by
  obtain ⟨inside, own, rfl, hown⟩ := hbracketed
  exact ⟨frame :: inside, own, rfl, hown⟩

theorem exit (hbracketed : Bracketed scope outer (frame :: rest))
    (hinside : outer.length + 1 < (frame :: rest).length) : Bracketed scope outer rest := by
  obtain ⟨inside, own, hframes, hown⟩ := hbracketed
  cases inside with
  | nil =>
    rw [hframes] at hinside
    exact absurd hinside (Nat.lt_irrefl _)
  | cons first inside =>
    cases hframes
    exact ⟨inside, own, rfl, hown⟩

theorem take_eq {inside : List Frame} {own : Frame} (hframes : frames = inside ++ own :: outer) :
    frames.take (frames.length - outer.length) = inside ++ [own] := by
  have hsplit : frames = (inside ++ [own]) ++ outer := by rw [hframes, List.append_cons]
  rw [hsplit, List.length_append, Nat.add_sub_cancel, List.take_left]

/-- Exchanging the innermost frame of a kind leaves the frames outside alone, if there is one inside. -/
theorem changeFirst {kind : Frame → Prop} [DecidablePred kind] {change : Frame → Frame}
    {changed : List Frame} (hbracketed : Bracketed scope outer frames)
    (hchanged : changeFirst kind change frames = some changed)
    (hinside : ∃ frame ∈ frames.take (frames.length - outer.length), kind frame)
    (hid : ∀ frame, (change frame).id = frame.id) : Bracketed scope outer changed := by
  obtain ⟨inside, own, hframes, hown⟩ := hbracketed
  rw [take_eq hframes] at hinside
  subst hframes
  induction inside generalizing changed with
  | nil =>
    obtain ⟨frame, hmem, hkind⟩ := hinside
    rw [List.nil_append, List.mem_singleton] at hmem
    subst hmem
    rw [List.nil_append, Arena.changeFirst, if_pos hkind] at hchanged
    cases hchanged
    exact ⟨[], change frame, rfl, (hid frame).trans hown⟩
  | cons first inside ih =>
    rw [List.cons_append, Arena.changeFirst] at hchanged
    by_cases hfirst : kind first
    · rw [if_pos hfirst] at hchanged
      cases hchanged
      exact ⟨change first :: inside, own, rfl, hown⟩
    · rw [if_neg hfirst] at hchanged
      obtain ⟨later, hlater, rfl⟩ := Option.map_eq_some_iff.1 hchanged
      obtain ⟨frame, hmem, hkind⟩ := hinside
      have hmem : frame ∈ inside ++ [own] :=
        (List.mem_cons.1 hmem).resolve_left fun hsame => hfirst (hsame ▸ hkind)
      exact (ih ⟨frame, hmem, hkind⟩ hlater).enter first

/-- The innermost frame is one of those inside. -/
theorem head_inside (hbracketed : Bracketed scope outer (frame :: rest)) :
    frame ∈ (frame :: rest).take ((frame :: rest).length - outer.length) := by
  obtain ⟨inside, own, hframes, _⟩ := hbracketed
  rw [take_eq hframes]
  cases inside <;> cases hframes <;> simp

theorem hold (hbracketed : Bracketed scope outer (frame :: rest)) (address : Address) :
    Bracketed scope outer (frame.hold address :: rest) := by
  have hchanged : Arena.changeFirst (fun _ => True) (·.hold address) (frame :: rest) =
      some (frame.hold address :: rest) := if_pos trivial
  exact hbracketed.changeFirst hchanged ⟨frame, hbracketed.head_inside, trivial⟩ fun _ => rfl

end Bracketed

/-- An arena later on: the slots of before are still there, and none of them has got other content. -/
structure Covers (after before : Arena) : Prop where
  size_le : before.slots.size ≤ after.slots.size
  content_of : ∀ address content, address.offset.toNat < before.slots.size →
    after.content? address = some content → before.content? address = some content

namespace Covers

variable {later now after before : Arena} {storable : Content → Prop}

theorem continues (hcovers : now.Covers before) (hcontinues : later.Continues storable now) :
    later.Covers before where
  size_le := Nat.le_trans hcovers.size_le hcontinues.size_le
  content_of := by
    intro address content hold hcontent
    rcases hcontinues.content_of address content hcontent with hsame | ⟨hnew, _⟩
    · exact hcovers.content_of address content hold hsame
    · exact absurd (hnew ▸ hold) (Nat.not_lt.2 hcovers.size_le)

/-- What is in a new slot may be exchanged. -/
theorem replaceSlot {address : Address} {found : Slot} (hcovers : now.Covers before)
    (hslot : now.slot? address = some found) (hnew : before.slots.size ≤ address.offset.toNat)
    (slot : Slot) : (now.replaceSlot address slot).Covers before where
  size_le := by simpa only [Arena.replaceSlot, Array.size_setIfInBounds] using hcovers.size_le
  content_of := by
    intro query content hold hcontent
    have hother : query.offset ≠ address.offset := by
      intro hoffset
      rw [hoffset] at hold
      omega
    rw [content?, slot?_replaceSlot hslot, if_neg hother] at hcontent
    exact hcovers.content_of query content hold hcontent

/-- Under the same holds, a slot that was there before is the same as before. -/
theorem slot_eq (hcovers : after.Covers before) (hafter : after.CountedBy after.held)
    (hbefore : before.CountedBy after.held) (hid : after.id = before.id) {offset : UInt32}
    (hold : offset.toNat < before.slots.size) :
    after.slots[offset.toNat]? = before.slots[offset.toNat]? := by
  have hnow : offset.toNat < after.slots.size := Nat.lt_of_lt_of_le hold hcovers.size_le
  obtain ⟨⟨count, content⟩, hslot⟩ : ∃ slot, after.slots[offset.toNat]? = some slot :=
    ⟨_, Array.getElem?_eq_getElem hnow⟩
  obtain ⟨⟨oldCount, oldContent⟩, hslotOld⟩ : ∃ slot, before.slots[offset.toNat]? = some slot :=
    ⟨_, Array.getElem?_eq_getElem hold⟩
  have hcount : count = oldCount := by
    have hheld := hafter.count_eq offset _ hslot
    have hheldOld := hbefore.count_eq offset _ hslotOld
    rw [addressAt, hid] at hheld
    exact hheld.trans hheldOld.symm
  have hfilled := hafter.content_iff offset _ hslot
  have hfilledOld := hbefore.content_iff offset _ hslotOld
  have hcontent : content = oldContent := by
    cases content with
    | none =>
      cases oldContent with
      | none => rfl
      | some oldContent => simp [hcount] at hfilled hfilledOld; omega
    | some stored =>
      have hat : after.content? (before.addressAt offset) = some stored := by
        rw [content?, slot?, addressAt, Address.offset_ofParts, hslot]
        rfl
      have hatOld := hcovers.content_of _ _ (by rwa [addressAt, Address.offset_ofParts]) hat
      rw [content?, slot?, addressAt, Address.offset_ofParts, hslotOld] at hatOld
      exact hatOld.symm
  rw [hslot, hslotOld, hcount, hcontent]

/-- Under the holds of before, a slot that was not there before is a tombstone. -/
theorem tombstone_of_new (hafter : after.CountedBy after.held) (hbefore : before.CountedBy after.held)
    {offset : UInt32} (hnew : before.slots.size ≤ offset.toNat)
    (hinside : offset.toNat < after.slots.size) :
    after.slots[offset.toNat]? = some ⟨0, none⟩ := by
  obtain ⟨⟨count, content⟩, hslot⟩ : ∃ slot, after.slots[offset.toNat]? = some slot :=
    ⟨_, Array.getElem?_eq_getElem hinside⟩
  have hcount : count = 0 := by
    refine (hafter.count_eq offset _ hslot).trans (List.count_eq_zero.2 fun hmem => ?_)
    have hold := (hbefore.inside _ hmem).2
    rw [addressAt, Address.offset_ofParts] at hold
    omega
  have hfilled := hafter.content_iff offset _ hslot
  cases content with
  | none => rw [hslot, hcount]
  | some stored => simp [hcount] at hfilled

/-- With the frames of before, everything is as before, but for tombstones. -/
theorem eq_of_frames_eq (hcovers : after.Covers before) (hafter : after.CountedBy after.held)
    (hbefore : before.CountedBy before.held) (hid : after.id = before.id)
    (hframes : after.frames = before.frames) :
    after = { before with
      slots := before.slots ++ Array.replicate (after.slots.size - before.slots.size) ⟨0, none⟩ } := by
  have hheld : before.held = after.held := by rw [held, held, hframes]
  rw [hheld] at hbefore
  have hslots : after.slots =
      before.slots ++ Array.replicate (after.slots.size - before.slots.size) ⟨0, none⟩ := by
    have hle := hcovers.size_le
    have hfits := hafter.size_le
    refine Array.ext (by rw [Array.size_append, Array.size_replicate]; omega) fun i hi hi' => ?_
    have hoffset : (UInt32.ofNat i).toNat = i :=
      UInt32.toNat_ofNat_of_lt' (Nat.lt_of_lt_of_le hi hfits)
    refine Option.some.inj ?_
    rw [← Array.getElem?_eq_getElem, ← Array.getElem?_eq_getElem]
    by_cases hold : i < before.slots.size
    · rw [Array.getElem?_append_left hold, ← hoffset]
      exact hcovers.slot_eq hafter hbefore hid (by rwa [hoffset])
    · rw [Array.getElem?_append_right (by omega), Array.getElem?_replicate, if_pos (by omega), ← hoffset]
      exact tombstone_of_new hafter hbefore (by omega) (by omega)
  have hlive : after.live = before.live := by
    refine KeySet.ext_contains fun offset => ?_
    rw [hafter.live_iff_mem, hbefore.live_iff_mem, addressAt, addressAt, hid]
  obtain ⟨id, slots, live, frames⟩ := after
  obtain ⟨oldId, oldSlots, oldLive, oldFrames⟩ := before
  cases hid
  cases hlive
  cases hframes
  exact congrArg (fun slots => Arena.mk id slots live frames) hslots

end Covers

end Arena

end CapabilityArena
