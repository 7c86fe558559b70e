import CapabilityArena.Proofs.Arena.Counting
import CapabilityArena.Proofs.Heap.Run

/-!
Scope counting over runs. In every heap that calls can reach, counts are holds, and so no hold is ever given
back to a slot that is missing or has no count left.
-/

namespace CapabilityArena.Heap

/-- Every arena is stored under its own number and is counted by the holds of its own frames. -/
def Counted (h : Heap) : Prop :=
  ∀ id a, h.arenas.get? id = some a → a.id = id ∧ a.CountedBy a.held

theorem counted_empty (maxSlots : Nat) : (empty maxSlots).Counted := by
  intro id a harena
  simp [empty] at harena

theorem get?_setArena (h : Heap) (a : Arena) (id : ArenaId) :
    (h.setArena a).arenas.get? id = if id = a.id then some a else h.arenas.get? id := by
  by_cases hid : id = a.id
  · simp [setArena, hid]
  · simp [setArena, hid, Dictionary.get?_insert_of_ne]

namespace Counted

variable {h : Heap}

theorem setArena {a : Arena} (hcounted : h.Counted) (ha : a.CountedBy a.held) :
    (h.setArena a).Counted := by
  intro id found hfound
  rw [get?_setArena] at hfound
  by_cases hid : id = a.id
  · rw [if_pos hid] at hfound
    cases hfound
    exact ⟨hid.symm, ha⟩
  · rw [if_neg hid] at hfound
    exact hcounted id found hfound

theorem withoutSpent (hcounted : h.Counted) (spent : ArenaId) : (h.withoutSpent spent).Counted := by
  unfold Heap.withoutSpent
  split
  · intro id a harena
    by_cases hid : id = spent
    · simp [hid] at harena
    · exact hcounted id a (by simpa [Dictionary.get?_erase_of_ne _ hid] using harena)
  · exact hcounted

/-- Leaving the innermost scope of an arena leaves it counted by the frames that are left. -/
theorem giveBackAll (hcounted : h.Counted) {id : ArenaId} {a : Arena} {frame : Frame}
    {outer : List Frame} (harena : h.arenas.get? id = some a) (hframes : a.frames = frame :: outer) :
    let given := (Arena.giveBackAll frame.held { a with frames := outer }).1
    given.id = id ∧ given.frames = outer ∧ given.CountedBy given.held := by
  obtain ⟨rfl, ha⟩ := hcounted id a harena
  rw [Arena.held, hframes] at ha
  obtain ⟨hgiven, hid, hgivenFrames⟩ := (ha.withFrames outer).giveBackAll
  refine ⟨hid, hgivenFrames, ?_⟩
  rw [Arena.held, hgivenFrames]
  exact hgiven

/-- Giving back a hold takes no frame away. -/
theorem giveBack_release (hcounted : h.Counted) {address : Address} {a given : Arena}
    {frames : List Frame} {last : Bool} (harena : h.arenas.get? address.arena = some a)
    (hunhold : Arena.unholdInnermost? address a.frames = some frames)
    (hgiven : { a with frames := frames }.giveBack? address = some (given, last)) :
    given.id = address.arena ∧ given.frames ≠ [] ∧ given.CountedBy given.held := by
  obtain ⟨hid, ha⟩ := hcounted _ a harena
  have howed := (ha.perm (Arena.perm_of_unholdInnermost? hunhold)).withFrames frames
  obtain ⟨given', last', hgiven', hrest, hgivenId, hgivenFrames⟩ := howed.giveBack
  cases hgiven.symm.trans hgiven'
  refine ⟨hgivenId.trans hid, ?_, ?_⟩
  · rw [hgivenFrames]
    exact Arena.ne_nil_of_unholdInnermost? hunhold
  · rw [Arena.held, hgivenFrames]
    exact hrest

theorem step {h' : Heap} {storable : Content → Prop} (hcounted : h.Counted)
    (hstep : Step storable h h') : h'.Counted := by
  cases hstep with
  | create hleft => exact hcounted.setArena (Arena.countedBy_opened _ _)
  | enter harena => exact hcounted.setArena ((hcounted _ _ harena).2.withFrames _)
  | exit harena hframes =>
    exact (hcounted.setArena (hcounted.giveBackAll harena hframes).2.2).withoutSpent _
  | @allocate id a frame outer address content harena hframes _ hroom haddress =>
    obtain ⟨rfl, ha⟩ := hcounted id a harena
    rw [Arena.held, hframes] at ha
    exact hcounted.setArena ((ha.push hroom haddress).withFrames _)
  | @refer address scope a slot frames harena hslot hlive hhold =>
    obtain ⟨hid, ha⟩ := hcounted _ a harena
    have hgain := (ha.withFrames frames).gain hid.symm hslot hlive
    exact hcounted.setArena (hgain.perm (Arena.perm_of_holdIn? hhold).symm)
  | @release address a given frames last harena hunhold hgiven =>
    have hset := hcounted.setArena (hcounted.giveBack_release harena hunhold hgiven).2.2
    cases last with
    | false => exact hset
    | true => exact hset.withoutSpent address.arena

theorem run (hcounted : h.Counted) (calls : List HeapCall) : (h.run calls).Counted :=
  run_induction (fun _ _ => step) hcounted calls

theorem deref_iff (hcounted : h.Counted) (address : Address) :
    (∃ content, h.deref address = .ok content) ↔
      ∃ a slot, h.arenas.get? address.arena = some a ∧ a.slot? address = some slot ∧
        1 ≤ slot.count := by
  constructor
  · rintro ⟨content, hderef⟩
    cases hslot : h.slot address with
    | error failure =>
      rw [Heap.deref, hslot] at hderef
      cases hderef
    | ok slot =>
      obtain ⟨a, harena, hat, hlive⟩ := slot_eq_ok hslot
      exact ⟨a, slot, harena, hat, Slot.isLive_iff.1 hlive⟩
  · rintro ⟨a, slot, harena, hat, hpos⟩
    have hslot : h.slot address = .ok slot := by
      simp [Heap.slot, harena, hat, Slot.isLive_iff.2 hpos]
    have hcontent := ((hcounted _ a harena).2.content_iff _ slot hat).2 hpos
    obtain ⟨content, hcontent⟩ := Option.isSome_iff_exists.1 hcontent
    exact ⟨content, by simp [deref, hslot, hcontent, bind, Except.bind]⟩

end Counted

/-- Scope counting, for every run from an empty heap. The count of a slot is the number of times that the
    frames of its arena hold its address; a slot is in the live index, is counted and has its content all
    at once; what frames hold lies inside the table of their arena. So dereferencing asks for a count and
    nothing more, and neither leaving a scope nor a release ever gives back a hold of a slot that is
    missing or has no count left. Counts have no upper bound here; as numbers of holds, they fit a word as
    long as no slot is held more often than the word can count. -/
theorem count_eq_holds_of_run (maxSlots : Nat) (calls : List HeapCall) :
    let h := (empty maxSlots).run calls
    (∀ id a, h.arenas.get? id = some a →
      a.slots.size ≤ 0x100000000 ∧
      (∀ (offset : UInt32) slot, a.slots[offset.toNat]? = some slot →
        slot.count = (a.frames.map fun frame => frame.held.count (.ofParts id offset)).sum) ∧
      (∀ (offset : UInt32) slot, a.slots[offset.toNat]? = some slot →
        (a.live.contains offset = true ↔ 1 ≤ slot.count) ∧
        (1 ≤ slot.count ↔ slot.content.isSome = true)) ∧
      (∀ offset : UInt32, a.live.contains offset = true → offset.toNat < a.slots.size) ∧
      (∀ frame ∈ a.frames, ∀ address ∈ frame.held,
        address.arena = id ∧ address.offset.toNat < a.slots.size)) ∧
    (∀ address, (∃ content, h.deref address = .ok content) ↔
      ∃ a slot, h.arenas.get? address.arena = some a ∧ a.slot? address = some slot ∧
        1 ≤ slot.count) ∧
    (∀ id a frame outer, h.arenas.get? id = some a → a.frames = frame :: outer →
      Arena.CanGiveBackAll frame.held { a with frames := outer }) ∧
    (∀ address a frames, h.arenas.get? address.arena = some a →
      Arena.unholdInnermost? address a.frames = some frames →
      { a with frames := frames }.giveBack? address ≠ none) := by
  intro h
  have hcounted : h.Counted := (counted_empty maxSlots).run calls
  refine ⟨fun id a harena => ?_, hcounted.deref_iff, ?_, ?_⟩
  · obtain ⟨rfl, ha⟩ := hcounted id a harena
    refine ⟨ha.size_le, fun offset slot hslot => ?_, fun offset slot hslot => ⟨?_, ?_⟩,
      fun offset hlive => ?_, fun frame hframe address hmem => ?_⟩
    · rw [ha.count_eq offset slot hslot, Arena.held, List.count_flatMap]
      rfl
    · rw [ha.live_iff, hslot]
      simp
    · exact (ha.content_iff offset slot hslot).symm
    · obtain ⟨slot, hslot, _⟩ := (ha.live_iff offset).1 hlive
      exact (Array.getElem?_eq_some_iff.1 hslot).1
    · exact ha.inside address (List.mem_flatMap.2 ⟨frame, hframe, hmem⟩)
  · intro id a frame outer harena hframes
    have ha := (hcounted id a harena).2
    rw [Arena.held, hframes] at ha
    exact (ha.withFrames outer).canGiveBackAll
  · intro address a frames harena hunhold hnone
    have ha := (hcounted _ a harena).2
    have howed := (ha.perm (Arena.perm_of_unholdInnermost? hunhold)).withFrames frames
    obtain ⟨given, last, hgiven, _⟩ := howed.giveBack
    cases hnone.symm.trans hgiven

/-- One slot held by two frames, twice by the inner one, next to a tombstone. -/
def nestedHolds : List HeapCall :=
  [.createArena, .allocate ⟨1⟩ (.int 7), .enterScope ⟨1⟩, .retain (.ofParts ⟨1⟩ 0),
    .reference (.ofParts ⟨1⟩ 0) ⟨2⟩, .allocate ⟨1⟩ .null, .release (.ofParts ⟨1⟩ 1)]

theorem count_eq_holds_nested : ∃ a frame outer frames,
    ((empty 8).run nestedHolds).arenas.get? ⟨1⟩ = some a ∧ a.frames = frame :: outer ∧
    a.slots[(0 : UInt32).toNat]? = some ⟨3, some (.value (.int 7))⟩ ∧
    (a.frames.map fun frame => frame.held.count (.ofParts ⟨1⟩ 0)).sum = 3 ∧
    a.live.contains 0 = true ∧ a.live.contains 1 = false ∧
    Arena.CanGiveBackAll frame.held { a with frames := outer } ∧
    Arena.unholdInnermost? (.ofParts ⟨1⟩ 0) a.frames = some frames ∧
    { a with frames := frames }.giveBack? (.ofParts ⟨1⟩ 0) ≠ none := by
  obtain ⟨harenas, _, hexit, hrelease⟩ := count_eq_holds_of_run 8 nestedHolds
  refine ⟨_, _, _, _, rfl, rfl, rfl, ?_, rfl, rfl, hexit ⟨1⟩ _ _ _ rfl rfl, rfl,
    hrelease (.ofParts ⟨1⟩ 0) _ _ rfl rfl⟩
  exact ((harenas ⟨1⟩ _ rfl).2.1 0 _ rfl).symm

end CapabilityArena.Heap
