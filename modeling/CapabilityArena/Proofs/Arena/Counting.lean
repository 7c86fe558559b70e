import CapabilityArena.Heap.Basic
import CapabilityArena.Proofs.Address
import CapabilityArena.Proofs.Arena.Content

/-!
Scope counting inside one arena. `CountedBy` compares the slots with a list of holds; every operation on
the holds of an arena adds or takes one of them on both sides at once.
-/

namespace CapabilityArena

theorem Slot.isLive_iff {s : Slot} : s.isLive = true ↔ 1 ≤ s.count := by
  simp only [Slot.isLive, decide_eq_true_eq]
  omega

namespace Arena

/-- All holds of the open frames, the innermost frame first and in each frame the latest first. -/
def held (a : Arena) : List Address := a.frames.flatMap (·.held)

/-- The slots are counted by these holds: the count of a slot is the number of holds of its address, and
    the live index and the contents agree with the counts. -/
structure CountedBy (a : Arena) (holds : List Address) : Prop where
  /-- Every slot has an offset of its own. -/
  size_le : a.slots.size ≤ 0x100000000
  inside : ∀ address ∈ holds, address.arena = a.id ∧ address.offset.toNat < a.slots.size
  count_eq : ∀ (offset : UInt32) slot, a.slots[offset.toNat]? = some slot →
    slot.count = holds.count (a.addressAt offset)
  live_iff : ∀ offset : UInt32, a.live.contains offset = true ↔
    ∃ slot, a.slots[offset.toNat]? = some slot ∧ 1 ≤ slot.count
  content_iff : ∀ (offset : UInt32) slot, a.slots[offset.toNat]? = some slot →
    (slot.content.isSome = true ↔ 1 ≤ slot.count)

theorem addressAt_eq_iff {a : Arena} {address : Address} (harena : address.arena = a.id)
    (offset : UInt32) : a.addressAt offset = address ↔ offset = address.offset := by
  constructor
  · intro heq
    rw [← heq, addressAt, Address.offset_ofParts]
  · intro heq
    apply Address.eq_of_parts
    · rw [addressAt, Address.arena_ofParts, harena]
    · rw [addressAt, Address.offset_ofParts, heq]

theorem countedBy_opened (id : ArenaId) (root : ScopeId) : (opened id root).CountedBy [] where
  size_le := Nat.zero_le _
  inside := by simp
  count_eq := by simp [opened]
  live_iff := by simp [opened, Dictionary.contains]
  content_iff := by simp [opened]

namespace CountedBy

variable {a : Arena} {holds : List Address} {address : Address}

theorem perm {others : List Address} (hcounted : a.CountedBy holds) (hperm : holds.Perm others) :
    a.CountedBy others where
  size_le := hcounted.size_le
  inside := fun address hmem => hcounted.inside address (hperm.mem_iff.2 hmem)
  count_eq := fun offset slot hslot => (hcounted.count_eq offset slot hslot).trans (hperm.count_eq _)
  live_iff := hcounted.live_iff
  content_iff := hcounted.content_iff

/-- Frames play no part in counting. -/
theorem withFrames (hcounted : a.CountedBy holds) (frames : List Frame) :
    { a with frames := frames }.CountedBy holds where
  size_le := hcounted.size_le
  inside := hcounted.inside
  count_eq := hcounted.count_eq
  live_iff := hcounted.live_iff
  content_iff := hcounted.content_iff

/-- One slot and the holds of its address are other than before; the slot may be new. -/
theorem update {after : Arena} {others : List Address} {slot : Slot} (hcounted : a.CountedBy holds)
    (hid : after.id = a.id) (harena : address.arena = a.id)
    (hsize : after.slots.size ≤ 0x100000000) (hgrows : a.slots.size ≤ after.slots.size)
    (hinside : address.offset.toNat < after.slots.size)
    (hat : ∀ offset : UInt32, after.slots[offset.toNat]? =
      if offset = address.offset then some slot else a.slots[offset.toNat]?)
    (hothers : ∀ other, other ≠ address → others.count other = holds.count other)
    (hcount : slot.count = others.count address)
    (hcontent : slot.content.isSome = true ↔ 1 ≤ slot.count)
    (hlive : ∀ offset, after.live.contains offset = true ↔
      if offset = address.offset then 1 ≤ slot.count else a.live.contains offset = true) :
    after.CountedBy others := by
  constructor
  case size_le => exact hsize
  case inside =>
    intro other hmem
    rw [hid]
    by_cases hother : other = address
    · exact hother ▸ ⟨harena, hinside⟩
    · have hpos : 0 < holds.count other := hothers other hother ▸ List.count_pos_iff.2 hmem
      have hold := hcounted.inside other (List.count_pos_iff.1 hpos)
      exact ⟨hold.1, by omega⟩
  case count_eq =>
    intro offset found hfound
    have haddress : after.addressAt offset = a.addressAt offset := by rw [addressAt, addressAt, hid]
    rw [hat] at hfound
    by_cases hoffset : offset = address.offset
    · rw [if_pos hoffset] at hfound
      cases hfound
      rw [hcount, haddress, (addressAt_eq_iff harena offset).2 hoffset]
    · rw [if_neg hoffset] at hfound
      rw [haddress, hothers _ fun heq => hoffset ((addressAt_eq_iff harena offset).1 heq)]
      exact hcounted.count_eq offset found hfound
  case live_iff =>
    intro offset
    rw [hlive, hat]
    by_cases hoffset : offset = address.offset
    · simp [hoffset]
    · simp only [hoffset, ↓reduceIte]
      exact hcounted.live_iff offset
  case content_iff =>
    intro offset found hfound
    rw [hat] at hfound
    by_cases hoffset : offset = address.offset
    · rw [if_pos hoffset] at hfound
      cases hfound
      exact hcontent
    · rw [if_neg hoffset] at hfound
      exact hcounted.content_iff offset found hfound

/-- Changing one slot together with the holds of its address. -/
theorem replace {after : Arena} {others : List Address} {slot : Slot} (hcounted : a.CountedBy holds)
    (harena : address.arena = a.id) (hinside : address.offset.toNat < a.slots.size)
    (hid : after.id = a.id)
    (hslots : after.slots = a.slots.setIfInBounds address.offset.toNat slot)
    (hothers : ∀ other, other ≠ address → others.count other = holds.count other)
    (hcount : slot.count = others.count address)
    (hcontent : slot.content.isSome = true ↔ 1 ≤ slot.count)
    (hlive : ∀ offset, after.live.contains offset = true ↔
      if offset = address.offset then 1 ≤ slot.count else a.live.contains offset = true) :
    after.CountedBy others := by
  have hsize : after.slots.size = a.slots.size := by rw [hslots, Array.size_setIfInBounds]
  refine hcounted.update hid harena (hsize ▸ hcounted.size_le) (Nat.le_of_eq hsize.symm)
    (hsize ▸ hinside) (fun offset => ?_) hothers hcount hcontent hlive
  rw [hslots]
  exact getElem?_replaced hinside slot offset

theorem exists_slot (hcounted : a.CountedBy holds) (hmem : address ∈ holds) :
    ∃ slot, a.slot? address = some slot ∧ slot.count = holds.count address := by
  obtain ⟨harena, hinside⟩ := hcounted.inside address hmem
  have hslot : a.slot? address = some a.slots[address.offset.toNat] := Array.getElem?_eq_getElem hinside
  refine ⟨_, hslot, ?_⟩
  rw [hcounted.count_eq address.offset _ hslot, (addressAt_eq_iff harena _).2 rfl]

/-- A hold can always be given back. -/
theorem giveBack (hcounted : a.CountedBy (address :: holds)) :
    ∃ given last, a.giveBack? address = some (given, last) ∧
      given.CountedBy holds ∧ given.id = a.id ∧ given.frames = a.frames := by
  obtain ⟨harena, hinside⟩ := hcounted.inside address List.mem_cons_self
  obtain ⟨⟨count, content⟩, hslot, hcount⟩ := hcounted.exists_slot List.mem_cons_self
  rw [List.count_cons_self] at hcount
  have hothers : ∀ other, other ≠ address → holds.count other = (address :: holds).count other :=
    fun other hother => (List.count_cons_of_ne (Ne.symm hother)).symm
  simp only at hcount
  cases hrest : holds.count address with
  | zero =>
    -- The last hold: the slot becomes a tombstone and leaves the live index.
    rw [hrest] at hcount
    subst hcount
    refine ⟨{ a.replaceSlot address ⟨0, none⟩ with live := a.live.remove address.offset }, true,
      by simp [giveBack?, hslot, Slot.lose?, Slot.isLive], ?_, rfl, rfl⟩
    refine hcounted.replace harena hinside rfl rfl hothers (by simp [hrest]) (by simp) fun offset => ?_
    rw [KeySet.contains_remove]
    by_cases hoffset : offset = address.offset <;> simp [hoffset]
  | succ rest =>
    rw [hrest] at hcount
    subst hcount
    refine ⟨a.replaceSlot address ⟨rest + 1, content⟩, false,
      by simp [giveBack?, hslot, Slot.lose?, Slot.isLive], ?_, rfl, rfl⟩
    have hcontent := hcounted.content_iff address.offset _ hslot
    refine hcounted.replace harena hinside rfl rfl hothers hrest.symm ?_ fun offset => ?_
    · simp only [hcontent]
      omega
    · by_cases hoffset : offset = address.offset
      · simp only [hoffset, ↓reduceIte, Nat.le_add_left, iff_true]
        exact (hcounted.live_iff _).2 ⟨_, hslot, by simp⟩
      · simp only [hoffset, ↓reduceIte]
        rfl

/-- Taking a hold of a live slot. -/
theorem gain {slot : Slot} (hcounted : a.CountedBy holds) (harena : address.arena = a.id)
    (hslot : a.slot? address = some slot) (hlive : slot.isLive = true) :
    (a.replaceSlot address slot.gain).CountedBy (address :: holds) := by
  have hpos := Slot.isLive_iff.1 hlive
  have hinside : address.offset.toNat < a.slots.size := (Array.getElem?_eq_some_iff.1 hslot).1
  refine hcounted.replace harena hinside rfl rfl
    (fun other hother => List.count_cons_of_ne (Ne.symm hother)) ?_ ?_ fun offset => ?_
  · rw [List.count_cons_self, ← (addressAt_eq_iff harena _).2 rfl]
    exact congrArg (· + 1) (hcounted.count_eq _ slot hslot)
  · simp only [Slot.gain, hcounted.content_iff _ slot hslot]
    omega
  · by_cases hoffset : offset = address.offset
    · simp only [hoffset, ↓reduceIte, Slot.gain, Nat.le_add_left, iff_true]
      exact (hcounted.live_iff _).2 ⟨slot, hslot, hpos⟩
    · simp only [hoffset, ↓reduceIte]
      rfl

/-- A new slot at the end of the table, with one hold. -/
theorem push {content : Content} (hcounted : a.CountedBy holds) (hroom : a.slots.size < 0x100000000)
    (haddress : address = .ofParts a.id (.ofNat a.slots.size)) :
    { a with
      slots := a.slots.push (.holding content)
      live := a.live.add address.offset }.CountedBy (address :: holds) := by
  have hoffset : address.offset.toNat = a.slots.size := by
    rw [haddress, Address.offset_ofParts, UInt32.toNat_ofNat_of_lt' hroom]
  have hnew : holds.count address = 0 := by
    refine List.count_eq_zero.2 fun hmem => ?_
    have hinside := (hcounted.inside address hmem).2
    omega
  have hsize : (a.slots.push (.holding content)).size = a.slots.size + 1 := Array.size_push ..
  have hle : (a.slots.push (.holding content)).size ≤ 0x100000000 := by omega
  have hgrows : a.slots.size ≤ (a.slots.push (.holding content)).size := by omega
  have hinside : address.offset.toNat < (a.slots.push (.holding content)).size := by omega
  have hat : ∀ offset : UInt32, (a.slots.push (.holding content))[offset.toNat]? =
      if offset = address.offset then some (.holding content) else a.slots[offset.toNat]? := by
    intro offset
    rw [Array.getElem?_push, ← hoffset]
    by_cases heq : offset = address.offset
    · simp [heq]
    · have hne : offset.toNat ≠ address.offset.toNat := fun h => heq (UInt32.toNat.inj h)
      simp [heq, hne]
  refine hcounted.update rfl (by rw [haddress, Address.arena_ofParts]) hle hgrows hinside hat
    (fun other hother => List.count_cons_of_ne (Ne.symm hother)) ?_ (by simp [Slot.holding])
    fun offset => ?_
  · rw [List.count_cons_self, hnew]
    rfl
  · rw [KeySet.contains_add]
    by_cases heq : offset = address.offset <;> simp [heq, Slot.holding]

end CountedBy

/-- Giving back has no answer for an address outside the table and for a slot without counts, and only
    then. -/
theorem giveBack?_eq_none_iff {a : Arena} {address : Address} :
    a.giveBack? address = none ↔ ∀ slot, a.slot? address = some slot → slot.count = 0 := by
  cases hslot : a.slot? address with
  | none => simp [giveBack?, hslot]
  | some slot =>
    obtain ⟨count, content⟩ := slot
    match count with
    | 0 => simp [giveBack?, hslot, Slot.lose?]
    | 1 => simp [giveBack?, hslot, Slot.lose?, Slot.isLive]
    | count + 2 => simp [giveBack?, hslot, Slot.lose?, Slot.isLive]

/-- Every hold of the list can be given back, one after another. -/
def CanGiveBackAll : List Address → Arena → Prop
  | [], _ => True
  | address :: rest, a => ∃ given last, a.giveBack? address = some (given, last) ∧ CanGiveBackAll rest given

theorem CountedBy.canGiveBackAll {a : Arena} {owed rest : List Address}
    (hcounted : a.CountedBy (owed ++ rest)) : CanGiveBackAll owed a := by
  induction owed generalizing a with
  | nil => trivial
  | cons address owed ih =>
    obtain ⟨given, last, hgiven, hcounted, _⟩ := CountedBy.giveBack hcounted
    exact ⟨given, last, hgiven, ih hcounted⟩

/-- Giving back the holds of a frame leaves the slots counted by the other holds. -/
theorem CountedBy.giveBackAll {a : Arena} {owed rest : List Address}
    (hcounted : a.CountedBy (owed ++ rest)) :
    (giveBackAll owed a).1.CountedBy rest ∧ (giveBackAll owed a).1.id = a.id ∧
      (giveBackAll owed a).1.frames = a.frames := by
  induction owed generalizing a with
  | nil => exact ⟨hcounted, rfl, rfl⟩
  | cons address owed ih =>
    obtain ⟨given, last, hgiven, hcounted, hid, hframes⟩ := CountedBy.giveBack hcounted
    obtain ⟨hrest, hrestId, hrestFrames⟩ := ih hcounted
    have hstep : (Arena.giveBackAll (address :: owed) a).1 = (Arena.giveBackAll owed given).1 := by
      simp only [Arena.giveBackAll, hgiven]
      cases last <;> rfl
    rw [hstep]
    exact ⟨hrest, hrestId.trans hid, hrestFrames.trans hframes⟩

theorem perm_of_holdIn? {scope : ScopeId} {address : Address} {frames held : List Frame}
    (hhold : holdIn? scope address frames = some held) :
    (held.flatMap (·.held)).Perm (address :: frames.flatMap (·.held)) := by
  induction frames generalizing held with
  | nil => cases hhold
  | cons frame outer ih =>
    rw [holdIn?] at hhold
    by_cases hscope : frame.id = scope
    · rw [if_pos hscope] at hhold
      cases hhold
      simp [Frame.hold]
    · rw [if_neg hscope] at hhold
      obtain ⟨rest, hrest, rfl⟩ := Option.map_eq_some_iff.1 hhold
      simp only [List.flatMap_cons]
      exact ((ih hrest).append_left frame.held).trans List.perm_middle

theorem perm_of_unholdInnermost? {address : Address} {frames unheld : List Frame}
    (hunhold : unholdInnermost? address frames = some unheld) :
    (frames.flatMap (·.held)).Perm (address :: unheld.flatMap (·.held)) := by
  induction frames generalizing unheld with
  | nil => cases hunhold
  | cons frame outer ih =>
    rw [unholdInnermost?] at hunhold
    by_cases hmem : address ∈ frame.held
    · simp only [Frame.unhold?, if_pos hmem, Option.some.injEq] at hunhold
      subst hunhold
      simp only [List.flatMap_cons]
      exact (List.perm_cons_erase hmem).append_right _
    · simp only [Frame.unhold?, if_neg hmem] at hunhold
      obtain ⟨rest, hrest, rfl⟩ := Option.map_eq_some_iff.1 hunhold
      simp only [List.flatMap_cons]
      exact ((ih hrest).append_left frame.held).trans List.perm_middle

theorem ne_nil_of_holdIn? {scope : ScopeId} {address : Address} {frames held : List Frame}
    (hhold : holdIn? scope address frames = some held) : held ≠ [] := by
  cases frames with
  | nil => cases hhold
  | cons frame outer =>
    rw [holdIn?] at hhold
    by_cases hscope : frame.id = scope
    · rw [if_pos hscope] at hhold
      cases hhold
      exact List.cons_ne_nil _ _
    · rw [if_neg hscope] at hhold
      obtain ⟨rest, _, rfl⟩ := Option.map_eq_some_iff.1 hhold
      exact List.cons_ne_nil _ _

theorem ne_nil_of_unholdInnermost? {address : Address} {frames unheld : List Frame}
    (hunhold : unholdInnermost? address frames = some unheld) : unheld ≠ [] := by
  cases frames with
  | nil => cases hunhold
  | cons frame outer =>
    rw [unholdInnermost?] at hunhold
    split at hunhold
    next =>
      cases hunhold
      exact List.cons_ne_nil _ _
    next =>
      obtain ⟨rest, _, rfl⟩ := Option.map_eq_some_iff.1 hunhold
      exact List.cons_ne_nil _ _

end Arena

end CapabilityArena
