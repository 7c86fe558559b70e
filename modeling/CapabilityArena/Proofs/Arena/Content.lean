import CapabilityArena.Heap.Arena

/-!
What the slots of an arena hold, apart from their counts. Giving back and taking holds can empty slots, but
never fills one or exchanges what is in it.
-/

namespace CapabilityArena.Arena

def content? (a : Arena) (address : Address) : Option Content := (a.slot? address).bind (·.content)

/-- An arena later on: the same slots, of which some may have lost their content. -/
structure Follows (after before : Arena) : Prop where
  id_eq : after.id = before.id
  size_eq : after.slots.size = before.slots.size
  content_of : ∀ address content, after.content? address = some content →
    before.content? address = some content

variable {a : Arena} {address : Address}

theorem getElem?_replaced {slots : Array Slot} {position : UInt32}
    (hinside : position.toNat < slots.size) (slot : Slot) (query : UInt32) :
    (slots.setIfInBounds position.toNat slot)[query.toNat]? =
      if query = position then some slot else slots[query.toNat]? := by
  rw [Array.getElem?_setIfInBounds]
  by_cases hquery : query = position
  · simp [hquery, hinside]
  · have hne : position.toNat ≠ query.toNat := fun heq => hquery (UInt32.toNat.inj heq.symm)
    simp [hquery, hne]

theorem slot?_replaceSlot {found : Slot} (hslot : a.slot? address = some found) (slot : Slot)
    (query : Address) : (a.replaceSlot address slot).slot? query =
      if query.offset = address.offset then some slot else a.slot? query :=
  getElem?_replaced (Array.getElem?_eq_some_iff.1 hslot).1 slot query.offset

theorem replaceSlot_self {found : Slot} (hslot : a.slot? address = some found) :
    a.replaceSlot address found = a := by
  obtain ⟨hinside, hfound⟩ := Array.getElem?_eq_some_iff.1 hslot
  have hslots : a.slots.setIfInBounds address.offset.toNat found = a.slots := by
    rw [Array.setIfInBounds_def, dif_pos hinside, ← hfound, Array.set_getElem_self]
  simp only [replaceSlot, hslots]

/-- Of two slots that are put in the same place the second remains. -/
theorem replaceSlot_replaceSlot (a : Arena) (address : Address) (first second : Slot) :
    (a.replaceSlot address first).replaceSlot address second = a.replaceSlot address second := by
  simp only [replaceSlot, Array.setIfInBounds_setIfInBounds]

namespace Follows

theorem refl (a : Arena) : a.Follows a := ⟨rfl, rfl, fun _ _ hcontent => hcontent⟩

theorem trans {later after before : Arena} (hlater : later.Follows after)
    (hafter : after.Follows before) : later.Follows before where
  id_eq := hlater.id_eq.trans hafter.id_eq
  size_eq := hlater.size_eq.trans hafter.size_eq
  content_of := fun address content hcontent =>
    hafter.content_of address content (hlater.content_of address content hcontent)

theorem withFrames (a : Arena) (frames : List Frame) : { a with frames := frames }.Follows a :=
  ⟨rfl, rfl, fun _ _ hcontent => hcontent⟩

theorem replaceSlot {found slot : Slot} (hslot : a.slot? address = some found)
    (hcontent : ∀ content, slot.content = some content → found.content = some content) :
    (a.replaceSlot address slot).Follows a where
  id_eq := rfl
  size_eq := Array.size_setIfInBounds
  content_of := by
    intro query content hquery
    rw [content?, slot?_replaceSlot hslot] at hquery
    by_cases hoffset : query.offset = address.offset
    · rw [if_pos hoffset] at hquery
      rw [content?, slot?, hoffset, ← slot?, hslot]
      exact hcontent content hquery
    · rw [if_neg hoffset] at hquery
      exact hquery

theorem giveBack {given : Arena} {last : Bool} (hgiven : a.giveBack? address = some (given, last)) :
    given.Follows a := by
  obtain ⟨slot, hslot, hrest⟩ := Option.bind_eq_some_iff.1 hgiven
  obtain ⟨less, hless, hrest⟩ := Option.bind_eq_some_iff.1 hrest
  have hcontent : ∀ content, less.content = some content → slot.content = some content := by
    intro content hcontent
    unfold Slot.lose? at hless
    split at hless
    · cases hless
    · cases hless
      cases hcontent
    · cases hless
      exact hcontent
  have hfollows := replaceSlot hslot hcontent
  split at hrest
  · cases hrest
    exact hfollows
  · cases hrest
    exact ⟨hfollows.id_eq, hfollows.size_eq, hfollows.content_of⟩

theorem giveBackAll (owed : List Address) (a : Arena) : (giveBackAll owed a).1.Follows a := by
  induction owed generalizing a with
  | nil => exact refl a
  | cons address owed ih =>
    unfold Arena.giveBackAll
    split
    · exact ih a
    next given hgiven => exact (ih given).trans (giveBack hgiven)
    next given hgiven => exact (ih given).trans (giveBack hgiven)

end Follows

/-- An arena one step later: what its slots hold was there before, or it is in the one new slot. -/
structure Continues (storable : Content → Prop) (after before : Arena) : Prop where
  size_le : before.slots.size ≤ after.slots.size
  content_of : ∀ address content, after.content? address = some content →
    before.content? address = some content ∨
      (address.offset.toNat = before.slots.size ∧ storable content)

variable {storable : Content → Prop}

theorem Follows.continues {after before : Arena} (hfollows : after.Follows before) :
    after.Continues storable before where
  size_le := Nat.le_of_eq hfollows.size_eq.symm
  content_of := fun address content hcontent => .inl (hfollows.content_of address content hcontent)

theorem continues_push {after : Arena} {content : Content} (hstorable : storable content)
    (hslots : after.slots = a.slots.push (.holding content)) : after.Continues storable a where
  size_le := by
    rw [hslots, Array.size_push]
    omega
  content_of := by
    intro query found hfound
    rw [content?, slot?, hslots, Array.getElem?_push] at hfound
    by_cases hend : query.offset.toNat = a.slots.size
    · rw [if_pos hend] at hfound
      cases hfound
      exact .inr ⟨hend, hstorable⟩
    · rw [if_neg hend] at hfound
      exact .inl hfound

/-- An arena one step later, in full: the same slots, of which some may have lost their content, or one
    more. -/
def Extends (storable : Content → Prop) (after before : Arena) : Prop :=
  after.Follows before ∨
    ∃ content, storable content ∧ after.slots = before.slots.push (.holding content)

theorem Extends.continues {after before : Arena} (hextends : after.Extends storable before) :
    after.Continues storable before := by
  rcases hextends with hfollows | ⟨content, hstorable, hslots⟩
  · exact hfollows.continues
  · exact continues_push hstorable hslots

/-- Where nothing may be stored, the table keeps its size. -/
theorem Extends.size_eq {after before : Arena} (hextends : after.Extends (fun _ => False) before) :
    after.slots.size = before.slots.size := by
  rcases hextends with hfollows | ⟨_, hstorable, _⟩
  · exact hfollows.size_eq
  · exact hstorable.elim

end CapabilityArena.Arena
