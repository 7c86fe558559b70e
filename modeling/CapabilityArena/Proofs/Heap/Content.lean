import CapabilityArena.Proofs.Arena.Content
import CapabilityArena.Proofs.Heap.Counting

/-!
What is stored at addresses. Content comes to a heap by allocation, at an address that was never given out
before; no other step of a heap exchanges what is stored anywhere.
-/

namespace CapabilityArena.Heap

def content? (h : Heap) (address : Address) : Option Content :=
  (h.arenas.get? address.arena).bind (·.content? address)

/-- An address that has been given out, whether or not its slot or its arena is still there. -/
def Issued (h : Heap) (address : Address) : Prop :=
  address.arena.number < h.nextArena ∧
    ∀ a, h.arenas.get? address.arena = some a → address.offset.toNat < a.slots.size

/-- All arenas have numbers that have been given out. -/
def Numbered (h : Heap) : Prop := ∀ id a, h.arenas.get? id = some a → id.number < h.nextArena

variable {h h' : Heap} {address : Address} {content : Content}

theorem content?_setArena (h : Heap) (a : Arena) (address : Address) :
    (h.setArena a).content? address =
      if address.arena = a.id then a.content? address else h.content? address := by
  rw [content?, get?_setArena]
  by_cases harena : address.arena = a.id
  · simp [harena]
  · simp [harena, content?]

theorem get?_withoutSpent {id spent : ArenaId} {a : Arena}
    (harena : (h.withoutSpent spent).arenas.get? id = some a) : h.arenas.get? id = some a := by
  unfold withoutSpent at harena
  split at harena
  · by_cases hid : id = spent
    · simp [hid] at harena
    · rwa [Dictionary.get?_erase_of_ne _ hid] at harena
  · exact harena

theorem nextArena_withoutSpent (h : Heap) (spent : ArenaId) :
    (h.withoutSpent spent).nextArena = h.nextArena := by
  unfold withoutSpent
  split <;> rfl

theorem issued_setArena {a after : Arena} (harena : h.arenas.get? after.id = some a)
    (hsize : a.slots.size ≤ after.slots.size) (hissued : h.Issued address) :
    (h.setArena after).Issued address := by
  refine ⟨hissued.1, fun found hfound => ?_⟩
  rw [get?_setArena] at hfound
  by_cases hid : address.arena = after.id
  · rw [if_pos hid] at hfound
    cases hfound
    have hinside := hissued.2 a (hid ▸ harena)
    omega
  · rw [if_neg hid] at hfound
    exact hissued.2 found hfound

theorem issued_of_content (hnumbered : h.Numbered) (hstored : h.content? address = some content) :
    h.Issued address := by
  obtain ⟨a, harena, hat⟩ := Option.bind_eq_some_iff.1 hstored
  obtain ⟨slot, hslot, _⟩ := Option.bind_eq_some_iff.1 hat
  refine ⟨hnumbered _ a harena, fun found hfound => ?_⟩
  cases harena.symm.trans hfound
  exact (Array.getElem?_eq_some_iff.1 hslot).1

theorem Numbered.setArena {a after : Arena} (hnumbered : h.Numbered)
    (harena : h.arenas.get? after.id = some a) : (h.setArena after).Numbered := by
  intro id found hfound
  rw [get?_setArena] at hfound
  by_cases hid : id = after.id
  · rw [hid]
    exact hnumbered after.id a harena
  · rw [if_neg hid] at hfound
    exact hnumbered id found hfound

namespace Counted

/-- What can be read at an address is what is stored there: where there is content, there is a count. -/
theorem deref_eq_ok_iff (hcounted : h.Counted) :
    h.deref address = .ok content ↔ h.content? address = some content := by
  constructor
  · intro hderef
    obtain ⟨slot, hslot, hrest⟩ := read_bind_eq_ok.1 hderef
    obtain ⟨a, harena, hat, _⟩ := slot_eq_ok hslot
    rw [content?, harena, Option.bind_some, Arena.content?, hat, Option.bind_some]
    split at hrest
    next hstored =>
      cases hrest
      exact hstored
    next => cases hrest
  · intro hcontent
    obtain ⟨a, harena, hat⟩ := Option.bind_eq_some_iff.1 hcontent
    obtain ⟨slot, hslot, hstored⟩ := Option.bind_eq_some_iff.1 hat
    have hpos : 1 ≤ slot.count :=
      ((hcounted _ a harena).2.content_iff _ slot hslot).1 (by rw [hstored]; rfl)
    simp [deref, Heap.slot, harena, hslot, Slot.isLive_iff.2 hpos, hstored, bind, Except.bind]

theorem entity_eq_ok_iff (hcounted : h.Counted) {e : Entity} :
    h.entity address = .ok e ↔ h.content? address = some (.entity e) := by
  rw [← hcounted.deref_eq_ok_iff]
  constructor
  · intro hentity
    obtain ⟨stored, hderef, hrest⟩ := read_bind_eq_ok.1 hentity
    cases stored with
    | value v => cases hrest
    | entity found =>
      cases hrest
      exact hderef
  · intro hderef
    rw [entity, hderef]
    rfl

end Counted

namespace Step

variable {storable : Content → Prop}

theorem toNat_nextArena (hleft : h.nextArena ≠ 0xffffffff) :
    (h.nextArena + 1).toNat = h.nextArena.toNat + 1 := by
  have hbound := h.nextArena.toNat_lt
  have hne : h.nextArena.toNat ≠ 0xffffffff := fun heq => hleft (UInt32.toNat.inj heq)
  rw [UInt32.toNat_add, UInt32.toNat_one]
  omega

theorem nextArena_lt (hleft : h.nextArena ≠ 0xffffffff) : h.nextArena < h.nextArena + 1 := by
  have hnext := toNat_nextArena hleft
  rw [UInt32.lt_iff_toNat_lt]
  omega

theorem nextArena_le (hstep : Step storable h h') : h.nextArena ≤ h'.nextArena := by
  cases hstep with
  | create hleft => exact UInt32.le_of_lt (nextArena_lt hleft)
  | exit _ _ => rw [nextArena_withoutSpent]; exact UInt32.le_refl _
  | @release _ _ _ _ last _ _ _ =>
    cases last with
    | false => exact UInt32.le_refl _
    | true => rw [if_pos rfl, nextArena_withoutSpent]; exact UInt32.le_refl _
  | _ => exact UInt32.le_refl _

theorem get?_of_extends {a after : Arena} (harena : h.arenas.get? after.id = some a)
    (hextends : after.Extends storable a) {id : ArenaId} {found : Arena}
    (hfound : (h.setArena after).arenas.get? id = some found) :
    ∃ before, h.arenas.get? id = some before ∧ found.Extends storable before := by
  rw [get?_setArena] at hfound
  by_cases hid : id = after.id
  · rw [if_pos hid] at hfound
    cases hfound
    exact ⟨a, hid ▸ harena, hextends⟩
  · rw [if_neg hid] at hfound
    exact ⟨found, hfound, .inl (.refl found)⟩

/-- Every arena after a step extends an arena that was there before, or has just been opened under a
    number of its own. -/
theorem arena_extends (hstep : Step storable h h') (hcounted : h.Counted) {id : ArenaId} {found : Arena}
    (hfound : h'.arenas.get? id = some found) :
    (∃ before, h.arenas.get? id = some before ∧ found.Extends storable before) ∨
      (id.number = h.nextArena ∧ h.nextArena < h'.nextArena ∧ found.slots = #[]) := by
  cases hstep with
  | create hleft =>
    change (h.setArena _).arenas.get? id = some found at hfound
    rw [get?_setArena] at hfound
    by_cases hid : id = (Arena.opened ⟨h.nextArena⟩ ⟨h.nextScope⟩).id
    · rw [if_pos hid] at hfound
      cases hfound
      exact .inr ⟨congrArg ArenaId.number hid, nextArena_lt hleft, rfl⟩
    · rw [if_neg hid] at hfound
      exact .inl ⟨found, hfound, .inl (.refl found)⟩
  | @enter entered a harena =>
    obtain ⟨rfl, _⟩ := hcounted entered a harena
    have hfollows := Arena.Follows.withFrames a (⟨⟨h.nextScope⟩, []⟩ :: a.frames)
    refine .inl (get?_of_extends ?_ (.inl hfollows) hfound)
    exact harena
  | @exit exited a frame outer harena _ =>
    obtain ⟨rfl, _⟩ := hcounted exited a harena
    have hfollows : (Arena.giveBackAll frame.held { a with frames := outer }).1.Follows a :=
      (Arena.Follows.giveBackAll ..).trans (.withFrames a outer)
    refine .inl (get?_of_extends ?_ (.inl hfollows) (get?_withoutSpent hfound))
    rwa [hfollows.id_eq]
  | @allocate target a frame outer fresh stored harena _ hstorable _ _ =>
    obtain ⟨rfl, _⟩ := hcounted target a harena
    refine .inl (get?_of_extends ?_ (.inr ⟨stored, hstorable, rfl⟩) hfound)
    exact harena
  | @refer referred scope a slot frames harena hslot _ _ =>
    have hid := (hcounted _ a harena).1
    have hgain : ({ a with frames := frames }.replaceSlot referred slot.gain).Follows a := by
      refine .trans (.replaceSlot (a := { a with frames := frames }) hslot fun _ hstored => ?_)
        (.withFrames a frames)
      exact hstored
    refine .inl (get?_of_extends ?_ (.inl hgain) hfound)
    rwa [hgain.id_eq, hid]
  | @release released a given frames last harena _ hgiven =>
    have hid := (hcounted _ a harena).1
    have hfollows := (Arena.Follows.giveBack hgiven).trans (.withFrames a frames)
    have hset : (h.setArena given).arenas.get? id = some found := by
      cases last with
      | false => exact hfound
      | true => exact get?_withoutSpent hfound
    refine .inl (get?_of_extends ?_ (.inl hfollows) hset)
    rwa [hfollows.id_eq, hid]

theorem arena_of (hstep : Step storable h h') (hcounted : h.Counted) {id : ArenaId} {found : Arena}
    (hfound : h'.arenas.get? id = some found) :
    (∃ before, h.arenas.get? id = some before ∧ found.Continues storable before) ∨
      (id.number = h.nextArena ∧ h.nextArena < h'.nextArena ∧ found.slots = #[]) := by
  refine (hstep.arena_extends hcounted hfound).imp_left fun ⟨before, hbefore, hextends⟩ => ?_
  exact ⟨before, hbefore, hextends.continues⟩

theorem numbered (hstep : Step storable h h') (hcounted : h.Counted) (hnumbered : h.Numbered) :
    h'.Numbered := by
  intro id found hfound
  rcases hstep.arena_of hcounted hfound with ⟨before, hbefore, _⟩ | ⟨hid, hnext, _⟩
  · exact UInt32.lt_of_lt_of_le (hnumbered id before hbefore) hstep.nextArena_le
  · exact hid ▸ hnext

/-- An address stays given out. -/
theorem issued (hstep : Step storable h h') (hcounted : h.Counted) (hissued : h.Issued address) :
    h'.Issued address := by
  refine ⟨UInt32.lt_of_lt_of_le hissued.1 hstep.nextArena_le, fun found hfound => ?_⟩
  rcases hstep.arena_of hcounted hfound with ⟨before, hbefore, hcontinues⟩ | ⟨hid, _, _⟩
  · exact Nat.lt_of_lt_of_le (hissued.2 before hbefore) hcontinues.size_le
  · exact absurd (hid ▸ hissued.1) (UInt32.lt_irrefl _)

/-- A step leaves what is stored at an address as it is, empties it, or stores the first content that the
    address ever has. -/
theorem content_of (hstep : Step storable h h') (hcounted : h.Counted)
    (hcontent : h'.content? address = some content) :
    h.content? address = some content ∨
      (¬ h.Issued address ∧ h.content? address = none ∧ storable content) := by
  obtain ⟨found, hfound, hat⟩ := Option.bind_eq_some_iff.1 hcontent
  rcases hstep.arena_of hcounted hfound with ⟨before, hbefore, hcontinues⟩ | ⟨_, _, hslots⟩
  · rcases hcontinues.content_of address content hat with hold | ⟨hend, hstorable⟩
    · left
      rw [content?, hbefore]
      exact hold
    · refine .inr ⟨fun hissued => ?_, ?_, hstorable⟩
      · have hinside := hissued.2 before hbefore
        omega
      · simp [content?, hbefore, Arena.content?, Arena.slot?, hend]
  · simp [Arena.content?, Arena.slot?, hslots] at hat

end Step

/-! Storing an entity in place of another. -/

section PutEntity

variable {before : Entity}

theorem setArena_setArena {a other : Arena} (hid : other.id = a.id) :
    (h.setArena other).setArena a = h.setArena a := by
  unfold setArena
  rw [hid, Dictionary.insert_insert]

/-- Putting an arena where it is already changes nothing. -/
theorem setArena_self {id : ArenaId} {a : Arena} (hid : a.id = id) (harena : h.arenas.get? id = some a) :
    h.setArena a = h := by
  rw [setArena, hid, Dictionary.insert_of_get? harena]

theorem exists_slot_of_content (hstored : h.content? address = some content) :
    ∃ a slot, h.arenas.get? address.arena = some a ∧ a.slot? address = some slot ∧
      slot.content = some content := by
  obtain ⟨a, harena, hat⟩ := Option.bind_eq_some_iff.1 hstored
  obtain ⟨slot, hslot, hcontent⟩ := Option.bind_eq_some_iff.1 hat
  exact ⟨a, slot, harena, hslot, hcontent⟩

theorem putEntity_eq {a : Arena} {slot : Slot} (harena : h.arenas.get? address.arena = some a)
    (hslot : a.slot? address = some slot) (e : Entity) :
    h.putEntity address e =
      h.setArena (a.replaceSlot address { slot with content := some (.entity e) }) := by
  simp only [putEntity, harena, hslot]

@[simp]
theorem maxSlots_putEntity (h : Heap) (address : Address) (e : Entity) :
    (h.putEntity address e).maxSlots = h.maxSlots := by
  unfold putEntity
  split <;> [rfl; split <;> rfl]

@[simp]
theorem tornDown_putEntity (h : Heap) (address : Address) (e : Entity) :
    (h.putEntity address e).tornDown = h.tornDown := by
  unfold putEntity
  split <;> [rfl; split <;> rfl]

@[simp]
theorem nextArena_putEntity (h : Heap) (address : Address) (e : Entity) :
    (h.putEntity address e).nextArena = h.nextArena := by
  unfold putEntity
  split <;> [rfl; split <;> rfl]

theorem content?_putEntity (hcounted : h.Counted) (hstored : h.content? address = some content)
    (e : Entity) (query : Address) : (h.putEntity address e).content? query =
      if query = address then some (.entity e) else h.content? query := by
  obtain ⟨a, slot, harena, hslot, _⟩ := exists_slot_of_content hstored
  have hid := (hcounted _ a harena).1
  rw [putEntity_eq harena hslot, content?_setArena, Arena.content?, Arena.slot?_replaceSlot hslot]
  by_cases hquery : query = address
  · simp [hquery, Arena.replaceSlot, hid]
  · rw [if_neg hquery]
    by_cases hsame : query.arena = a.id
    · have hoffset : query.offset ≠ address.offset :=
        fun heq => hquery (Address.eq_of_parts (hsame.trans hid) heq)
      rw [if_neg hoffset, content?, hsame, hid, harena]
      exact if_pos hid.symm
    · exact if_neg hsame

theorem content?_putEntity_self (hcounted : h.Counted) (hstored : h.content? address = some content)
    (e : Entity) : (h.putEntity address e).content? address = some (.entity e) := by
  rw [content?_putEntity hcounted hstored, if_pos rfl]

theorem issued_putEntity (hcounted : h.Counted) (hstored : h.content? address = some content)
    (e : Entity) {query : Address} (hissued : h.Issued query) :
    (h.putEntity address e).Issued query := by
  obtain ⟨a, slot, harena, hslot, _⟩ := exists_slot_of_content hstored
  have hid := (hcounted _ a harena).1
  rw [putEntity_eq harena hslot]
  exact issued_setArena (by rwa [← hid] at harena) (by simp [Arena.replaceSlot]) hissued

theorem numbered_putEntity (hcounted : h.Counted) (hstored : h.content? address = some content)
    (e : Entity) (hnumbered : h.Numbered) : (h.putEntity address e).Numbered := by
  obtain ⟨a, slot, harena, hslot, _⟩ := exists_slot_of_content hstored
  have hid := (hcounted _ a harena).1
  rw [putEntity_eq harena hslot]
  exact hnumbered.setArena (by rwa [← hid] at harena)

namespace Counted

theorem putEntity (hcounted : h.Counted) (hstored : h.content? address = some content) (e : Entity) :
    (h.putEntity address e).Counted := by
  obtain ⟨a, slot, harena, hslot, hcontent⟩ := exists_slot_of_content hstored
  obtain ⟨hid, ha⟩ := hcounted _ a harena
  have hinside : address.offset.toNat < a.slots.size := (Array.getElem?_eq_some_iff.1 hslot).1
  have hpos : 1 ≤ slot.count := (ha.content_iff _ slot hslot).1 (by rw [hcontent]; rfl)
  have hcount : slot.count = a.held.count address := by
    rw [ha.count_eq _ slot hslot, (Arena.addressAt_eq_iff hid.symm _).2 rfl]
  rw [putEntity_eq harena hslot]
  refine hcounted.setArena (ha.replace hid.symm hinside rfl rfl (fun _ _ => rfl) hcount ?_ ?_)
  · simpa using hpos
  · intro offset
    by_cases hoffset : offset = address.offset
    · simp only [hoffset, ↓reduceIte, hpos, iff_true]
      exact (ha.live_iff _).2 ⟨slot, hslot, hpos⟩
    · rw [if_neg hoffset]
      rfl

/-- Of two entities that are stored in the same place the second remains. -/
theorem putEntity_putEntity (hcounted : h.Counted) (hstored : h.content? address = some content)
    (first second : Entity) :
    (h.putEntity address first).putEntity address second = h.putEntity address second := by
  obtain ⟨a, slot, harena, hslot, _⟩ := exists_slot_of_content hstored
  have hid := (hcounted _ a harena).1
  have hedited : (h.putEntity address first).arenas.get? address.arena =
      some (a.replaceSlot address { slot with content := some (.entity first) }) := by
    rw [putEntity_eq harena hslot, get?_setArena]
    exact if_pos hid.symm
  have hslotEdited := Arena.slot?_replaceSlot hslot { slot with content := some (.entity first) } address
  rw [if_pos rfl] at hslotEdited
  rw [putEntity_eq hedited hslotEdited, Arena.replaceSlot_replaceSlot, putEntity_eq harena hslot,
    putEntity_eq harena hslot]
  exact setArena_setArena rfl

/-- Storing the entity that is there already changes nothing. -/
theorem putEntity_self (hcounted : h.Counted)
    (hstored : h.content? address = some (.entity before)) : h.putEntity address before = h := by
  obtain ⟨a, ⟨count, _⟩, harena, hslot, rfl⟩ := exists_slot_of_content hstored
  have hid := (hcounted _ a harena).1
  rw [putEntity_eq harena hslot, Arena.replaceSlot_self hslot, setArena_self hid harena]

end Counted

/-- An entity that is stored can be read again. -/
theorem entity_putEntity_self (hcounted : h.Counted) (hstored : h.content? address = some content)
    (e : Entity) : (h.putEntity address e).entity address = .ok e :=
  (hcounted.putEntity hstored e).entity_eq_ok_iff.2 (content?_putEntity_self hcounted hstored e)

end PutEntity

end CapabilityArena.Heap
