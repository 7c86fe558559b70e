import CapabilityArena.Proofs.Arena.Bracket
import CapabilityArena.Proofs.Heap.Soundness

/-!
Scope brackets over calls. A call that stays inside a bracket (`HeapCall.StaysInside`) leaves the frames
outside alone, whatever it does inside and to other arenas; so leaving the bracket finds them again.
-/

namespace CapabilityArena

/-- A call stays inside the scopes entered since an arena was as before: it does not leave the outermost of
    them, it refers from one of them, and it releases what one of their frames holds at that moment. All
    other calls are free, and so is every call on another arena. -/
def HeapCall.StaysInside (before now : Arena) : HeapCall → Prop
  | .exitScope id => id = before.id → before.frames.length + 1 < now.frames.length
  | .exitScopeChecked id _ => id = before.id → before.frames.length + 1 < now.frames.length
  | .reference address scope =>
    address.arena = before.id → ∃ frame ∈ now.openedSince before, frame.id = scope
  | .release address =>
    address.arena = before.id → ∃ frame ∈ now.openedSince before, address ∈ frame.held
  | _ => True

namespace Heap

/-- An arena has a scope open, right on the frames that it had before. -/
def Within (h : Heap) (before : Arena) (scope : ScopeId) : Prop :=
  ∃ now, h.arenas.get? before.id = some now ∧ Arena.Bracketed scope before.frames now.frames

namespace Within

variable {h : Heap} {before : Arena} {scope : ScopeId}

theorem setArena {a : Arena} (hwithin : h.Within before scope)
    (hsame : a.id = before.id → Arena.Bracketed scope before.frames a.frames) :
    (h.setArena a).Within before scope := by
  by_cases hid : before.id = a.id
  · exact ⟨a, by rw [get?_setArena, if_pos hid], hsame hid.symm⟩
  · obtain ⟨now, hnow, hbracketed⟩ := hwithin
    exact ⟨now, by rw [get?_setArena, if_neg hid, hnow], hbracketed⟩

theorem bracketed (hwithin : h.Within before scope) {id : ArenaId} {a : Arena}
    (harena : h.arenas.get? id = some a) (hid : id = before.id) :
    Arena.Bracketed scope before.frames a.frames := by
  obtain ⟨now, hnow, hbracketed⟩ := hwithin
  subst hid
  cases harena.symm.trans hnow
  exact hbracketed

theorem createArena (hwithin : h.Within before scope) (hsound : h.Sound) (root : ScopeId) :
    (h.setArena (.opened ⟨h.nextArena⟩ root)).Within before scope := by
  refine hwithin.setArena fun hid => ?_
  obtain ⟨now, hnow, _⟩ := hwithin
  rw [← hid] at hnow
  cases hnow.symm.trans hsound.get?_nextArena

theorem exitScope (hwithin : h.Within before scope) (hsound : h.Sound) {id : ArenaId} {a : Arena}
    {frame : Frame} {outer : List Frame} (harena : h.arenas.get? id = some a)
    (hframes : a.frames = frame :: outer)
    (hinside : id = before.id → before.frames.length + 1 < a.frames.length) :
    ((h.setArena (Arena.giveBackAll frame.held { a with frames := outer }).1).withoutSpent id).Within
      before scope := by
  obtain ⟨hid, hgivenFrames, _⟩ := hsound.counted.giveBackAll harena hframes
  rw [hframes] at hinside
  rw [hsound.counted.withoutSpent_exit harena hframes]
  by_cases hlast : outer = []
  · have hother : before.id ≠ id := by
      intro hsame
      have hlength := hinside hsame.symm
      rw [hlast, List.length_singleton] at hlength
      omega
    obtain ⟨now, hnow, hbracketed⟩ := hwithin
    rw [if_pos hlast]
    exact ⟨now, by rw [retire, Dictionary.get?_erase_of_ne _ hother, hnow], hbracketed⟩
  · rw [if_neg hlast]
    refine hwithin.setArena fun hsame => ?_
    rw [hid] at hsame
    have hbracketed := hwithin.bracketed harena hsame
    rw [hframes] at hbracketed
    rw [hgivenFrames]
    exact hbracketed.exit (hinside hsame)

theorem allocateContent (hwithin : h.Within before scope) (hcounted : h.Counted) {id : ArenaId}
    {content : Content} {address : Address} {h' : Heap}
    (hrun : (HeapOp.allocateContent id content).run h = .ok address h') : h'.Within before scope := by
  obtain ⟨a, frame, outer, harena, hframes, _, _, _, rfl⟩ :=
    (HeapOp.allocateContent_spec id content h).of_ok hrun
  refine hwithin.setArena fun hsame => ?_
  have hbracketed := hwithin.bracketed harena ((hcounted id a harena).1.symm.trans hsame)
  rw [hframes] at hbracketed
  exact hbracketed.hold address

theorem reference (hwithin : h.Within before scope) (hcounted : h.Counted) {address : Address}
    {target : ScopeId} {answer : Address} {h' : Heap}
    (hrun : (HeapOp.reference address target).run h = .ok answer h')
    (hinside : ∀ now, h.arenas.get? address.arena = some now → address.arena = before.id →
      ∃ frame ∈ now.openedSince before, frame.id = target) : h'.Within before scope := by
  obtain ⟨a, slot, frames, harena, _, _, hhold, _, rfl⟩ :=
    (HeapOp.reference_spec address target h).of_ok hrun
  refine hwithin.setArena fun hsame => ?_
  have hid : address.arena = before.id := (hcounted _ a harena).1.symm.trans hsame
  rw [Arena.holdIn?_eq] at hhold
  exact (hwithin.bracketed harena hid).changeFirst hhold (hinside a harena hid) fun _ => rfl

theorem release (hwithin : h.Within before scope) (hcounted : h.Counted) {address : Address}
    {a given : Arena} {frames : List Frame} {last : Bool}
    (harena : h.arenas.get? address.arena = some a)
    (hunhold : Arena.unholdInnermost? address a.frames = some frames)
    (hgiven : { a with frames := frames }.giveBack? address = some (given, last))
    (hinside : address.arena = before.id → ∃ frame ∈ a.openedSince before, address ∈ frame.held) :
    (h.setArena given).Within before scope := by
  obtain ⟨hid, _, _⟩ := hcounted.giveBack_release harena hunhold hgiven
  refine hwithin.setArena fun hsame => ?_
  rw [hid] at hsame
  rw [Arena.frames_of_giveBack? hgiven]
  rw [Arena.unholdInnermost?_eq] at hunhold
  exact (hwithin.bracketed harena hsame).changeFirst hunhold (hinside hsame) fun _ => rfl

/-- The innermost scope is inside. -/
theorem retain_inside {now : Arena} {target : ScopeId}
    (hbracketed : Arena.Bracketed scope before.frames now.frames)
    (hinnermost : now.innermost? = some target) : ∃ frame ∈ now.openedSince before, frame.id = target := by
  unfold Arena.openedSince
  cases hframes : now.frames with
  | nil => simp [Arena.innermost?, hframes] at hinnermost
  | cons frame outer =>
    rw [hframes] at hbracketed
    rw [Arena.innermost?, hframes] at hinnermost
    exact ⟨frame, hbracketed.head_inside, Option.some.inj hinnermost⟩

/-- A call that stays inside leaves the scope open and the frames around it as they were. -/
theorem perform_spec (hwithin : h.Within before scope) (hsound : h.Sound) (call : HeapCall)
    (hinside : ∀ now, h.arenas.get? before.id = some now → call.StaysInside before now) :
    AllOrNothing call.perform h fun _ h' => h'.Within before scope := by
  have hcounted := hsound.counted
  have hat : ∀ {id a}, h.arenas.get? id = some a → id = before.id → call.StaysInside before a :=
    fun harena hid => hinside _ (hid ▸ harena)
  cases call with
  | createArena =>
    refine (HeapOp.createArena_spec h).silently.mono fun _ h' hcreate => ?_
    obtain ⟨_, _, rfl, rfl⟩ := hcreate
    exact hwithin.createArena hsound ⟨h.nextScope⟩
  | enterScope id =>
    refine (HeapOp.enterScope_spec id h).silently.mono fun _ h' henter => ?_
    obtain ⟨_, a, harena, rfl, rfl⟩ := henter
    have hset : (h.setArena { a with frames := ⟨⟨h.nextScope⟩, []⟩ :: a.frames }).Within before scope :=
      hwithin.setArena fun hsame =>
        (hwithin.bracketed harena ((hcounted id a harena).1.symm.trans hsame)).enter _
    exact hset
  | exitScope id =>
    refine (HeapOp.exitScope_spec id h).silently.mono fun _ h' hexit => ?_
    obtain ⟨_, a, frame, outer, harena, hframes, _, rfl⟩ := hexit
    exact hwithin.exitScope hsound harena hframes fun hid => hat harena hid hid
  | exitScopeChecked id target =>
    refine (HeapOp.exitScopeChecked_spec id target h).silently.mono fun _ h' hexit => ?_
    obtain ⟨_, _, _, _, _, _, _, hrun⟩ := hexit
    obtain ⟨a, frame, outer, harena, hframes, _, rfl⟩ := (HeapOp.exitScope_spec id h).of_ok hrun
    exact hwithin.exitScope hsound harena hframes fun hid => hat harena hid hid
  | allocate id value =>
    refine (HeapOp.allocate_spec id value h).silently.mono fun _ h' hallocate => ?_
    obtain ⟨_, _, hrun⟩ := hallocate
    exact hwithin.allocateContent hcounted hrun
  | retain address =>
    refine (HeapOp.retain_spec address h).silently.mono fun _ h' hretain => ?_
    obtain ⟨_, a, target, harena, hinnermost, hrun, _⟩ := hretain
    refine hwithin.reference hcounted hrun fun now hnow hid => ?_
    cases harena.symm.trans hnow
    exact retain_inside (hwithin.bracketed harena hid) hinnermost
  | reference address target =>
    have href := (HeapOp.reference_spec address target h).run_eq
    refine href.silently.mono fun _ h' hreference => ?_
    obtain ⟨_, hrun⟩ := hreference
    exact hwithin.reference hcounted hrun fun now hnow hid => hat hnow hid hid
  | release address =>
    refine (HeapOp.release_spec address h).silently.mono fun _ h' hrelease => ?_
    obtain ⟨_, a, _, frames, given, last, harena, _, _, hunhold, hgiven, _, rfl⟩ := hrelease
    rw [hcounted.withoutSpent_release harena hunhold hgiven, ite_self]
    exact hwithin.release hcounted harena hunhold hgiven fun hid => hat harena hid hid

end Within

variable {h h' : Heap} {id : ArenaId} {before now later : Arena} {scope : ScopeId}
  {storable : Content → Prop}

/-- An arena that is present later is the same one, and goes on from what it was. -/
theorem Step.arena_continues (hstep : Step storable h h') (hsound : h.Sound)
    (hnow : h.arenas.get? id = some now) (hlater : h'.arenas.get? id = some later) :
    later.Continues storable now := by
  rcases hstep.arena_of hsound.counted hlater with ⟨found, hfound, hcontinues⟩ | ⟨hnew, _⟩
  · cases hnow.symm.trans hfound
    exact hcontinues
  · have hnumber := hsound.numbered id now hnow
    rw [hnew] at hnumber
    exact absurd hnumber (UInt32.lt_irrefl _)

/-- What holds inside the bracket of a scope: the scope is open on the frames that the arena had before, and
    the slots of before have got no other content. -/
structure InBracket (h : Heap) (before : Arena) (scope : ScopeId) : Prop where
  within : h.Within before scope
  covered : ∀ now, h.arenas.get? before.id = some now → now.Covers before

/-- A scope that has just been entered is open on the frames of before, and every slot is as it was. -/
theorem inBracket_enter {a : Arena} (hcounted : h.Counted) (harena : h.arenas.get? id = some a) :
    (after (HeapCall.enterScope id).perform h).InBracket a ⟨h.nextScope⟩ := by
  obtain ⟨rfl, _⟩ := hcounted id a harena
  rw [HeapCall.perform, after_silently, after_eq_of_ok (HeapOp.run_enterScope harena)]
  have hnow : (h.setArena { a with frames := ⟨⟨h.nextScope⟩, []⟩ :: a.frames }).arenas.get? a.id =
      some { a with frames := ⟨⟨h.nextScope⟩, []⟩ :: a.frames } := by rw [get?_setArena, if_pos rfl]
  refine ⟨⟨_, hnow, [], ⟨⟨h.nextScope⟩, []⟩, rfl, rfl⟩, fun now hfound => ?_⟩
  cases hnow.symm.trans hfound
  exact ⟨Nat.le_refl _, fun _ _ _ hcontent => hcontent⟩

namespace InBracket

theorem setArena {a : Arena} (hin : h.InBracket before scope)
    (ha : a.id = before.id → Arena.Bracketed scope before.frames a.frames ∧ a.Covers before) :
    (h.setArena a).InBracket before scope := by
  refine ⟨hin.within.setArena fun hsame => (ha hsame).1, fun now hnow => ?_⟩
  rw [get?_setArena] at hnow
  by_cases hsame : before.id = a.id
  · rw [if_pos hsame] at hnow
    cases hnow
    exact (ha hsame.symm).2
  · rw [if_neg hsame] at hnow
    exact hin.covered now hnow

/-- Whatever a step stores, it stores in a new slot. -/
theorem step (hin : h.InBracket before scope) (hsound : h.Sound) (hstep : Step storable h h')
    (hwithin : h'.Within before scope) : h'.InBracket before scope := by
  obtain ⟨⟨now, hnow, _⟩, hcovered⟩ := hin
  refine ⟨hwithin, fun later hlater => ?_⟩
  exact (hcovered now hnow).continues (hstep.arena_continues hsound hnow hlater)

theorem perform (hin : h.InBracket before scope) (hsound : h.Sound) (call : HeapCall)
    (hinside : ∀ now, h.arenas.get? before.id = some now → call.StaysInside before now) :
    (after call.perform h).InBracket before scope := by
  have hwithin : (after call.perform h).Within before scope :=
    (hin.within.perform_spec hsound call hinside).after (P := fun h => h.Within before scope) hin.within
      fun _ _ hwithin => hwithin
  rcases (call.step_perform h).after_eq_or with hsame | ⟨_, hstep⟩
  · rwa [hsame]
  · exact hin.step hsound hstep hwithin

theorem allocateContent (hin : h.InBracket before scope) (hsound : h.Sound) {content : Content}
    {address : Address} (hrun : (HeapOp.allocateContent id content).run h = .ok address h') :
    h'.InBracket before scope := by
  have hallocate : AllOrNothing (HeapOp.allocateContent id content) h
      fun _ h' => Step (fun _ => True) h h' := HeapOp.step_allocateContent trivial id h
  exact hin.step hsound (hallocate.of_ok hrun) (hin.within.allocateContent hsound.counted hrun)

/-- An entity may be exchanged in a slot that is new, or in another arena. -/
theorem putEntity (hin : h.InBracket before scope) (hcounted : h.Counted) {address : Address}
    {content : Content} (hstored : h.content? address = some content)
    (hnew : address.arena = before.id → before.slots.size ≤ address.offset.toNat) (e : Entity) :
    (h.putEntity address e).InBracket before scope := by
  obtain ⟨a, slot, harena, hslot, _⟩ := exists_slot_of_content hstored
  have hid := (hcounted _ a harena).1
  rw [putEntity_eq harena hslot]
  refine hin.setArena fun hsame => ?_
  have hhere : address.arena = before.id := hid.symm.trans hsame
  have hframes : Arena.Bracketed scope before.frames a.frames := hin.within.bracketed harena hhere
  exact ⟨hframes, (hin.covered a (hhere ▸ harena)).replaceSlot hslot (hnew hhere) _⟩

end InBracket

/-- Leaving one scope after another changes nothing but the arena, of which it uncovers the frames outside. -/
theorem run_exits {inner outer : List Frame} (hsound : h.Sound) (hnow : h.arenas.get? id = some now)
    (hframes : now.frames = inner ++ outer) (houter : outer ≠ []) :
    ∃ later, h.run (.replicate inner.length (.exitScope id)) = h.setArena later ∧ later.id = id ∧
      later.frames = outer ∧ later.Follows now := by
  induction inner generalizing h now with
  | nil =>
    have hid := (hsound.counted id now hnow).1
    refine ⟨now, ?_, hid, hframes, .refl now⟩
    rw [setArena_self hid hnow]
    rfl
  | cons frame inner ih =>
    rw [List.cons_append] at hframes
    obtain ⟨hid, hgivenFrames, _⟩ := hsound.counted.giveBackAll hnow hframes
    have hrest : inner ++ outer ≠ [] := List.append_ne_nil_of_right_ne_nil inner houter
    have hafter : after (HeapCall.exitScope id).perform h =
        h.setArena (Arena.giveBackAll frame.held { now with frames := inner ++ outer }).1 := by
      rw [HeapCall.perform, after_silently, after_eq_of_ok (HeapOp.run_exitScope hnow hframes),
        hsound.counted.withoutSpent_exit hnow hframes, if_neg hrest]
    have hsoundAfter : (after (HeapCall.exitScope id).perform h).Sound := hsound.run [.exitScope id]
    rw [hafter] at hsoundAfter
    obtain ⟨later, hrun, hlaterId, hlaterFrames, hfollows⟩ :=
      ih hsoundAfter (by rw [get?_setArena, if_pos hid.symm]) hgivenFrames
    refine ⟨later, ?_, hlaterId, hlaterFrames, hfollows.trans ((Arena.Follows.giveBackAll ..).trans
      (.withFrames now (inner ++ outer)))⟩
    rw [List.length_cons, List.replicate_succ, run, List.foldl_cons, hafter, ← run, hrun]
    simp only [setArena, hlaterId, hid, Dictionary.insert_insert]

/-- Leaving one scope after another uncovers the frames outside, and stores nothing. -/
theorem leave {inner outer : List Frame} (hsound : h.Sound) (hnow : h.arenas.get? id = some now)
    (hframes : now.frames = inner ++ outer) (houter : outer ≠ []) :
    ∃ later, (h.run (.replicate inner.length (.exitScope id))).arenas.get? id = some later ∧
      later.frames = outer ∧ later.Follows now := by
  obtain ⟨later, hrun, hid, hlater⟩ := run_exits hsound hnow hframes houter
  exact ⟨later, by rw [hrun, get?_setArena, if_pos hid.symm], hlater⟩

end Heap

end CapabilityArena
