import CapabilityArena.Proofs.Heap.Lifetime
import CapabilityArena.Proofs.Heap.Releasing
import CapabilityArena.Proofs.Scopes

/-!
The holds of an open frame over runs. A frame gives back the hold of an address only when no frame inside has
one, whether by a release or because the frame is left; so the holds of an address end from the inside out.
-/

namespace CapabilityArena

/-- What can become of an open frame in one step, with the frames inside it: it stays, it takes a hold, it gives
    back the latest hold of an address that no frame inside holds, or it is left as the innermost. -/
inductive Frame.Fate (frame : Frame) (inner : List Frame) : Option Frame → Prop where
  | kept : Fate frame inner (some frame)
  | held (address : Address) : Fate frame inner (some (frame.hold address))
  | released {address : Address} (hinside : ∀ inside ∈ inner, address ∉ inside.held) :
    Fate frame inner (some { frame with held := frame.held.erase address })
  | left (hinnermost : inner = []) : Fate frame inner none

/-- Fewer holds of an address than before mean that no frame inside holds it. -/
theorem Frame.Fate.not_inside {frame : Frame} {inner : List Frame} {later : Option Frame}
    (hfate : frame.Fate inner later) {address : Address}
    (hfewer : later.elim 0 (·.held.count address) < frame.held.count address) :
    ∀ inside ∈ inner, address ∉ inside.held := by
  cases hfate with
  | kept => exact absurd hfewer (Nat.lt_irrefl _)
  | held other =>
    have hmore : frame.held.count address ≤ (other :: frame.held).count address := List.count_le_count_cons
    exact absurd hfewer (Nat.not_lt.2 hmore)
  | @released other hinside =>
    by_cases hsame : address = other
    · exact hsame ▸ hinside
    · rw [Option.elim_some, List.count_erase_of_ne hsame] at hfewer
      exact absurd hfewer (Nat.lt_irrefl _)
  | left hinnermost => simp [hinnermost]

namespace Heap

/-- The frame of a scope that is open. -/
def frame? (h : Heap) (id : ArenaId) (scope : ScopeId) : Option Frame :=
  (h.arenas.get? id).bind fun a => a.frames.find? (·.id = scope)

variable {h h' : Heap} {id : ArenaId} {now : Arena} {frame : Frame} {inner outer : List Frame}
  {storable : Content → Prop}

theorem frame?_eq (hnow : h.arenas.get? id = some now) (scope : ScopeId) :
    h.frame? id scope = now.frames.find? (·.id = scope) := by
  rw [frame?, hnow, Option.bind_some]

/-- A frame that is open and has a number of its own is found. -/
theorem frame?_split (hnow : h.arenas.get? id = some now) (hframes : now.frames = inner ++ frame :: outer)
    (hapart : ∀ inside ∈ inner, inside.id ≠ frame.id) : h.frame? id frame.id = some frame := by
  rw [frame?_eq hnow, hframes, Arena.find?_split hapart]

/-- Another arena has no part in the fate of a frame; if the arena of the frame is exchanged, its new frames
    decide. -/
theorem fate_setArena {before after : Arena} (hnow : h.arenas.get? id = some now)
    (hframes : now.frames = inner ++ frame :: outer) (hapart : ∀ inside ∈ inner, inside.id ≠ frame.id)
    (hbefore : h.arenas.get? after.id = some before)
    (hsame : before.frames = inner ++ frame :: outer →
      frame.Fate inner (after.frames.find? (·.id = frame.id))) :
    frame.Fate inner ((h.setArena after).frame? id frame.id) := by
  by_cases hid : id = after.id
  · subst hid
    cases hnow.symm.trans hbefore
    rw [frame?_eq (by rw [get?_setArena, if_pos rfl])]
    exact hsame hframes
  · rw [frame?_split (by rw [get?_setArena, if_neg hid, hnow]) hframes hapart]
    exact .kept

theorem fate_changeFirst {kind : Frame → Prop} [DecidablePred kind] {change : Frame → Frame}
    {changed : List Frame} (hchanged : Arena.changeFirst kind change (inner ++ frame :: outer) = some changed)
    (hid : ∀ frame, (change frame).id = frame.id) (hapart : ∀ inside ∈ inner, inside.id ≠ frame.id)
    (hchange : (∀ inside ∈ inner, ¬ kind inside) → frame.Fate inner (some (change frame))) :
    frame.Fate inner (changed.find? (·.id = frame.id)) := by
  rcases Arena.find?_changeFirst hchanged hid hapart with hfound | ⟨_, hinside, hfound⟩
  · rw [hfound]
    exact .kept
  · rw [hfound]
    exact hchange hinside

/-- Of the frames of an arena, an exit takes the innermost and leaves the others open. -/
theorem frame?_exit (hcounted : h.Counted) {left : ArenaId} {a : Arena} {first : Frame} {rest : List Frame}
    (harena : h.arenas.get? left = some a) (hframes : a.frames = first :: rest) (scope : ScopeId) :
    ((h.setArena (Arena.giveBackAll first.held { a with frames := rest }).1).withoutSpent left).frame? id
      scope = if id = left then rest.find? (·.id = scope) else h.frame? id scope := by
  obtain ⟨hid, hgivenFrames, _⟩ := hcounted.giveBackAll harena hframes
  rw [hcounted.withoutSpent_exit harena hframes, frame?, frame?]
  by_cases hlast : rest = []
  · rw [if_pos hlast, retire]
    by_cases hsame : id = left
    · rw [if_pos hsame, hsame, Dictionary.get?_erase_self, hlast]
      rfl
    · rw [if_neg hsame, Dictionary.get?_erase_of_ne _ hsame]
  · rw [if_neg hlast, get?_setArena, hid]
    by_cases hsame : id = left
    · rw [if_pos hsame, if_pos hsame, Option.bind_some, hgivenFrames]
    · rw [if_neg hsame, if_neg hsame]

theorem fate_exit (hcounted : h.Counted) {left : ArenaId} {a : Arena} {first : Frame} {rest : List Frame}
    (hnow : h.arenas.get? id = some now) (hframes : now.frames = inner ++ frame :: outer)
    (hinner : ∀ inside ∈ inner, inside.id ≠ frame.id) (houter : frame.id ∉ outer.map (·.id))
    (harena : h.arenas.get? left = some a) (hrest : a.frames = first :: rest) :
    frame.Fate inner (((h.setArena (Arena.giveBackAll first.held { a with frames := rest }).1).withoutSpent
      left).frame? id frame.id) := by
  rw [frame?_exit hcounted harena hrest]
  by_cases hid : id = left
  · subst hid
    cases hnow.symm.trans harena
    rw [if_pos rfl]
    cases inner with
    | nil =>
      cases hrest.symm.trans hframes
      have hgone : outer.find? (·.id = frame.id) = none := by simpa using houter
      rw [hgone]
      exact .left rfl
    | cons inside inner =>
      cases hrest.symm.trans hframes
      have hopen : (inner ++ frame :: outer).find? (·.id = frame.id) = some frame :=
        Arena.find?_split (List.forall_mem_cons.1 hinner).2
      exact hopen ▸ .kept
  · rw [if_neg hid, frame?_split hnow hframes hinner]
    exact .kept

theorem Step.fate (hstep : Step storable h h') (hsound : h.Sound) (hapart : h.ScopesApart)
    (hnow : h.arenas.get? id = some now) (hframes : now.frames = inner ++ frame :: outer) :
    frame.Fate inner (h'.frame? id frame.id) := by
  have hcounted := hsound.counted
  obtain ⟨hinner, houter⟩ := hapart.apart_of_frames hnow hframes
  cases hstep with
  | create _ =>
    have hother : id ≠ ⟨h.nextArena⟩ := by
      rintro rfl
      cases hnow.symm.trans hsound.get?_nextArena
    have hlater : (h.setArena (.opened ⟨h.nextArena⟩ ⟨h.nextScope⟩)).arenas.get? id = some now :=
      (get?_setArena ..).trans ((if_neg hother).trans hnow)
    exact frame?_split hlater hframes hinner ▸ .kept
  | @enter entered a harena =>
    have hfresh : (⟨h.nextScope⟩ : ScopeId) ≠ frame.id := by
      intro hsame
      apply hapart.fresh id
      rw [hsame, scopes_eq hnow, hframes]
      exact List.mem_map_of_mem (List.mem_append_right _ List.mem_cons_self)
    change frame.Fate inner
      ((h.setArena { a with frames := ⟨⟨h.nextScope⟩, []⟩ :: a.frames }).frame? id frame.id)
    refine fate_setArena hnow hframes hinner ((hcounted _ a harena).1 ▸ harena) fun hsame => ?_
    rw [List.find?_cons_of_neg (by simpa using hfresh), hsame, Arena.find?_split hinner]
    exact .kept
  | exit harena hrest => exact fate_exit hcounted hnow hframes hinner houter harena hrest
  | @allocate grown a first rest address content harena hrest _ _ _ =>
    refine fate_setArena hnow hframes hinner ((hcounted _ a harena).1 ▸ harena) fun hsame => ?_
    have hchanged : Arena.changeFirst (fun _ => True) (·.hold address) (inner ++ frame :: outer) =
        some (first.hold address :: rest) := by
      rw [← hsame, hrest]
      exact if_pos trivial
    exact fate_changeFirst hchanged (fun _ => rfl) hinner fun _ => .held address
  | @refer address scope a slot frames harena _ _ hhold =>
    refine fate_setArena hnow hframes hinner ((hcounted _ a harena).1 ▸ harena) fun hsame => ?_
    rw [Arena.holdIn?_eq, hsame] at hhold
    exact fate_changeFirst hhold (fun _ => rfl) hinner fun _ => .held address
  | @release address a given frames last harena hunhold hgiven =>
    rw [hcounted.withoutSpent_release harena hunhold hgiven, ite_self]
    have hid := (hcounted.giveBack_release harena hunhold hgiven).1
    refine fate_setArena hnow hframes hinner (hid ▸ harena) fun hsame => ?_
    rw [Arena.unholdInnermost?_eq, hsame] at hunhold
    rw [Arena.frames_of_giveBack? hgiven]
    exact fate_changeFirst hunhold (fun _ => rfl) hinner fun hinside => .released hinside

theorem Logged.fate {id? : Option ArenaId} {address? : Option Address} (hlogged : h.Logged h' id? address?)
    (hsound : h.Sound) (hapart : h.ScopesApart) (hnow : h.arenas.get? id = some now)
    (hframes : now.frames = inner ++ frame :: outer) : frame.Fate inner (h'.frame? id frame.id) := by
  obtain ⟨hinner, _⟩ := hapart.apart_of_frames hnow hframes
  rcases hlogged.turn with rfl | ⟨_, hstep⟩ | ⟨address, _, after, hstored, rfl⟩
  · exact frame?_split hnow hframes hinner ▸ .kept
  · exact hstep.fate hsound hapart hnow hframes
  · obtain ⟨a, slot, harena, hslot, _⟩ := exists_slot_of_content hstored
    rw [putEntity_eq harena hslot]
    refine fate_setArena hnow hframes hinner ((hsound.counted _ a harena).1 ▸ harena) fun hsame => ?_
    rw [show (a.replaceSlot address _).frames = _ from hsame, Arena.find?_split hinner]
    exact .kept

end Heap

namespace Realm

/-- A release never fails on a live address and gives back its latest hold, in every heap that calls can reach:
    one hold and one count less, and everything else as it was. On any other address it fails for the reason
    that the address dangles, and changes nothing. A release right after a retain gives back the heap of
    before. Whatever is called, an open frame stays as it is, takes a hold, gives back one that no frame inside
    has as well, or is left as the innermost; so it loses holds of an address only when no frame inside holds
    that address. Counts have no upper bound here, so this holds of counts in words of thirty-two bits as long as
    no slot is held more often than such a word can count. -/
theorem release_latest_of_run (registry : Registry) (maxSlots maxContexts : Nat) (calls : List RealmCall) :
    let r := (empty registry maxSlots maxContexts).run calls
    (∀ address, r.heap.isLive address = true → ∃ count now later,
      r.heap.arenas.get? address.arena = some now ∧ later.id = address.arena ∧ later.Releases now address ∧
      (HeapOp.release address).run r.heap = .ok count (r.heap.setArena later) ∧
      r.heap.refCount address = count + 1 ∧ (r.heap.setArena later).refCount address = count) ∧
    (∀ address, r.heap.isLive address = false →
      (HeapOp.release address).run r.heap = .error (.danglingAddress address) r.heap) ∧
    (∀ address, r.heap.isLive address = true → ∃ retained,
      (HeapOp.retain address).run r.heap = .ok (r.heap.refCount address + 1) retained ∧
      (HeapOp.release address).run retained = .ok (r.heap.refCount address) r.heap) ∧
    (∀ (call : RealmCall) id now inner frame outer, r.heap.arenas.get? id = some now →
      now.frames = inner ++ frame :: outer →
      let later? := (after call.perform r).heap.frame? id frame.id
      frame.Fate inner later? ∧
      ∀ address, later?.elim 0 (·.held.count address) < frame.held.count address →
        ∀ inside ∈ inner, address ∉ inside.held) := by
  intro r
  have hsound : r.heap.Sound := sound_run (Heap.sound_empty maxSlots) calls
  have hapart : r.heap.ScopesApart :=
    scopesApart_run (Heap.sound_empty maxSlots) (Heap.scopesApart_empty maxSlots) calls
  refine ⟨fun address hlive => ?released, fun address hdead => ?dangling,
    fun address => hsound.counted.exists_retain_release,
    fun call id now inner frame outer hnow hframes => ?fate⟩
  case released =>
    obtain ⟨now, later, hnow, hreleases, hrun, hless⟩ := hsound.counted.exists_release hlive
    have hid := hreleases.id_eq.trans (hsound.counted _ now hnow).1
    exact ⟨_, now, later, hnow, hid, hreleases, hrun, hless, rfl⟩
  case dangling =>
    cases hslot : r.heap.slot address with
    | ok slot =>
      rw [Heap.isLive, hslot] at hdead
      cases hdead
    | error failure =>
      rw [Heap.slot_eq_error hslot] at hslot
      exact Heap.run_slot_bind hslot _
  case fate =>
    have hfate := (call.logged hsound.counted).fate hsound hapart hnow hframes
    exact ⟨hfate, fun address => hfate.not_inside⟩

/-- A value held once by an inner scope, and twice by the scope outside, which referred to it later. -/
def heldTwice : List RealmCall :=
  [.heap .createArena, .heap (.allocate ⟨1⟩ (.int 7)), .heap (.enterScope ⟨1⟩),
    .heap (.retain (.ofParts ⟨1⟩ 0)), .heap (.reference (.ofParts ⟨1⟩ 0) ⟨1⟩)]

theorem release_latest_heldTwice :
    (∃ now later : Arena, ((empty .empty 8 8).run heldTwice).heap.arenas.get? ⟨1⟩ = some now ∧
      later.Releases now (.ofParts ⟨1⟩ 0) ∧
      later.frames = [⟨⟨2⟩, []⟩, ⟨⟨1⟩, [.ofParts ⟨1⟩ 0, .ofParts ⟨1⟩ 0]⟩]) ∧
    (HeapOp.release (.ofParts ⟨1⟩ 1)).run ((empty .empty 8 8).run heldTwice).heap =
      .error (.danglingAddress (.ofParts ⟨1⟩ 1)) ((empty .empty 8 8).run heldTwice).heap ∧
    (∃ retained, (HeapOp.retain (.ofParts ⟨1⟩ 0)).run ((empty .empty 8 8).run heldTwice).heap =
        .ok 4 retained ∧
      (HeapOp.release (.ofParts ⟨1⟩ 0)).run retained = .ok 3 ((empty .empty 8 8).run heldTwice).heap) ∧
    ∃ now frame, ((empty .empty 8 8).run (heldTwice ++ [.heap (.release (.ofParts ⟨1⟩ 0))])).heap.arenas.get?
        ⟨1⟩ = some now ∧
      now.frames = [⟨⟨2⟩, []⟩, frame] ∧
      frame.Fate [⟨⟨2⟩, []⟩] (some ⟨⟨1⟩, [.ofParts ⟨1⟩ 0]⟩) ∧
      .ofParts ⟨1⟩ 0 ∉ (⟨⟨2⟩, []⟩ : Frame).held := by
  obtain ⟨hreleased, hdangling, hundone, _⟩ := release_latest_of_run .empty 8 8 heldTwice
  obtain ⟨_, _, _, hfate⟩ :=
    release_latest_of_run .empty 8 8 (heldTwice ++ [.heap (.release (.ofParts ⟨1⟩ 0))])
  obtain ⟨count, now, later, hnow, hid, hreleases, hrun, _⟩ := hreleased (.ofParts ⟨1⟩ 0) rfl
  obtain ⟨hlost, hinside⟩ := hfate (.heap (.release (.ofParts ⟨1⟩ 0))) ⟨1⟩ _ [⟨⟨2⟩, []⟩] _ [] rfl rfl
  have hlater : (after (HeapOp.release (.ofParts ⟨1⟩ 0)) ((empty .empty 8 8).run heldTwice).heap).arenas.get?
      ⟨1⟩ = some later := by
    rw [after_eq_of_ok hrun, Heap.get?_setArena]
    exact if_pos hid.symm
  cases hlater
  exact ⟨⟨now, _, hnow, hreleases, rfl⟩, hdangling _ rfl, hundone _ rfl,
    _, _, rfl, rfl, hlost, hinside (.ofParts ⟨1⟩ 0) (by decide) _ (.head _)⟩

end Realm

end CapabilityArena
