import CapabilityArena.Proofs.Arena.Dropping
import CapabilityArena.Proofs.Heap.Holding
import CapabilityArena.Proofs.Heap.Teardown
import CapabilityArena.Proofs.Realm.Unwinding

/-!
What is reported about the exit of a scope. The exit gives back what the innermost frame holds and nothing
else, and its report says which slots went with that, in the order in which they went.
-/

namespace CapabilityArena

/-- What a report says about leaving a frame of an arena: the scope of the frame and the number of its holds,
    the slots that were live before and are not live any more, each once, those first whose earliest hold is
    the latest, and whether the arena is gone. -/
structure ScopeExit.Reports (exit : ScopeExit) (id : ArenaId) (frame : Frame) (before after : Heap) : Prop where
  scope_eq : exit.scope = frame.id
  released_eq : exit.released = frame.held.length
  nodup : exit.dropped.Nodup
  mem_dropped : ∀ address, address ∈ exit.dropped ↔
    address.arena = id ∧ before.isLive address = true ∧ after.isLive address = false
  ordered : exit.dropped.Pairwise fun first second => frame.earliest second < frame.earliest first
  tornDown_iff : exit.tornDown = true ↔ after.hasArena id = false

namespace Heap

variable {h h' : Heap} {id : ArenaId} {now : Arena} {frame : Frame} {outer : List Frame} {exit : ScopeExit}
  {scope : ScopeId}

/-- Leaving the last scope of an arena removes the arena; leaving any other uncovers the frames outside. -/
theorem exit_uncovers (hsound : h.Sound) (hnow : h.arenas.get? id = some now)
    (hframes : now.frames = frame :: outer) (hexit : (HeapOp.exitScope id).run h = .ok exit h') :
    (outer = [] → h' = h.retire id) ∧
      (outer ≠ [] → ∃ later, h' = h.setArena later ∧ later.Uncovers now [frame] outer) := by
  have hafter : h.run [.exitScope id] = h' :=
    (after_silently (HeapOp.exitScope id) h).trans (after_eq_of_ok hexit)
  refine ⟨fun hlast => ?_, fun houter => ?_⟩
  · cases (HeapOp.run_exitScope hnow hframes).symm.trans hexit
    rw [hsound.counted.withoutSpent_exit hnow hframes, if_pos hlast]
  · have hsplit : now.frames = [frame] ++ outer := hframes
    rw [← hafter]
    exact exits_uncover hsound hnow hsplit houter

theorem sound_exit (hsound : h.Sound) (hexit : (HeapOp.exitScope id).run h = .ok exit h') : h'.Sound := by
  have hstep : AllOrNothing _ h fun _ h' => Step (fun _ => False) h h' := HeapOp.step_exitScope id h
  exact hsound.step (hstep.of_ok hexit)

section Exit

variable (hsound : h.Sound) (hnow : h.arenas.get? id = some now) (hframes : now.frames = frame :: outer)
  (hexit : (HeapOp.exitScope id).run h = .ok exit h')

include hnow hframes in
theorem held_frames : h.held id = frame.held ++ outer.flatMap (·.held) := by
  rw [held_eq hnow, Arena.held, hframes, List.flatMap_cons]

include hsound hnow hframes hexit

theorem others_exit (other : ArenaId) (hother : other ≠ id) :
    h'.arenas.get? other = h.arenas.get? other := by
  obtain ⟨hlast, hopen⟩ := exit_uncovers hsound hnow hframes hexit
  by_cases houter : outer = []
  · rw [hlast houter, retire, Dictionary.get?_erase_of_ne _ hother]
  · obtain ⟨later, rfl, huncovers⟩ := hopen houter
    have hid : later.id = id := huncovers.id_eq.trans (hsound.counted id now hnow).1
    rw [get?_setArena, if_neg (hid ▸ hother)]

/-- After the exit the frames outside hold what they held before, and other arenas are as they were. -/
theorem held_exit (query : ArenaId) :
    h'.held query = if query = id then outer.flatMap (·.held) else h.held query := by
  by_cases hquery : query = id
  · obtain ⟨hlast, hopen⟩ := exit_uncovers hsound hnow hframes hexit
    rw [if_pos hquery, hquery]
    by_cases houter : outer = []
    · rw [hlast houter, held_retire, houter, List.flatMap_nil]
    · obtain ⟨later, rfl, huncovers⟩ := hopen houter
      rw [← (hsound.counted id now hnow).1, ← huncovers.id_eq, held_setArena, Arena.held, huncovers.frames_eq]
  · rw [if_neg hquery, held, held, others_exit hsound hnow hframes hexit query hquery]

theorem refCount_exit (address : Address) :
    h.refCount address = h'.refCount address + frame.held.count address := by
  have hsoundLater : h'.Sound := sound_exit hsound hexit
  rw [hsound.counted.refCount_eq, hsoundLater.counted.refCount_eq, held_exit hsound hnow hframes hexit]
  by_cases harena : address.arena = id
  · rw [if_pos harena, harena, held_frames hnow hframes, List.count_append, Nat.add_comm]
  · have hnone : address ∉ frame.held := fun hmem =>
      harena (hsound.counted.arena_of_mem_held
        (held_frames hnow hframes ▸ List.mem_append_left _ hmem))
    rw [if_neg harena, List.count_eq_zero.2 hnone, Nat.add_zero]

theorem reports_exit : exit.Reports id frame h h' := by
  have hsoundLater : h'.Sound := sound_exit hsound hexit
  have hcounted := (hsound.counted id now hnow).2
  rw [Arena.held, hframes, List.flatMap_cons] at hcounted
  have hdropped : exit.dropped = frame.held.dedup.filter (· ∉ outer.flatMap (·.held)) := by
    cases (HeapOp.run_exitScope hnow hframes).symm.trans hexit
    exact (hcounted.withFrames outer).dropped_eq
  constructor
  case scope_eq =>
    cases (HeapOp.run_exitScope hnow hframes).symm.trans hexit
    rfl
  case released_eq =>
    cases (HeapOp.run_exitScope hnow hframes).symm.trans hexit
    rfl
  case nodup => exact hdropped ▸ (List.nodup_dedup _).filter _
  case ordered => exact hdropped ▸ (Frame.pairwise_dedup frame.held).filter _
  case mem_dropped =>
    intro address
    have hheld := held_frames hnow hframes
    rw [hdropped, List.mem_filter, List.mem_dedup, decide_eq_true_iff, ← Bool.not_eq_true,
      hsound.counted.isLive_iff, hsoundLater.counted.isLive_iff, held_exit hsound hnow hframes hexit]
    constructor
    · rintro ⟨hmem, hfree⟩
      have hbefore : address ∈ h.held id := hheld ▸ List.mem_append_left _ hmem
      have harena := hsound.counted.arena_of_mem_held hbefore
      rw [if_pos harena]
      exact ⟨harena, harena ▸ hbefore, hfree⟩
    · rintro ⟨rfl, hbefore, hfree⟩
      rw [if_pos rfl] at hfree
      rw [hheld, List.mem_append] at hbefore
      exact ⟨hbefore.resolve_right hfree, hfree⟩
  case tornDown_iff =>
    obtain ⟨found, later, hfound, _, hpresent, _⟩ := hsound.exitScope hnow
    cases hfound.symm.trans hexit
    rw [hpresent]
    cases exit.tornDown <;> simp

end Exit

/-- An exit that is asked for the innermost scope is the exit. -/
theorem run_exitScopeChecked (hinnermost : (h.scopes id).head? = some scope) :
    (HeapOp.exitScopeChecked id scope).run h = (HeapOp.exitScope id).run h := by
  cases hnow : h.arenas.get? id with
  | none => simp [scopes, hnow] at hinnermost
  | some now =>
    rw [scopes_eq hnow, List.head?_map] at hinnermost
    simp only [HeapOp.exitScopeChecked, EStateM.run_bind, HeapOp.run_reading, arena_of_get? hnow, unchanged,
      Arena.innermost?, hinnermost, ↓reduceIte]

/-- An exit that is asked for any other scope is refused. -/
theorem run_exitScopeChecked_of_ne {innermost : ScopeId} (hinnermost : (h.scopes id).head? = some innermost)
    (hne : innermost ≠ scope) : (HeapOp.exitScopeChecked id scope).run h =
      .error (.scopeMismatch id innermost scope) h := by
  cases hnow : h.arenas.get? id with
  | none => simp [scopes, hnow] at hinnermost
  | some now =>
    rw [scopes_eq hnow, List.head?_map] at hinnermost
    simp only [HeapOp.exitScopeChecked, EStateM.run_bind, HeapOp.run_reading, arena_of_get? hnow, unchanged,
      Arena.innermost?, hinnermost, hne, ↓reduceIte]
    rfl

/-- An operation that begins with an arena that is not there stops there. -/
theorem run_arena_bind {α : Type} (hgone : h.arenas.get? id = none) (next : Arena → HeapOp α) :
    (HeapOp.reading (·.arena id) >>= next).run h = .error (.unknownArena id) h := by
  rw [EStateM.run_bind, HeapOp.run_reading, arena, hgone]
  rfl

end Heap

namespace Realm

/-- A scope exit reports exactly what it did, in every heap that calls can reach. An arena that is present has
    an innermost scope, which can be left. Leaving it gives back every hold of its frame: each count goes down
    by the number of times the frame held the address, the frames outside and all other arenas stay as they
    are, and the arena goes when there are no frames outside. What is dropped is what was live in the arena
    and is not any more. A checked exit is the exit if it is asked for the innermost scope; otherwise it
    fails and changes nothing. Counts have no upper bound here, so this holds of counts in words of thirty-two
    bits as long as no slot is held more often than such a word can count. -/
theorem exit_reports_of_run (registry : Registry) (maxSlots maxContexts : Nat) (calls : List RealmCall) :
    let r := (empty registry maxSlots maxContexts).run calls
    (∀ id, r.heap.hasArena id = true → ∃ scope exit h,
      (r.heap.scopes id).head? = some scope ∧ (HeapOp.exitScope id).run r.heap = .ok exit h) ∧
    (∀ id exit h, (HeapOp.exitScope id).run r.heap = .ok exit h → ∃ now frame outer,
      r.heap.arenas.get? id = some now ∧ now.frames = frame :: outer ∧
      exit.Reports id frame r.heap h ∧
      (∀ address, r.heap.refCount address = h.refCount address + frame.held.count address) ∧
      (∀ other, other ≠ id → h.arenas.get? other = r.heap.arenas.get? other) ∧
      (outer = [] → h = r.heap.retire id) ∧
      (outer ≠ [] → ∃ later, h = r.heap.setArena later ∧ later.Uncovers now [frame] outer)) ∧
    (∀ id scope, (r.heap.scopes id).head? = some scope →
      (HeapOp.exitScopeChecked id scope).run r.heap = (HeapOp.exitScope id).run r.heap) ∧
    (∀ id innermost scope, (r.heap.scopes id).head? = some innermost → innermost ≠ scope →
      (HeapOp.exitScopeChecked id scope).run r.heap =
        .error (.scopeMismatch id innermost scope) r.heap) ∧
    (∀ id, r.heap.hasArena id = false →
      (HeapOp.exitScope id).run r.heap = .error (.unknownArena id) r.heap ∧
      ∀ scope, (HeapOp.exitScopeChecked id scope).run r.heap = .error (.unknownArena id) r.heap) := by
  intro r
  have hsound : r.heap.Sound := sound_run (Heap.sound_empty maxSlots) calls
  refine ⟨fun id hpresent => ?possible, fun id exit h hexit => ?reported,
    fun id scope => Heap.run_exitScopeChecked, fun id innermost scope => Heap.run_exitScopeChecked_of_ne,
    fun id hgone => ?gone⟩
  case possible =>
    obtain ⟨now, hnow⟩ := Option.isSome_iff_exists.1 hpresent
    obtain ⟨frame, outer, hframes⟩ := List.exists_cons_of_ne_nil (hsound.framed id now hnow)
    refine ⟨frame.id, _, _, ?_, HeapOp.run_exitScope hnow hframes⟩
    rw [Heap.scopes_eq hnow, hframes, List.map_cons, List.head?_cons]
  case reported =>
    obtain ⟨now, frame, outer, hnow, hframes, _⟩ := (HeapOp.exitScope_spec id r.heap).of_ok hexit
    obtain ⟨hlast, hopen⟩ := Heap.exit_uncovers hsound hnow hframes hexit
    exact ⟨now, frame, outer, hnow, hframes, Heap.reports_exit hsound hnow hframes hexit,
      Heap.refCount_exit hsound hnow hframes hexit, Heap.others_exit hsound hnow hframes hexit, hlast, hopen⟩
  case gone =>
    have hnone : r.heap.arenas.get? id = none := by
      rwa [Heap.hasArena, Dictionary.contains, Option.isSome_eq_false_iff, Option.isNone_iff_eq_none] at hgone
    exact ⟨Heap.run_arena_bind hnone _, fun scope => Heap.run_arena_bind hnone _⟩

/-- Three slots, of which the inner scope holds the first once and the second twice, and the outer one holds
    the first. -/
def overlapping : List RealmCall :=
  [.heap .createArena, .heap (.allocate ⟨1⟩ (.int 7)), .heap (.enterScope ⟨1⟩),
    .heap (.retain (.ofParts ⟨1⟩ 0)), .heap (.allocate ⟨1⟩ .null), .heap (.allocate ⟨1⟩ .null),
    .heap (.retain (.ofParts ⟨1⟩ 1))]

theorem exit_reports_overlapping : ∃ exit h,
    (HeapOp.exitScope ⟨1⟩).run ((empty .empty 8 8).run overlapping).heap = .ok exit h ∧
    exit = ⟨⟨2⟩, 4, [.ofParts ⟨1⟩ 2, .ofParts ⟨1⟩ 1], false⟩ ∧
    h.isLive (.ofParts ⟨1⟩ 0) = true ∧ h.isLive (.ofParts ⟨1⟩ 1) = false ∧
    (HeapOp.exitScopeChecked ⟨1⟩ ⟨2⟩).run ((empty .empty 8 8).run overlapping).heap = .ok exit h ∧
    (HeapOp.exitScopeChecked ⟨1⟩ ⟨1⟩).run ((empty .empty 8 8).run overlapping).heap =
      .error (.scopeMismatch ⟨1⟩ ⟨2⟩ ⟨1⟩) ((empty .empty 8 8).run overlapping).heap := by
  obtain ⟨_, hreported, hchecked, hstray, _⟩ := exit_reports_of_run .empty 8 8 overlapping
  obtain ⟨now, frame, outer, hnow, hframes, hreports, _⟩ := hreported ⟨1⟩ _ _ rfl
  have hsecond := (hreports.mem_dropped (.ofParts ⟨1⟩ 1)).1 (.tail _ (.head _))
  exact ⟨_, _, rfl, rfl, rfl, hsecond.2.2, hchecked ⟨1⟩ ⟨2⟩ rfl, hstray ⟨1⟩ ⟨2⟩ ⟨1⟩ rfl (by decide)⟩

end Realm

end CapabilityArena
