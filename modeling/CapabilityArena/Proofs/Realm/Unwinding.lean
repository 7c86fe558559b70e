import CapabilityArena.Proofs.Arena.Dropping
import CapabilityArena.Proofs.Heap.Bracket
import CapabilityArena.Proofs.Scopes

/-!
Leaving the scope of a body, however the body ends. If the scope is still open, it is left together with the
scopes inside, and the arena goes on with the frames outside; if it is not, no scope is left at all. What is
reported is the failure of the body, or else what the body did to the scopes.
-/

namespace CapabilityArena

namespace HeapOp

variable {h : Heap} {id : ArenaId} {now : Arena} {scope : ScopeId} {frame own : Frame}
  {inside outer : List Frame}

/-- Leaving the innermost scope succeeds, and leaves what the call leaves. -/
theorem exists_exit (hnow : h.arenas.get? id = some now) (hframes : now.frames = frame :: outer) :
    ∃ exit, exit.scope = frame.id ∧ (exitScope id).run h = .ok exit (h.run [.exitScope id]) := by
  have hexit := run_exitScope hnow hframes
  refine ⟨_, rfl, hexit.trans (congrArg _ ?_)⟩
  exact (after_eq_of_ok hexit).symm.trans (after_silently (exitScope id) h).symm

/-- As many scopes can be left, one after another, as there are frames. -/
theorem exists_exit_after {exits : Nat} (hsound : h.Sound) (hnow : h.arenas.get? id = some now)
    (hframes : now.frames = inside ++ own :: outer) (hexits : exits ≤ inside.length) :
    ∃ exit, (exitScope id).run (h.run (.replicate exits (.exitScope id))) =
      .ok exit (h.run (.replicate (exits + 1) (.exitScope id))) := by
  have hsplit : now.frames = inside.take exits ++ (inside.drop exits ++ own :: outer) := by
    rw [← List.append_assoc, List.take_append_drop, hframes]
  obtain ⟨later, hlater, hlaterFrames, _⟩ := Heap.leave hsound hnow hsplit (by simp)
  rw [List.length_take_of_le hexits] at hlater
  have hrest : inside.drop exits ++ own :: outer ≠ [] := by simp
  obtain ⟨next, rest, hnext⟩ := List.exists_cons_of_ne_nil hrest
  obtain ⟨exit, _, hexit⟩ := exists_exit hlater (hlaterFrames.trans hnext)
  refine ⟨exit, hexit.trans (congrArg _ ?_)⟩
  rw [List.replicate_succ', Heap.run, Heap.run, Heap.run, List.foldl_append]

/-- Leaving scopes until one has been left leaves those inside and that one, in any number of rounds that is
    enough for them. The first of the others is the stray one. -/
theorem run_exitThrough (stray : Option ScopeId) {rounds : Nat} (hsound : h.Sound)
    (hnow : h.arenas.get? id = some now) (hframes : now.frames = inside ++ own :: outer)
    (hinside : ∀ frame ∈ inside, frame.id ≠ own.id) (hrounds : inside.length < rounds) :
    (exitThrough id own.id rounds stray).run h =
      .ok (stray.or (inside.head?.map (·.id))) (h.run (.replicate (inside.length + 1) (.exitScope id))) := by
  induction inside generalizing h now rounds stray with
  | nil =>
    obtain ⟨rounds, rfl⟩ : ∃ fewer, rounds = fewer + 1 := ⟨rounds - 1, by omega⟩
    obtain ⟨exit, hscope, hexit⟩ := exists_exit hnow hframes
    rw [exitThrough, EStateM.run_bind, hexit]
    simp only [hscope, ↓reduceIte, EStateM.run_pure, List.head?_nil, Option.map_none, Option.or_none]
    rfl
  | cons frame inside ih =>
    obtain ⟨rounds, rfl⟩ : ∃ fewer, rounds = fewer + 1 := ⟨rounds - 1, by omega⟩
    obtain ⟨exit, hscope, hexit⟩ := exists_exit hnow hframes
    have hne : exit.scope ≠ own.id := hscope ▸ hinside frame List.mem_cons_self
    -- The frame of the scope is still there, so the arena is, too.
    have hsplit : now.frames = [frame] ++ (inside ++ own :: outer) := hframes
    obtain ⟨later, hlater, hlaterFrames, _⟩ := Heap.leave hsound hnow hsplit (by simp)
    have hrest := ih (stray.or (some exit.scope)) (hsound.run [.exitScope id]) hlater hlaterFrames
      (fun found hfound => hinside found (List.mem_cons_of_mem _ hfound)) (Nat.lt_of_succ_lt_succ hrounds)
    rw [exitThrough, EStateM.run_bind, hexit]
    simp only [hne, ↓reduceIte]
    refine hrest.trans (congrArg (EStateM.Result.ok · _) ?_)
    cases stray <;> simp [hscope]

/-- What is reported about a scope that was left late, early, or not at all. -/
theorem run_unwind_open (hsound : h.Sound) (hnow : h.arenas.get? id = some now)
    (hframes : now.frames = inside ++ own :: outer) (hinside : ∀ frame ∈ inside, frame.id ≠ own.id) :
    (unwind id own.id).run h = unchanged (h.run (.replicate (inside.length + 1) (.exitScope id)))
      (match inside with
        | [] => .ok ()
        | stray :: _ => .error (.scopeMismatch id stray.id own.id)) := by
  have hopen : ¬ now.frames.all (·.id ≠ own.id) = true := by simp [hframes]
  have hrounds : inside.length < now.frames.length := by simp [hframes]
  have hexits := run_exitThrough none hsound hnow hframes hinside hrounds
  rw [unwind, EStateM.run_bind, run_reading, Heap.arena_of_get? hnow]
  simp only [unchanged, hopen, Bool.false_eq_true, ↓reduceIte, EStateM.run_bind, hexits]
  cases inside <;> rfl

theorem run_unwind_left (hnow : h.arenas.get? id = some now) (hleft : ∀ frame ∈ now.frames, frame.id ≠ scope) :
    (unwind id scope).run h = .error (.noActiveScope id) h := by
  have hclosed : now.frames.all (·.id ≠ scope) = true := by simpa using hleft
  rw [unwind, EStateM.run_bind, run_reading, Heap.arena_of_get? hnow]
  simp only [unchanged, hclosed, ↓reduceIte]
  rfl

theorem run_unwind_gone (hgone : h.arenas.get? id = none) :
    (unwind id scope).run h = .error (.unknownArena id) h := by
  rw [unwind, EStateM.run_bind, run_reading, Heap.arena, hgone]
  rfl

end HeapOp

/-- An arena after the frames over others have been left: the frames outside are what they were, and every
    slot has given back as many counts as the frames that are gone had holds of it. -/
structure Arena.Uncovers (later now : Arena) (gone outer : List Frame) : Prop where
  id_eq : later.id = now.id
  frames_eq : later.frames = outer
  size_eq : later.slots.size = now.slots.size
  slots_less : ∀ (offset : UInt32) slot, now.slots[offset.toNat]? = some slot →
    (gone.flatMap (·.held)).count (now.addressAt offset) ≤ slot.count ∧
    later.slots[offset.toNat]? = some (slot.less ((gone.flatMap (·.held)).count (now.addressAt offset)))

namespace Heap

variable {h : Heap} {id : ArenaId} {now : Arena} {scope : ScopeId} {gone outer : List Frame}

theorem exits_uncover (hsound : h.Sound) (hnow : h.arenas.get? id = some now)
    (hframes : now.frames = gone ++ outer) (houter : outer ≠ []) :
    ∃ later, h.run (.replicate gone.length (.exitScope id)) = h.setArena later ∧
      later.Uncovers now gone outer := by
  obtain ⟨later, hrun, hid, hlaterFrames, hfollows⟩ := run_exits hsound hnow hframes houter
  have hcounted := (hsound.counted id now hnow).2
  rw [Arena.held, hframes, List.flatMap_append] at hcounted
  have hcountedLater := (hsound.run (.replicate gone.length (.exitScope id))).counted id later
    (by rw [hrun, get?_setArena, if_pos hid.symm])
  have hrest := hcountedLater.2
  rw [Arena.held, hlaterFrames] at hrest
  exact ⟨later, hrun, hfollows.id_eq, hlaterFrames, hfollows.size_eq,
    fun offset slot hslot => hcounted.slots_less hrest hfollows hslot⟩

/-- An open scope that is not the outermost has a frame, with others around it. -/
theorem exists_split (hapart : h.ScopesApart) (hinside : h.StandsInside scope id)
    (hnow : h.arenas.get? id = some now) (hopen : scope ∈ h.scopes id) :
    ∃ inside own outer, now.frames = inside ++ own :: outer ∧ own.id = scope ∧
      (∀ frame ∈ inside, frame.id ≠ own.id) ∧ outer ≠ [] ∧ scope ∉ outer.map (·.id) := by
  rw [scopes_eq hnow] at hopen
  obtain ⟨own, hmem, rfl⟩ := List.mem_map.1 hopen
  obtain ⟨inside, outer, hframes⟩ := List.append_of_mem hmem
  obtain ⟨hinner, houter⟩ := hapart.apart_of_frames hnow hframes
  refine ⟨inside, own, outer, hframes, rfl, hinner, ?_, houter⟩
  rintro rfl
  apply hinside.2
  rw [scopes_eq hnow, hframes, List.map_append, List.map_singleton, List.getLast?_concat]

/-- A scope that has just been entered has a number of its own, and stands inside the scopes that were there
    before. -/
theorem enters (hsound : h.Sound) (hapart : h.ScopesApart) (hnow : h.arenas.get? id = some now) :
    let entered := after (HeapOp.enterScope id) h
    entered.BelongsTo ⟨h.nextScope⟩ id ∧ entered.StandsInside ⟨h.nextScope⟩ id := by
  intro entered
  have hentered := after_eq_of_ok (HeapOp.run_enterScope hnow)
  have hnext : entered.nextScope = h.nextScope + 1 := congrArg nextScope hentered
  have hscopes : entered.scopes = Function.update h.scopes id (⟨h.nextScope⟩ :: h.scopes id) := by
    obtain ⟨rfl, _⟩ := hsound.counted id now hnow
    rw [scopes_eq hnow]
    exact (congrArg scopes hentered).trans (scopes_setArena h _)
  refine ⟨⟨by rw [hnext]; exact Nat.lt_succ_self _, fun other hmem => ?_⟩,
    by rw [hnext]; exact Nat.lt_succ_self _, fun hlast => ?_⟩
  · by_contra hne
    rw [hscopes, Function.update_of_ne hne] at hmem
    exact hapart.fresh other hmem
  · rw [hscopes, Function.update_self, scopes_eq hnow, List.getLast?_cons_of_ne_nil
      (by simpa using hsound.framed id now hnow), ← scopes_eq hnow] at hlast
    exact hapart.fresh id (List.mem_of_getLast? hlast)

/-- A scope that its own arena has left is nowhere. -/
theorem BelongsTo.not_mem_setArena {scope : ScopeId} (hbelongs : h.BelongsTo scope id) {later : Arena}
    (hid : later.id = id) (hgone : scope ∉ later.frames.map (·.id)) (other : ArenaId) :
    scope ∉ (h.setArena later).scopes other := by
  intro hmem
  rw [scopes_setArena, hid] at hmem
  by_cases hother : other = id
  · rw [hother, Function.update_self] at hmem
    exact hgone hmem
  · rw [Function.update_of_ne hother] at hmem
    exact hother (hbelongs.2 other hmem)

end Heap

namespace RealmOp

variable {α : Type} {r : Realm} {id : ArenaId} {scope : ScopeId}

theorem run_outcome (op : RealmOp α) (r : Realm) :
    (outcome op).run r = .ok (ending op r) (after op r) := by
  simp only [outcome, ending, after, EStateM.run]
  cases op r <;> rfl

theorem run_onHeap {op : HeapOp α} {h : Heap} {result : Except Failure α}
    (hrun : op.run r.heap = unchanged h result) :
    (onHeap op).run r = unchanged { r with heap := h } result := by
  simp only [EStateM.run] at hrun
  simp only [onHeap, EStateM.run, hrun]
  cases result <;> rfl

/-- A body in a scope of its own ends with its failure, or with that of leaving its scope. -/
theorem run_withScope {body : ScopeId → RealmOp α} {entered : Realm} {h : Heap} {result : Except Failure Unit}
    (henter : (onHeap (HeapOp.enterScope id)).run r = .ok scope entered)
    (hunwind : (HeapOp.unwind id scope).run (after (body scope) entered).heap = unchanged h result) :
    (withScope id body).run r = unchanged { after (body scope) entered with heap := h }
      (match ending (body scope) entered, result with
        | .error failure, _ => .error failure
        | .ok _, .error failure => .error failure
        | .ok a, .ok _ => .ok a) := by
  have hleave := run_onHeap (r := after (body scope) entered) hunwind
  rw [withScope, EStateM.run_bind, henter]
  simp only [EStateM.run_bind, run_outcome, finishScope, ending_eq_of_run hleave, after_eq_of_run hleave]
  cases ending (body scope) entered with
  | error failure => rfl
  | ok a => cases result <;> rfl

end RealmOp

namespace Realm

section Ends

variable {α : Type} {r entered : Realm} {id : ArenaId} {scope : ScopeId} {body : ScopeId → RealmOp α}

/-- What is reported of a scope that a body has left open, with the scopes inside it. -/
def openReport (id : ArenaId) (scope : ScopeId) (ended : Except Failure α) (inside : List Frame) :
    Except Failure α :=
  match ended, inside with
  | .error failure, _ => .error failure
  | .ok _, stray :: _ => .error (.scopeMismatch id stray.id scope)
  | .ok a, [] => .ok a

theorem openReport_of_head? {a : α} {inside : List Frame} {outer : List ScopeId}
    (hstray : ∀ frame ∈ inside, frame.id ≠ scope) :
    let scopes := inside.map (·.id) ++ scope :: outer
    (scopes.head? = some scope → openReport id scope (.ok a) inside = .ok a) ∧
      ∀ stray, scopes.head? = some stray → stray ≠ scope →
        openReport id scope (.ok a) inside = .error (.scopeMismatch id stray scope) := by
  cases inside with
  | nil => exact ⟨fun _ => rfl, fun stray hinnermost hne => absurd (Option.some.inj hinnermost).symm hne⟩
  | cons first inside =>
    refine ⟨fun hinnermost => ?_, fun stray hinnermost _ => ?_⟩
    · exact absurd (Option.some.inj hinnermost) (hstray first List.mem_cons_self)
    · cases hinnermost
      rfl

/-- The end of a scope that is still open. -/
theorem withScope_open (henter : (RealmOp.onHeap (HeapOp.enterScope id)).run r = .ok scope entered)
    (hsound : (after (body scope) entered).heap.Sound)
    (hapart : (after (body scope) entered).heap.ScopesApart)
    (hinside : (after (body scope) entered).heap.StandsInside scope id)
    (hopen : scope ∈ (after (body scope) entered).heap.scopes id) :
    let left := after (body scope) entered
    ∃ now later inside own outer,
      left.heap.arenas.get? id = some now ∧ now.frames = inside ++ own :: outer ∧ own.id = scope ∧
      (∀ frame ∈ inside, frame.id ≠ scope) ∧ outer ≠ [] ∧ scope ∉ outer.map (·.id) ∧
      later.Uncovers now (inside ++ [own]) outer ∧
      left.heap.run (.replicate (inside.length + 1) (.exitScope id)) = left.heap.setArena later ∧
      (RealmOp.withScope id body).run r = unchanged { left with heap := left.heap.setArena later }
        (openReport id scope (ending (body scope) entered) inside) := by
  intro left
  obtain ⟨now, hnow⟩ : ∃ now, left.heap.arenas.get? id = some now := by
    refine Option.ne_none_iff_exists'.1 fun hnone => ?_
    rw [Heap.scopes, hnone] at hopen
    cases hopen
  obtain ⟨inside, own, outer, hframes, rfl, hstray, houter, hgone⟩ :=
    Heap.exists_split hapart hinside hnow hopen
  have hsplit : now.frames = (inside ++ [own]) ++ outer := by rw [hframes, List.append_cons]
  obtain ⟨later, hexits, huncovers⟩ := Heap.exits_uncover hsound hnow hsplit houter
  rw [List.length_append, List.length_singleton] at hexits
  refine ⟨now, later, inside, own, outer, hnow, hframes, rfl, hstray, houter, hgone, huncovers, hexits, ?_⟩
  have hunwind := HeapOp.run_unwind_open hsound hnow hframes hstray
  rw [hexits] at hunwind
  refine (RealmOp.run_withScope henter hunwind).trans (congrArg (unchanged _) ?_)
  cases ending (body own.id) entered with
  | error failure => rfl
  | ok a => cases inside <;> rfl

/-- The end of a scope that is not open any more. -/
theorem withScope_left (henter : (RealmOp.onHeap (HeapOp.enterScope id)).run r = .ok scope entered)
    (hclosed : scope ∉ (after (body scope) entered).heap.scopes id) :
    let left := after (body scope) entered
    (RealmOp.withScope id body).run r = unchanged left
      (match ending (body scope) entered with
        | .error failure => .error failure
        | .ok _ => .error (if left.heap.hasArena id then .noActiveScope id else .unknownArena id)) := by
  intro left
  have hunwind : (HeapOp.unwind id scope).run left.heap = unchanged left.heap
      (.error (if left.heap.hasArena id then .noActiveScope id else .unknownArena id)) := by
    cases hnow : left.heap.arenas.get? id with
    | none =>
      rw [HeapOp.run_unwind_gone hnow, Heap.hasArena, Dictionary.contains, hnow]
      rfl
    | some now =>
      have hframes : ∀ frame ∈ now.frames, frame.id ≠ scope := by
        rintro frame hframe rfl
        rw [Heap.scopes_eq hnow] at hclosed
        exact hclosed (List.mem_map_of_mem hframe)
      rw [HeapOp.run_unwind_left hnow hframes, Heap.hasArena, Dictionary.contains, hnow]
      rfl
  refine (RealmOp.run_withScope henter hunwind).trans (congrArg (unchanged _) ?_)
  cases ending (body scope) entered <;> rfl

/-- Where a body ends: its scope could be entered, and whatever the body has done by calls, the scope belongs
    to its arena alone and stands inside another if it stands at all. -/
theorem left_of_body {a : Arena} (hsound : r.heap.Sound) (hapart : r.heap.ScopesApart)
    (harena : r.heap.arenas.get? id = some a)
    (hbody : ByCalls RealmCall.perform (body ⟨r.heap.nextScope⟩)) :
    let scope : ScopeId := ⟨r.heap.nextScope⟩
    let entered := after (RealmOp.onHeap (HeapOp.enterScope id)) r
    let left := after (body scope) entered
    (RealmOp.onHeap (HeapOp.enterScope id)).run r = .ok scope entered ∧
      left.heap.Sound ∧ left.heap.ScopesApart ∧
      left.heap.BelongsTo scope id ∧ left.heap.StandsInside scope id := by
  intro scope entered left
  have henter : (RealmOp.onHeap (HeapOp.enterScope id)).run r = .ok scope entered := by
    have hheap : (HeapOp.enterScope id).run r.heap = unchanged _ (.ok scope) := HeapOp.run_enterScope harena
    have hrun := RealmOp.run_onHeap hheap
    exact hrun.trans (congrArg _ (after_eq_of_run hrun).symm)
  have hentered : entered.heap.BelongsTo scope id ∧ entered.heap.StandsInside scope id := by
    have hheap : entered.heap = after (HeapOp.enterScope id) r.heap :=
      congrArg heap (RealmOp.after_onHeap (HeapOp.enterScope id) r)
    rw [hheap]
    exact Heap.enters hsound hapart harena
  -- Entering the scope is a call as well, so the body ends after a run from the start.
  have hrun : entered = r.run [.heap (.enterScope id)] := by
    change _ = after (RealmCall.perform (.heap (.enterScope id))) r
    rw [RealmOp.after_perform_heap, HeapCall.perform, after_silently, ← RealmOp.after_onHeap]
  have hsoundEntered : entered.heap.Sound := hrun ▸ sound_run hsound _
  have hapartEntered : entered.heap.ScopesApart := hrun ▸ scopesApart_run hsound hapart _
  obtain ⟨calls, hcalls⟩ := hbody entered
  have hleft : left = entered.run calls := hcalls
  rw [hleft]
  exact ⟨henter, sound_run hsoundEntered calls, scopesApart_run hsoundEntered hapartEntered calls,
    belongsTo_run hsoundEntered hentered.1 calls, standsInside_run hsoundEntered hentered.2 calls⟩

end Ends

/-- A body in a scope of its own leaves the realm without that scope, for every arena of every realm that calls
    can reach and every body that leaves what calls leave. If the scope is still open when the body has ended,
    it is left together with the scopes inside, each of which can be left: their counts are given back, the
    arena goes on with the frames outside, and nothing else is changed; the loop that leaves them stops by
    itself. If the scope is not open any more, no scope is left. The failure of the body is reported, or else
    whether the scope was the innermost, had others inside, was gone, or was gone with its arena. Counts have no
    upper bound here, so this holds of counts in words of thirty-two bits as long as no slot is held more often
    than such a word can count. -/
theorem withScope_unwinds_of_run {α : Type} (registry : Registry) (maxSlots maxContexts : Nat)
    (earlier : List RealmCall) (id : ArenaId) (body : ScopeId → RealmOp α) :
    let r := (empty registry maxSlots maxContexts).run earlier
    let scope : ScopeId := ⟨r.heap.nextScope⟩
    let entered := after (RealmOp.onHeap (HeapOp.enterScope id)) r
    let left := after (body scope) entered
    let done := after (RealmOp.withScope id body) r
    r.heap.hasArena id = true → ByCalls RealmCall.perform (body scope) →
    (RealmOp.onHeap (HeapOp.enterScope id)).run r = .ok scope entered ∧
    (∀ other, scope ∉ done.heap.scopes other) ∧
    (scope ∈ left.heap.scopes id → ∃ now later inside own outer,
      left.heap.arenas.get? id = some now ∧ now.frames = inside ++ own :: outer ∧ own.id = scope ∧
      (∀ frame ∈ inside, frame.id ≠ scope) ∧ outer ≠ [] ∧
      later.Uncovers now (inside ++ [own]) outer ∧
      done = { left with heap := left.heap.setArena later } ∧
      (∀ exits ≤ inside.length, ∃ exit, (HeapOp.exitScope id).run
        (left.heap.run (.replicate exits (.exitScope id))) =
          .ok exit (left.heap.run (.replicate (exits + 1) (.exitScope id)))) ∧
      (∀ rounds, inside.length < rounds → (HeapOp.exitThrough id scope rounds none).run left.heap =
        .ok (inside.head?.map (·.id)) done.heap)) ∧
    (scope ∉ left.heap.scopes id → done = left) ∧
    (∀ failure, ending (body scope) entered = .error failure →
      ending (RealmOp.withScope id body) r = .error failure) ∧
    (∀ value, ending (body scope) entered = .ok value →
      ((left.heap.scopes id).head? = some scope → ending (RealmOp.withScope id body) r = .ok value) ∧
      (∀ stray, scope ∈ left.heap.scopes id → (left.heap.scopes id).head? = some stray → stray ≠ scope →
        ending (RealmOp.withScope id body) r = .error (.scopeMismatch id stray scope)) ∧
      (left.heap.hasArena id = true → scope ∉ left.heap.scopes id →
        ending (RealmOp.withScope id body) r = .error (.noActiveScope id)) ∧
      (left.heap.hasArena id = false →
        ending (RealmOp.withScope id body) r = .error (.unknownArena id))) := by
  intro r scope entered left done hpresent hbody
  obtain ⟨a, harena⟩ := Option.isSome_iff_exists.1 hpresent
  have hsound : r.heap.Sound := sound_run (Heap.sound_empty maxSlots) earlier
  have hapart : r.heap.ScopesApart :=
    scopesApart_run (Heap.sound_empty maxSlots) (Heap.scopesApart_empty maxSlots) earlier
  obtain ⟨henter, hsoundLeft, hapartLeft, hbelongs, hinside⟩ :
      (RealmOp.onHeap (HeapOp.enterScope id)).run r = .ok scope entered ∧ left.heap.Sound ∧
        left.heap.ScopesApart ∧ left.heap.BelongsTo scope id ∧ left.heap.StandsInside scope id :=
    left_of_body hsound hapart harena hbody
  refine ⟨henter, ?_⟩
  by_cases hopen : scope ∈ left.heap.scopes id
  · obtain ⟨now, later, inside, own, outer, hnow, hframes, hown, hstray, houter, hgone, huncovers, hexits, hend⟩ :=
      withScope_open henter hsoundLeft hapartLeft hinside hopen
    have hdone : done = { left with heap := left.heap.setArena later } := after_eq_of_run hend
    have hheap : done.heap = left.heap.setArena later := congrArg heap hdone
    have hending : ending (RealmOp.withScope id body) r =
        openReport id scope (ending (body scope) entered) inside := ending_eq_of_run hend
    have hid : later.id = id := huncovers.id_eq.trans (hsoundLeft.counted id now hnow).1
    have hscopes : left.heap.scopes id = inside.map (·.id) ++ scope :: outer.map (·.id) := by
      rw [Heap.scopes_eq hnow, hframes, List.map_append, List.map_cons, hown]
    refine ⟨fun other hmem => ?apart, fun _ => ⟨now, later, inside, own, outer, hnow, hframes, hown, hstray,
      houter, huncovers, hdone, fun exits => HeapOp.exists_exit_after hsoundLeft hnow hframes,
      fun rounds hrounds => ?rounds⟩, absurd hopen, fun failure hfailure => ?failure,
      fun value hvalue => ⟨fun hinnermost => ?innermost, fun stray _ hinnermost hne => ?stray,
        fun _ => absurd hopen, fun hnone => ?gone⟩⟩
    case apart =>
      rw [hheap] at hmem
      exact hbelongs.not_mem_setArena hid (huncovers.frames_eq ▸ hgone) other hmem
    case rounds =>
      have hrounds := HeapOp.run_exitThrough none hsoundLeft hnow hframes (hown.symm ▸ hstray) hrounds
      rw [hown, hexits, Option.none_or] at hrounds
      rw [hheap]
      exact hrounds
    case failure => rw [hending, hfailure, openReport]
    case innermost =>
      rw [hending, hvalue]
      exact (openReport_of_head? hstray).1 (hscopes ▸ hinnermost)
    case stray =>
      rw [hending, hvalue]
      exact (openReport_of_head? hstray).2 stray (hscopes ▸ hinnermost) hne
    case gone =>
      rw [Heap.hasArena, Dictionary.contains, hnow] at hnone
      cases hnone
  · have hend := withScope_left henter hopen
    have hdone : done = left := after_eq_of_run hend
    have hending := ending_eq_of_run hend
    refine ⟨fun other hmem => ?_, fun hmem => absurd hmem hopen, fun _ => hdone, fun failure hfailure => ?_,
      fun value hvalue => ⟨fun hinnermost => ?_, fun stray hmem => absurd hmem hopen, fun hthere _ => ?_,
        fun hnone => ?_⟩⟩
    · rw [hdone] at hmem
      exact hopen (hbelongs.2 other hmem ▸ hmem)
    · rw [hending, hfailure]
    · exact absurd (List.mem_of_head? hinnermost) hopen
    · rw [hending, hvalue]
      exact congrArg Except.error (if_pos hthere)
    · rw [hending, hvalue]
      exact congrArg Except.error (if_neg (by rw [hnone]; exact Bool.false_ne_true))

/-- A value in the root scope of an arena. -/
def oneValue : List RealmCall := [.heap .createArena, .heap (.allocate ⟨1⟩ (.int 7))]

/-- A body that enters a scope, retains the value and allocates one more, and does not leave the scope. -/
def straying : RealmOp Address := do
  let _ ← RealmOp.onHeap (HeapOp.enterScope ⟨1⟩)
  let _ ← RealmOp.onHeap (HeapOp.retain (.ofParts ⟨1⟩ 0))
  RealmOp.onHeap (HeapOp.allocate ⟨1⟩ .null)

theorem byCalls_straying : ByCalls RealmCall.perform straying := by
  refine .bind (RealmOp.byCalls_onHeap (.of_silently (.enterScope ⟨1⟩) rfl)) fun _ => ?_
  refine .bind (RealmOp.byCalls_onHeap (.of_silently (.retain (.ofParts ⟨1⟩ 0)) rfl)) fun _ => ?_
  exact RealmOp.byCalls_onHeap (.of_silently (.allocate ⟨1⟩ .null) rfl)

/-- The arena when the scopes have been left. -/
def tidied : Arena :=
  ⟨⟨1⟩, #[⟨1, some (.value (.int 7))⟩, ⟨0, none⟩], .ofList [0], [⟨⟨1⟩, [.ofParts ⟨1⟩ 0]⟩]⟩

theorem withScope_unwinds_straying : ∃ done,
    (RealmOp.withScope ⟨1⟩ fun _ => straying).run ((empty .empty 8 8).run oneValue) =
      .error (.scopeMismatch ⟨1⟩ ⟨3⟩ ⟨2⟩) done ∧
    (∀ other, ⟨2⟩ ∉ done.heap.scopes other) ∧
    (∃ now inside own outer, tidied.Uncovers now (inside ++ [own]) outer ∧ own.id = ⟨2⟩) ∧
    done.heap.arenas.get? ⟨1⟩ = some tidied := by
  obtain ⟨_, hgone, hopen, _, _, hvalue⟩ :=
    withScope_unwinds_of_run .empty 8 8 oneValue ⟨1⟩ (fun _ => straying) rfl byCalls_straying
  have htidied : (after (RealmOp.withScope ⟨1⟩ fun _ => straying)
      ((empty .empty 8 8).run oneValue)).heap.arenas.get? ⟨1⟩ = some tidied := rfl
  obtain ⟨_, hstray, _⟩ := hvalue _ rfl
  obtain ⟨now, later, inside, own, outer, hnow, _, hown, _, _, huncovers, hdone, _⟩ := hopen (.tail _ (.head _))
  have hlater : later = tidied := by
    have hid : later.id = ⟨1⟩ := huncovers.id_eq.trans (Option.some.inj hnow ▸ rfl)
    rw [congrArg heap hdone, Heap.get?_setArena, if_pos hid.symm] at htidied
    exact Option.some.inj htidied
  refine ⟨_, run_eq .. ▸ ?_, hgone, ⟨now, inside, own, outer, hlater ▸ huncovers, hown⟩, htidied⟩
  rw [hstray ⟨3⟩ (.tail _ (.head _)) rfl (by decide)]
  rfl

end Realm

end CapabilityArena
