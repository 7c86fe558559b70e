import Mathlib.Logic.Equiv.Basic
import CapabilityArena.Proofs.Scopes

/-!
The isolation of arenas. What becomes of a request is decided by its own arena, the bound on the table of
slots, and the number that the next scope will get; and what it does, it does to that arena (`Effect`). So two
requests on different arenas can change places, and when both of them enter a scope, these two scopes change
numbers.
-/

namespace CapabilityArena

section Sequence

variable {ε σ α β : Type} {s t : σ}

theorem run_bind_pure_of_ok {op : EStateM ε σ β} {f : β → α} {b : β} (hrun : op.run s = .ok b t) :
    (op >>= fun b => pure (f b)).run s = .ok (f b) t := by
  rw [EStateM.run_bind, hrun]
  rfl

theorem after_bind_pure (op : EStateM ε σ β) (f : β → α) (s : σ) :
    after (op >>= fun b => pure (f b)) s = after op s := by
  unfold after
  rw [EStateM.run_bind]
  cases op.run s <;> rfl

theorem run_bind_of_error {op : EStateM ε σ β} {next : β → EStateM ε σ α} {e : ε}
    (hrun : op.run s = .error e t) : (op >>= next).run s = .error e t := by
  rw [EStateM.run_bind, hrun]

end Sequence

/-- What can be asked of a heap: a call, whose answer is of interest now, or a downgrade, which only reads. -/
inductive HeapRequest where
  | call (call : HeapCall)
  | downgrade (address : Address)

inductive HeapAnswer where
  | arena (id : ArenaId)
  | scope (scope : ScopeId)
  | exit (exit : ScopeExit)
  | address (address : Address)
  | count (count : Nat)
  | value (value : Value)

namespace HeapRequest

def ask : HeapRequest → HeapOp HeapAnswer
  | .call .createArena => do return .arena (← HeapOp.createArena)
  | .call (.enterScope id) => do return .scope (← HeapOp.enterScope id)
  | .call (.exitScope id) => do return .exit (← HeapOp.exitScope id)
  | .call (.exitScopeChecked id scope) => do return .exit (← HeapOp.exitScopeChecked id scope)
  | .call (.allocate id value) => do return .address (← HeapOp.allocate id value)
  | .call (.retain address) => do return .count (← HeapOp.retain address)
  | .call (.reference address scope) => do return .address (← HeapOp.reference address scope)
  | .call (.release address) => do return .count (← HeapOp.release address)
  | .downgrade address => do return .value (← HeapOp.reading (·.downgrade address))

/-- The arena that a request is about. A new arena gets the next number. -/
def arena (h : Heap) : HeapRequest → ArenaId
  | .call .createArena => ⟨h.nextArena⟩
  | .call (.enterScope id) => id
  | .call (.exitScope id) => id
  | .call (.exitScopeChecked id _) => id
  | .call (.allocate id _) => id
  | .call (.retain address) => address.arena
  | .call (.reference address _) => address.arena
  | .call (.release address) => address.arena
  | .downgrade address => address.arena

end HeapRequest

/-- What a successful request does to its arena, and what it answers. -/
inductive Effect where
  | change (answer : HeapAnswer) (arena : Arena)
  | tearDown (answer : HeapAnswer)
  | enter (arena : Arena)
  | create

namespace Effect

/-- The answer about an arena, given the number of the next scope. -/
def answer (id : ArenaId) (scope : ScopeId) : Effect → HeapAnswer
  | .change answer _ => answer
  | .tearDown answer => answer
  | .enter _ => .scope scope
  | .create => .arena id

/-- The arena as it is left, if it is. -/
def arena? (id : ArenaId) (scope : ScopeId) : Effect → Option Arena
  | .change _ a => some a
  | .tearDown _ => none
  | .enter a => some { a with frames := ⟨scope, []⟩ :: a.frames }
  | .create => some (.opened id scope)

/-- How many scopes are entered. -/
def scopes : Effect → Nat
  | .change .. => 0
  | .tearDown _ => 0
  | .enter _ => 1
  | .create => 1

/-- How many arenas are opened. -/
def arenas : Effect → UInt32
  | .create => 1
  | _ => 0

/-- The heap in which it has been done. -/
def enact (e : Effect) (id : ArenaId) (h : Heap) : Heap where
  arenas :=
    match e.arena? id ⟨h.nextScope⟩ with
    | some a => h.arenas.insert id a
    | none => h.arenas.erase id
  tornDown := if (e.arena? id ⟨h.nextScope⟩).isSome then h.tornDown else h.tornDown.add id
  nextArena := h.nextArena + e.arenas
  nextScope := h.nextScope + e.scopes
  maxSlots := h.maxSlots

/-- An effect that can be had on this arena: it is filed under its number, a scope is entered in an arena that
    is there, and one that is created has the next number. -/
def Fits (h : Heap) (id : ArenaId) : Effect → Prop
  | .change _ a => a.id = id
  | .tearDown _ => True
  | .enter a => h.arenas.get? id = some a
  | .create => id = ⟨h.nextArena⟩

variable {h : Heap} {id : ArenaId} {answer : HeapAnswer} {a : Arena}

theorem enact_change (hid : a.id = id) : (change answer a).enact id h = h.setArena a := by
  subst hid
  simp [enact, arena?, arenas, scopes, Heap.setArena]

theorem enact_tearDown : (tearDown answer).enact id h = h.retire id := by
  simp [enact, arena?, arenas, scopes, Heap.retire]

theorem enact_enter (hid : a.id = id) : (enter a).enact id h =
    { h.setArena { a with frames := ⟨⟨h.nextScope⟩, []⟩ :: a.frames } with
      nextScope := h.nextScope + 1 } := by
  subst hid
  simp [enact, arena?, arenas, scopes, Heap.setArena]

theorem enact_create : create.enact id h = { h.setArena (.opened id ⟨h.nextScope⟩) with
    nextArena := h.nextArena + 1
    nextScope := h.nextScope + 1 } := by
  simp [enact, arena?, arenas, scopes, Heap.setArena, Arena.opened]

theorem get?_enact (e : Effect) (id : ArenaId) (h : Heap) (query : ArenaId) :
    (e.enact id h).arenas.get? query =
      if query = id then e.arena? id ⟨h.nextScope⟩ else h.arenas.get? query := by
  simp only [enact]
  by_cases hquery : query = id
  · subst hquery
    cases e.arena? query ⟨h.nextScope⟩ <;> simp
  · cases e.arena? id ⟨h.nextScope⟩ with
    | none => simp [hquery, Dictionary.get?_erase_of_ne _ hquery]
    | some a => simp [hquery, Dictionary.get?_insert_of_ne _ _ hquery]

end Effect

namespace Heap

variable {g h : Heap} {address : Address}

theorem slot_congr (hsame : g.arenas.get? address.arena = h.arenas.get? address.arena) :
    g.slot address = h.slot address := by
  rw [slot, slot, hsame]

theorem refCount_setArena {a : Arena} (hid : a.id = address.arena) (g h : Heap) :
    (g.setArena a).refCount address = (h.setArena a).refCount address := by
  rw [refCount, refCount, slot_congr]
  rw [get?_setArena, get?_setArena, hid, if_pos rfl, if_pos rfl]

end Heap

namespace HeapOp

variable {h : Heap} {id : ArenaId} {address : Address} {scope : ScopeId}

/-- What leaving a scope answers and does is all decided by the arena. -/
theorem exists_exitScope (a : Arena) {frame : Frame} {outer : List Frame}
    (hframes : a.frames = frame :: outer) : ∃ exit, ∀ g : Heap, g.Sound → g.arenas.get? id = some a →
      (exitScope id).run g = .ok exit (if outer = [] then g.retire id
        else g.setArena (Arena.giveBackAll frame.held { a with frames := outer }).1) := by
  refine ⟨⟨frame.id, frame.held.length, (Arena.giveBackAll frame.held { a with frames := outer }).2,
    (Arena.giveBackAll frame.held { a with frames := outer }).1.isSpent⟩, fun g hsound harena => ?_⟩
  obtain ⟨hid, _, _⟩ := hsound.counted.giveBackAll harena hframes
  have hexit := run_exitScope harena hframes
  simp only [hsound.counted.withoutSpent_exit harena hframes, Heap.get?_setArena, hid, ↓reduceIte,
    Option.any_some] at hexit
  exact hexit

/-- A reference, too, is decided by the arena of the address. -/
theorem exists_reference (hsound : h.Sound) (address : Address) (scope : ScopeId) :
    ∃ outcome : Except Failure Arena, (∀ a, outcome = .ok a → a.id = address.arena) ∧
      ∀ g : Heap, g.arenas.get? address.arena = h.arenas.get? address.arena →
        (reference address scope).run g =
          match outcome with
          | .ok a => .ok address (g.setArena a)
          | .error failure => .error failure g := by
  cases hslot : h.slot address with
  | error failure =>
    refine ⟨.error failure, by simp, fun g hsame => ?_⟩
    simp only [reference, EStateM.run_bind, run_reading, Heap.slot_congr hsame, hslot, unchanged]
  | ok slot =>
    obtain ⟨a, harena, _, _⟩ := Heap.slot_eq_ok hslot
    have hid := (hsound.counted _ a harena).1
    cases hframes : Arena.holdIn? scope address a.frames with
    | none =>
      refine ⟨.error (.uncountedAlias address), by simp, fun g hsame => ?_⟩
      simp only [reference, EStateM.run_bind, run_reading, Heap.slot_congr hsame, hslot, unchanged,
        Heap.arena_of_get? (hsame.trans harena), hframes]
      rfl
    | some frames =>
      refine ⟨.ok ({ a with frames := frames }.replaceSlot address slot.gain),
        fun _ hsame => Except.ok.inj hsame ▸ hid, fun g hsame => ?_⟩
      simp only [reference, EStateM.run_bind, run_reading, Heap.slot_congr hsame, hslot, unchanged,
        Heap.arena_of_get? (hsame.trans harena), hframes, EStateM.run_modify, EStateM.run_pure]

end HeapOp

namespace HeapRequest

/-- Another heap, in which a request meets the same arena. -/
structure Alike (q : HeapRequest) (g h : Heap) : Prop where
  target_eq : q.arena g = q.arena h
  arena_eq : g.arenas.get? (q.arena h) = h.arenas.get? (q.arena h)
  maxSlots_eq : g.maxSlots = h.maxSlots

/-- The heap that is left when a request has had its outcome. -/
def leaves (id : ArenaId) (h : Heap) : Except Failure Effect → Heap
  | .ok e => e.enact id h
  | .error _ => h

/-- The outcome of a request is decided by its arena: it is the same in every heap that has the same arena. -/
def Confined (q : HeapRequest) (h : Heap) : Prop :=
  ∃ outcome : Except Failure Effect, (∀ e, outcome = .ok e → e.Fits h (q.arena h)) ∧
    ∀ g, g.Sound → q.Alike g h → q.ask.run g =
      unchanged (leaves (q.arena h) g outcome) (outcome.map (·.answer (q.arena h) ⟨g.nextScope⟩))

variable {q : HeapRequest} {h : Heap} {id : ArenaId} {address : Address}

theorem Confined.fails (failure : Failure)
    (hrun : ∀ g, g.Sound → q.Alike g h → q.ask.run g = .error failure g) : q.Confined h :=
  ⟨.error failure, nofun, hrun⟩

theorem Confined.succeeds (e : Effect) (hfits : e.Fits h (q.arena h))
    (hrun : ∀ g, g.Sound → q.Alike g h →
      q.ask.run g = .ok (e.answer (q.arena h) ⟨g.nextScope⟩) (e.enact (q.arena h) g)) : q.Confined h :=
  ⟨.ok e, fun _ hsame => Except.ok.inj hsame ▸ hfits, hrun⟩

theorem Confined.changes (answer : HeapAnswer) (a : Arena) (hid : a.id = q.arena h)
    (hrun : ∀ g, g.Sound → q.Alike g h → q.ask.run g = .ok answer (g.setArena a)) : q.Confined h := by
  refine .succeeds (.change answer a) hid fun g hg halike => ?_
  rw [Effect.enact_change hid]
  exact hrun g hg halike

theorem confined_createArena : (call .createArena).Confined h := by
  by_cases hlast : h.nextArena = 0xffffffff
  · refine .fails .arenaIdsExhausted fun g _ halike => ?_
    have hnext : g.nextArena = 0xffffffff := (ArenaId.mk.inj halike.target_eq).trans hlast
    simp only [ask, HeapOp.createArena, EStateM.run_bind, EStateM.run_get, hnext, ↓reduceIte]
    rfl
  · refine .succeeds .create rfl fun g _ halike => ?_
    have hnext : g.nextArena = h.nextArena := ArenaId.mk.inj halike.target_eq
    rw [Effect.enact_create]
    simp only [ask, HeapOp.createArena, EStateM.run_bind, EStateM.run_get, hnext, hlast, ↓reduceIte]
    rfl

theorem confined_enterScope : (call (.enterScope id)).Confined h := by
  cases harena : h.arenas.get? id with
  | none =>
    refine .fails (.unknownArena id) fun g _ halike => ?_
    have hnone : g.arenas.get? id = none := halike.arena_eq.trans harena
    simp only [ask, HeapOp.enterScope, EStateM.run_bind, HeapOp.run_reading, Heap.arena, hnone, unchanged]
  | some a =>
    refine .succeeds (.enter a) harena fun g hsound halike => ?_
    have hsome : g.arenas.get? id = some a := halike.arena_eq.trans harena
    have hid : a.id = (call (.enterScope id)).arena h := (hsound.counted id a hsome).1
    rw [Effect.enact_enter hid]
    simp only [ask, EStateM.run_bind, HeapOp.run_enterScope hsome, EStateM.run_pure]
    rfl

theorem confined_exitScope (hsound : h.Sound) : (call (.exitScope id)).Confined h := by
  cases harena : h.arenas.get? id with
  | none =>
    refine .fails (.unknownArena id) fun g _ halike => ?_
    have hnone : g.arenas.get? id = none := halike.arena_eq.trans harena
    simp only [ask, HeapOp.exitScope, EStateM.run_bind, HeapOp.run_reading, Heap.arena, hnone, unchanged]
  | some a =>
    obtain ⟨frame, outer, hframes⟩ := List.exists_cons_of_ne_nil (hsound.framed id a harena)
    obtain ⟨hid, _, _⟩ := hsound.counted.giveBackAll harena hframes
    obtain ⟨exit, hexit⟩ := HeapOp.exists_exitScope a hframes
    by_cases hlast : outer = []
    · refine .succeeds (.tearDown (.exit exit)) trivial fun g hg halike => ?_
      have hrun := hexit g hg (halike.arena_eq.trans harena)
      rw [if_pos hlast] at hrun
      rw [Effect.enact_tearDown]
      exact run_bind_pure_of_ok hrun
    · refine .changes (.exit exit) _ hid fun g hg halike => ?_
      have hrun := hexit g hg (halike.arena_eq.trans harena)
      rw [if_neg hlast] at hrun
      exact run_bind_pure_of_ok hrun

theorem confined_exitScopeChecked {scope : ScopeId} (hsound : h.Sound) :
    (call (.exitScopeChecked id scope)).Confined h := by
  cases harena : h.arenas.get? id with
  | none =>
    refine .fails (.unknownArena id) fun g _ halike => ?_
    have hnone : g.arenas.get? id = none := halike.arena_eq.trans harena
    simp only [ask, HeapOp.exitScopeChecked, EStateM.run_bind, HeapOp.run_reading, Heap.arena, hnone,
      unchanged]
  | some a =>
    obtain ⟨frame, outer, hframes⟩ := List.exists_cons_of_ne_nil (hsound.framed id a harena)
    have hinnermost : a.innermost? = some frame.id := by rw [Arena.innermost?, hframes]; rfl
    have hread : ∀ g : Heap, (call (.exitScopeChecked id scope)).Alike g h →
        (HeapOp.exitScopeChecked id scope).run g =
          (if frame.id = scope then HeapOp.exitScope id
            else throw (.scopeMismatch id frame.id scope)).run g := by
      intro g halike
      have hsome : g.arenas.get? id = some a := halike.arena_eq.trans harena
      rw [HeapOp.exitScopeChecked, EStateM.run_bind, HeapOp.run_reading, Heap.arena_of_get? hsome]
      simp only [unchanged, hinnermost]
    by_cases hscope : frame.id = scope
    · have hexit : (call (.exitScope id)).Confined h := confined_exitScope hsound
      obtain ⟨outcome, hfits, hrun⟩ := hexit
      refine ⟨outcome, hfits, fun g hg halike => (hrun g hg ?_).symm.trans ?_ |>.symm⟩
      · exact ⟨rfl, halike.arena_eq, halike.maxSlots_eq⟩
      · rw [ask, ask, EStateM.run_bind, EStateM.run_bind, hread g halike, if_pos hscope]
    · refine .fails (.scopeMismatch id frame.id scope) fun g hg halike => ?_
      rw [ask, EStateM.run_bind, hread g halike, if_neg hscope]
      rfl

theorem confined_allocate {v : Value} (hsound : h.Sound) : (call (.allocate id v)).Confined h := by
  cases hstorable : v.checkStorable id with
  | error failure =>
    refine .fails failure fun g _ _ => ?_
    simp only [ask, HeapOp.allocate, EStateM.run_bind, HeapOp.run_reading, hstorable, unchanged]
  | ok =>
    have hstore : ∀ g : Heap, (HeapOp.allocate id v).run g = (HeapOp.allocateContent id (.value v)).run g :=
      HeapOp.run_allocate hstorable
    cases harena : h.arenas.get? id with
    | none =>
      refine .fails (.unknownArena id) fun g _ halike => run_bind_of_error ((hstore g).trans ?_)
      have hnone : g.arenas.get? id = none := halike.arena_eq.trans harena
      simp only [HeapOp.allocateContent, EStateM.run_bind, EStateM.run_get, HeapOp.run_reading, Heap.arena,
        hnone, unchanged]
    | some a =>
      obtain ⟨hid, _⟩ := hsound.counted id a harena
      obtain ⟨frame, outer, hframes⟩ := List.exists_cons_of_ne_nil (hsound.framed id a harena)
      by_cases hfull : h.maxSlots ≤ a.slots.size ∨ 0x100000000 ≤ a.slots.size
      · refine .fails (.arenaExhausted id h.maxSlots) fun g _ halike => run_bind_of_error ((hstore g).trans ?_)
        have hsome : g.arenas.get? id = some a := halike.arena_eq.trans harena
        simp only [HeapOp.allocateContent, EStateM.run_bind, EStateM.run_get, HeapOp.run_reading,
          Heap.arena_of_get? hsome, unchanged, halike.maxSlots_eq, hfull, ↓reduceIte]
        rfl
      · refine .changes (.address (.ofParts id (.ofNat a.slots.size))) { a with
          slots := a.slots.push (.holding (.value v))
          live := a.live.add (Address.ofParts id (.ofNat a.slots.size)).offset
          frames := frame.hold (.ofParts id (.ofNat a.slots.size)) :: outer } hid
          fun g _ halike => run_bind_pure_of_ok ((hstore g).trans ?_)
        have hroom : a.slots.size < g.maxSlots := by rw [halike.maxSlots_eq]; omega
        exact HeapOp.run_allocateContent (halike.arena_eq.trans harena) hframes hroom (by omega) (.value v)

theorem confined_reference {scope : ScopeId} (hsound : h.Sound) :
    (call (.reference address scope)).Confined h := by
  obtain ⟨outcome, hid, hrun⟩ := HeapOp.exists_reference hsound address scope
  cases outcome with
  | error failure => exact .fails failure fun g _ halike => run_bind_of_error (hrun g halike.arena_eq)
  | ok a =>
    refine .changes (.address address) a (hid a rfl) fun g _ halike => ?_
    exact run_bind_pure_of_ok (hrun g halike.arena_eq)

theorem confined_retain (hsound : h.Sound) : (call (.retain address)).Confined h := by
  cases harena : h.arenas.get? address.arena with
  | none =>
    refine .fails (.danglingAddress address) fun g _ halike => run_bind_of_error ?_
    have hnone : g.arenas.get? address.arena = none := halike.arena_eq.trans harena
    simp only [HeapOp.retain, EStateM.run_bind, EStateM.run_get, hnone]
    rfl
  | some a =>
    obtain ⟨frame, outer, hframes⟩ := List.exists_cons_of_ne_nil (hsound.framed _ a harena)
    have hinnermost : a.innermost? = some frame.id := by rw [Arena.innermost?, hframes]; rfl
    obtain ⟨outcome, hid, hrun⟩ := HeapOp.exists_reference hsound address frame.id
    have hretain : ∀ g : Heap, (call (.retain address)).Alike g h → (HeapOp.retain address).run g =
        (HeapOp.reference address frame.id >>= fun _ => do return (← get).refCount address).run g := by
      intro g halike
      have hsome : g.arenas.get? address.arena = some a := halike.arena_eq.trans harena
      simp only [HeapOp.retain, EStateM.run_bind, EStateM.run_get, hsome, hinnermost]
    cases outcome with
    | error failure =>
      refine .fails failure fun g _ halike => run_bind_of_error ?_
      rw [hretain g halike]
      exact run_bind_of_error (hrun g halike.arena_eq)
    | ok given =>
      refine .changes (.count ((h.setArena given).refCount address)) given (hid given rfl)
        fun g _ halike => run_bind_pure_of_ok ?_
      rw [hretain g halike, EStateM.run_bind, hrun g halike.arena_eq,
        Heap.refCount_setArena (hid given rfl) h g]
      rfl

theorem confined_release (hsound : h.Sound) : (call (.release address)).Confined h := by
  cases hslot : h.slot address with
  | error failure =>
    refine .fails failure fun g _ halike => run_bind_of_error ?_
    simp only [HeapOp.release, EStateM.run_bind, HeapOp.run_reading, Heap.slot_congr halike.arena_eq, hslot,
      unchanged]
  | ok slot =>
    obtain ⟨a, harena, _, _⟩ := Heap.slot_eq_ok hslot
    have hat : ∀ g : Heap, (call (.release address)).Alike g h →
        g.slot address = .ok slot ∧ g.arenas.get? address.arena = some a :=
      fun g halike => ⟨(Heap.slot_congr halike.arena_eq).trans hslot, halike.arena_eq.trans harena⟩
    cases hunhold : Arena.unholdInnermost? address a.frames with
    | none =>
      refine .fails (.uncountedAlias address) fun g _ halike => run_bind_of_error ?_
      obtain ⟨hread, hsome⟩ := hat g halike
      simp only [HeapOp.release, EStateM.run_bind, HeapOp.run_reading, hread, unchanged,
        Heap.arena_of_get? hsome, hunhold]
      rfl
    | some frames =>
      cases hgiven : { a with frames := frames }.giveBack? address with
      | none =>
        refine .fails (.uncountedAlias address) fun g _ halike => run_bind_of_error ?_
        obtain ⟨hread, hsome⟩ := hat g halike
        simp only [HeapOp.release, EStateM.run_bind, HeapOp.run_reading, hread, unchanged,
          Heap.arena_of_get? hsome, hunhold, hgiven]
        rfl
      | some result =>
        obtain ⟨given, last⟩ := result
        obtain ⟨hid, _, _⟩ := hsound.counted.giveBack_release harena hunhold hgiven
        refine .changes (.count (if last then 0 else (h.setArena given).refCount address)) given hid
          fun g hg halike => run_bind_pure_of_ok ?_
        obtain ⟨hread, hsome⟩ := hat g halike
        cases last with
        | false =>
          simp only [HeapOp.release, EStateM.run_bind, HeapOp.run_reading, hread, unchanged,
            Heap.arena_of_get? hsome, hunhold, hgiven, EStateM.run_modify, EStateM.run_get, EStateM.run_pure]
          rw [Heap.refCount_setArena hid g h]
          rfl
        | true =>
          simp only [HeapOp.release, EStateM.run_bind, HeapOp.run_reading, hread, unchanged,
            Heap.arena_of_get? hsome, hunhold, hgiven, EStateM.run_modify, HeapOp.run_tearDownIfSpent,
            EStateM.run_pure, hg.counted.withoutSpent_release hsome hunhold hgiven, ↓reduceIte]

theorem confined_downgrade (hsound : h.Sound) : (downgrade address).Confined h := by
  cases hslot : h.slot address with
  | error failure =>
    refine .fails failure fun g _ halike => run_bind_of_error ?_
    rw [HeapOp.run_reading, Heap.downgrade, Heap.slot_congr halike.arena_eq, hslot]
    rfl
  | ok slot =>
    obtain ⟨a, harena, _, _⟩ := Heap.slot_eq_ok hslot
    have hid := (hsound.counted _ a harena).1
    refine .changes (.value (.weak address)) a hid fun g _ halike => run_bind_pure_of_ok ?_
    have hsome : g.arenas.get? address.arena = some a := halike.arena_eq.trans harena
    rw [Heap.setArena_self hid hsome, HeapOp.run_reading, Heap.downgrade, Heap.slot_congr halike.arena_eq,
      hslot]
    rfl

theorem confined (hsound : h.Sound) (q : HeapRequest) : q.Confined h := by
  cases q with
  | downgrade address => exact confined_downgrade hsound
  | call c =>
    cases c with
    | createArena => exact confined_createArena
    | enterScope id => exact confined_enterScope
    | exitScope id => exact confined_exitScope hsound
    | exitScopeChecked id scope => exact confined_exitScopeChecked hsound
    | allocate id v => exact confined_allocate hsound
    | retain address => exact confined_retain hsound
    | reference address scope => exact confined_reference hsound
    | release address => exact confined_release hsound

end HeapRequest

/-! Renumbering scopes. -/

def Frame.renumber (σ : Equiv.Perm ScopeId) (f : Frame) : Frame := { f with id := σ f.id }

def Arena.renumber (σ : Equiv.Perm ScopeId) (a : Arena) : Arena :=
  { a with frames := a.frames.map (·.renumber σ) }

def HeapAnswer.renumber (σ : Equiv.Perm ScopeId) : HeapAnswer → HeapAnswer
  | .scope number => .scope (σ number)
  | .exit left => .exit { left with scope := σ left.scope }
  | answer => answer

/-- The same heap but for the numbers of scopes. -/
structure Heap.Renumbered (σ : Equiv.Perm ScopeId) (g h : Heap) : Prop where
  arenas_eq : ∀ id, h.arenas.get? id = (g.arenas.get? id).map (·.renumber σ)
  tornDown_eq : h.tornDown = g.tornDown
  nextArena_eq : h.nextArena = g.nextArena
  nextScope_eq : h.nextScope = g.nextScope
  maxSlots_eq : h.maxSlots = g.maxSlots

variable {σ : Equiv.Perm ScopeId} {h : Heap} {id : ArenaId} {a : Arena}

theorem Arena.renumber_of_fixed (hfixed : ∀ frame ∈ a.frames, σ frame.id = frame.id) : a.renumber σ = a := by
  have hframes : a.frames.map (·.renumber σ) = a.frames := by
    refine List.map_congr_left ?_ |>.trans (List.map_id a.frames)
    intro frame hframe
    rw [Frame.renumber, hfixed frame hframe]
    rfl
  rw [renumber, hframes]

@[simp]
theorem Arena.renumber_refl (a : Arena) : a.renumber (.refl _) = a := renumber_of_fixed fun _ _ => rfl

@[simp]
theorem HeapAnswer.renumber_refl (answer : HeapAnswer) : answer.renumber (.refl _) = answer := by
  cases answer <;> rfl

theorem Heap.Renumbered.refl (h : Heap) : h.Renumbered (.refl _) h :=
  ⟨fun id => by simp [Arena.renumber_refl], rfl, rfl, rfl, rfl⟩

/-- Whoever leaves the numbers alone that have been given out leaves an arena alone. -/
theorem Heap.ScopesApart.renumber_eq (hapart : h.ScopesApart) (harena : h.arenas.get? id = some a)
    (hfixed : ∀ scope : ScopeId, scope.number < h.nextScope → σ scope = scope) : a.renumber σ = a := by
  refine Arena.renumber_of_fixed fun frame hframe => hfixed _ (hapart.belongsTo id _ ?_).1
  rw [scopes_eq harena]
  exact List.mem_map_of_mem hframe

namespace Effect

variable {e first second : Effect} {other : ArenaId} {scope : ScopeId}

theorem scopes_le (e : Effect) : e.scopes ≤ 1 := by
  cases e <;> simp [scopes]

/-- A number matters to an effect that enters a scope only. -/
theorem at_number (id : ArenaId) (number : Nat) {taken : Nat} (hnone : e.scopes = 0 ∨ taken = 0) :
    e.answer id ⟨number + taken⟩ = e.answer id ⟨number⟩ ∧
      e.arena? id ⟨number + taken⟩ = e.arena? id ⟨number⟩ := by
  rcases hnone with hscopes | rfl
  · cases e with
    | change answer a => exact ⟨rfl, rfl⟩
    | tearDown answer => exact ⟨rfl, rfl⟩
    | enter a => cases hscopes
    | create => cases hscopes
  · exact ⟨rfl, rfl⟩

/-- An effect that enters a scope does the same under every number. -/
theorem renumber (hapart : h.ScopesApart) (hfits : e.Fits h id) (hscopes : e.scopes = 1)
    (hfixed : ∀ scope : ScopeId, scope.number < h.nextScope → σ scope = scope) (scope : ScopeId) :
    e.answer id (σ scope) = (e.answer id scope).renumber σ ∧
      e.arena? id (σ scope) = (e.arena? id scope).map (·.renumber σ) := by
  cases e with
  | change answer a => cases hscopes
  | tearDown answer => cases hscopes
  | enter a =>
    refine ⟨rfl, congrArg some ?_⟩
    have hframes := congrArg Arena.frames (hapart.renumber_eq hfits hfixed)
    simp only [Arena.renumber, List.map_cons, Frame.renumber] at hframes ⊢
    rw [hframes]
  | create => exact ⟨rfl, rfl⟩

/-- Two effects in either order: the scopes that both of them enter change numbers, and no other scopes do. -/
theorem exists_renumbering (hapart : h.ScopesApart) (hfirst : first.Fits h id)
    (hsecond : second.Fits h other) : ∃ σ : Equiv.Perm ScopeId,
      (∀ scope, scope.number < h.nextScope → σ scope = scope) ∧
      (first.scopes = 0 ∨ second.scopes = 0 → σ = .refl _) ∧
      (first.answer id ⟨h.nextScope + second.scopes⟩ = (first.answer id ⟨h.nextScope⟩).renumber σ ∧
        first.arena? id ⟨h.nextScope + second.scopes⟩ =
          (first.arena? id ⟨h.nextScope⟩).map (·.renumber σ)) ∧
      (second.answer other ⟨h.nextScope⟩ =
          (second.answer other ⟨h.nextScope + first.scopes⟩).renumber σ ∧
        second.arena? other ⟨h.nextScope⟩ =
          (second.arena? other ⟨h.nextScope + first.scopes⟩).map (·.renumber σ)) := by
  by_cases hboth : first.scopes = 1 ∧ second.scopes = 1
  · obtain ⟨hone, htwo⟩ := hboth
    let σ : Equiv.Perm ScopeId := .swap ⟨h.nextScope⟩ ⟨h.nextScope + 1⟩
    have hfixed : ∀ scope : ScopeId, scope.number < h.nextScope → σ scope = scope := by
      intro scope hbelow
      refine Equiv.swap_apply_of_ne_of_ne ?_ ?_ <;> rintro rfl
      · exact Nat.lt_irrefl _ hbelow
      · exact absurd hbelow (by simp)
    have hlater := renumber hapart hfirst hone hfixed ⟨h.nextScope⟩
    have hearlier := renumber hapart hsecond htwo hfixed ⟨h.nextScope + 1⟩
    rw [Equiv.swap_apply_left] at hlater
    rw [Equiv.swap_apply_right] at hearlier
    refine ⟨σ, hfixed, fun hnone => by omega, ?_, ?_⟩
    · rwa [htwo]
    · rwa [hone]
  · have hnone : first.scopes = 0 ∨ second.scopes = 0 := by
      have := first.scopes_le
      have := second.scopes_le
      omega
    obtain ⟨hlater, hlaterArena⟩ := at_number id h.nextScope hnone
    obtain ⟨hearlier, hearlierArena⟩ := at_number other h.nextScope hnone.symm
    exact ⟨.refl _, fun _ _ => rfl, fun _ => rfl, ⟨by simpa using hlater, by simpa using hlaterArena⟩,
      by simpa using hearlier.symm, by simpa using hearlierArena.symm⟩

theorem isTornDown_enact (e : Effect) (id : ArenaId) (h : Heap) (query : ArenaId) :
    (e.enact id h).isTornDown query = true ↔
      (query = id ∧ e.arena? id ⟨h.nextScope⟩ = none) ∨ h.isTornDown query = true := by
  simp only [Heap.isTornDown, enact]
  cases e.arena? id ⟨h.nextScope⟩ with
  | none => simp [KeySet.contains_add]
  | some a => simp

/-- The heap after two effects on different arenas, in either order, but for the scopes that change numbers. -/
theorem renumbered_enact (hapart : h.ScopesApart) (hne : id ≠ other)
    (hfixed : ∀ scope : ScopeId, scope.number < h.nextScope → σ scope = scope)
    (hfirst : first.arena? id ⟨h.nextScope + second.scopes⟩ =
      (first.arena? id ⟨h.nextScope⟩).map (·.renumber σ))
    (hsecond : second.arena? other ⟨h.nextScope⟩ =
      (second.arena? other ⟨h.nextScope + first.scopes⟩).map (·.renumber σ)) :
    Heap.Renumbered σ (second.enact other (first.enact id h)) (first.enact id (second.enact other h)) where
  arenas_eq := by
    intro query
    rw [get?_enact, get?_enact, get?_enact, get?_enact]
    by_cases hid : query = id
    · rw [if_pos hid, if_neg (hid ▸ hne), if_pos hid]
      exact hfirst
    · by_cases hother : query = other
      · rw [if_neg hid, if_pos hother, if_pos hother]
        exact hsecond
      · rw [if_neg hid, if_neg hother, if_neg hother, if_neg hid]
        cases harena : h.arenas.get? query with
        | none => rfl
        | some a => rw [Option.map_some, hapart.renumber_eq harena hfixed]
  tornDown_eq := by
    have hgone : ∀ query, (first.enact id (second.enact other h)).isTornDown query = true ↔
        (second.enact other (first.enact id h)).isTornDown query = true := by
      intro query
      rw [isTornDown_enact, isTornDown_enact, isTornDown_enact, isTornDown_enact, or_left_comm]
      refine or_congr (and_congr_right fun _ => ?_) (or_congr_left (and_congr_right fun _ => ?_))
      · rw [hsecond, Option.map_eq_none_iff]
        rfl
      · exact Option.map_eq_none_iff.symm.trans (by rw [← hfirst]; rfl) |>.symm
    exact KeySet.ext_contains hgone
  nextArena_eq := by
    simp only [enact]
    rw [UInt32.add_assoc, UInt32.add_assoc, UInt32.add_comm second.arenas]
  nextScope_eq := Nat.add_right_comm ..
  maxSlots_eq := rfl

end Effect

namespace HeapRequest

/-- Asking for the answer of a call leaves what the call leaves. -/
theorem after_ask (c : HeapCall) (h : Heap) : after (call c).ask h = after c.perform h := by
  cases c <;> exact (after_bind_pure _ _ h).trans (after_silently _ h).symm

theorem sound_ask (hsound : h.Sound) (q : HeapRequest) : (after q.ask h).Sound := by
  cases q with
  | call c =>
    rw [after_ask]
    exact hsound.run [c]
  | downgrade address =>
    have hread : after (downgrade address).ask h = h :=
      (after_bind_pure _ _ h).trans (after_eq_of_run (HeapOp.run_reading _ h))
    rwa [hread]

/-- After another request on another arena, a request meets the arena that it would have met before. -/
theorem alike_enact {q : HeapRequest} {e : Effect} {other : ArenaId} (hfits : e.Fits h other)
    (hne : q.arena h ≠ other) : q.Alike (e.enact other h) h where
  target_eq := by
    cases q with
    | downgrade address => rfl
    | call c =>
      cases c with
      | createArena =>
        cases e with
        | create => exact absurd hfits.symm hne
        | _ => exact congrArg ArenaId.mk (UInt32.add_zero _)
      | _ => rfl
  arena_eq := by rw [Effect.get?_enact, if_neg hne]
  maxSlots_eq := rfl

theorem alike_leaves {q : HeapRequest} {outcome : Except Failure Effect} {other : ArenaId}
    (hfits : ∀ e, outcome = .ok e → e.Fits h other) (hne : q.arena h ≠ other) :
    q.Alike (leaves other h outcome) h := by
  cases outcome with
  | ok e => exact alike_enact (hfits e rfl) hne
  | error failure => exact ⟨rfl, rfl, rfl⟩

/-- Two requests on different arenas can change places. Each of them ends as it would have ended, and the heap is
    the same; but if both of them enter a scope, these two scopes change numbers. -/
theorem commute (hsound : h.Sound) (hapart : h.ScopesApart) {first second : HeapRequest}
    (hne : first.arena h ≠ second.arena h) : ∃ σ : Equiv.Perm ScopeId,
      (∀ scope, scope.number < h.nextScope → σ scope = scope) ∧
      ((after first.ask h).nextScope = h.nextScope ∨ (after second.ask h).nextScope = h.nextScope →
        σ = .refl _) ∧
      ending first.ask (after second.ask h) = (ending first.ask h).map (·.renumber σ) ∧
      ending second.ask h = (ending second.ask (after first.ask h)).map (·.renumber σ) ∧
      Heap.Renumbered σ (after second.ask (after first.ask h)) (after first.ask (after second.ask h)) := by
  obtain ⟨outcome, hfits, hrun⟩ := confined hsound first
  obtain ⟨otherOutcome, hotherFits, hotherRun⟩ := confined hsound second
  have hfirst := hrun h hsound ⟨rfl, rfl, rfl⟩
  have hsecond := hotherRun h hsound ⟨rfl, rfl, rfl⟩
  have hone := after_eq_of_run hfirst
  have htwo := after_eq_of_run hsecond
  have hfirstLater := hrun _ (sound_ask hsound second) (htwo ▸ alike_leaves hotherFits hne)
  have hsecondLater := hotherRun _ (sound_ask hsound first) (hone ▸ alike_leaves hfits hne.symm)
  rw [ending_eq_of_run hfirst, ending_eq_of_run hsecond, ending_eq_of_run hfirstLater,
    ending_eq_of_run hsecondLater, after_eq_of_run hfirstLater, after_eq_of_run hsecondLater, hone, htwo]
  cases outcome with
  | error failure =>
    refine ⟨.refl _, fun _ _ => rfl, fun _ => rfl, rfl, ?_, .refl _⟩
    cases otherOutcome <;> simp [leaves, Except.map]
  | ok e =>
    cases otherOutcome with
    | error failure =>
      refine ⟨.refl _, fun _ _ => rfl, fun _ => rfl, ?_, rfl, .refl _⟩
      simp [leaves, Except.map]
    | ok e' =>
      obtain ⟨σ, hfixed, hrefl, ⟨hanswer, harena⟩, hotherAnswer, hotherArena⟩ :=
        Effect.exists_renumbering hapart (hfits e rfl) (hotherFits e' rfl)
      refine ⟨σ, hfixed, fun hsame => hrefl ?_, congrArg Except.ok hanswer, congrArg Except.ok hotherAnswer,
        Effect.renumbered_enact hapart hne hfixed harena hotherArena⟩
      exact hsame.imp (Nat.add_eq_left.1 ·) (Nat.add_eq_left.1 ·)

/-- A request that fails leaves the heap as it was, and one that succeeds all arenas but its own. -/
theorem ask_spec (hsound : h.Sound) (q : HeapRequest) :
    AllOrNothing q.ask h fun _ h' => ∀ other, other ≠ q.arena h →
      h'.arenas.get? other = h.arenas.get? other ∧ h'.isTornDown other = h.isTornDown other := by
  obtain ⟨outcome, _, hrun⟩ := confined hsound q
  have hask := hrun h hsound ⟨rfl, rfl, rfl⟩
  cases outcome with
  | error failure =>
    unfold AllOrNothing
    rw [hask]
    rfl
  | ok e =>
    refine .of_run hask fun other hne => ⟨?_, ?_⟩
    · exact (Effect.get?_enact e _ h other).trans (if_neg hne)
    · rw [Bool.eq_iff_iff]
      exact (Effect.isTornDown_enact e _ h other).trans (or_iff_right fun hsame => hne hsame.1)

end HeapRequest

/-- A scope that belongs to another arena cannot hold an address. -/
theorem HeapOp.reference_eq_error {scope : ScopeId} {address : Address} (hbelongs : h.BelongsTo scope id)
    (hne : address.arena ≠ id) : ∃ failure, (reference address scope).run h = .error failure h := by
  have href := reference_spec address scope h
  cases hrun : (reference address scope).run h with
  | error failure h' => exact ⟨failure, by rw [href.of_error hrun]⟩
  | ok answer h' =>
    obtain ⟨a, _, frames, harena, _, _, hhold, _⟩ := href.of_ok hrun
    rw [Arena.holdIn?_eq] at hhold
    obtain ⟨frame, hframe, hscope⟩ := Arena.exists_of_changeFirst hhold
    refine absurd (hbelongs.2 address.arena ?_) hne
    rw [Heap.scopes_eq harena, ← hscope]
    exact List.mem_map_of_mem hframe

end CapabilityArena
