import CapabilityArena.Proofs.Heap.Accounts
import CapabilityArena.Proofs.Heap.Teardown
import CapabilityArena.Proofs.Realm.History

/-!
Teardown over runs. An arena is torn down when its last scope is left, at once and for good, and the counters
of the heap account for everything that was opened and given out.
-/

namespace CapabilityArena

/-- A number that is torn down is never the number of an arena again. -/
theorem Heap.Logged.never_opened {h h' : Heap} {id : ArenaId} {id? : Option ArenaId}
    {address? : Option Address} (hlogged : h.Logged h' id? address?) (hsound : h.Sound)
    (hgone : h.isTornDown id = true) : id ∉ id?.toList := by
  cases hlogged with
  | @opens opened h' hrun =>
    obtain ⟨_, rfl, _⟩ := (HeapOp.createArena_spec h).of_ok hrun
    intro hmem
    rw [Option.toList_some, List.mem_singleton] at hmem
    have hissued := (hsound.retired id hgone).2
    rw [hmem] at hissued
    exact UInt32.lt_irrefl _ hissued
  | _ => simp

namespace Realm

variable {r : Realm}

theorem tornDown_run (hsound : r.heap.Sound) {id : ArenaId} (hgone : r.heap.isTornDown id = true)
    (more : List RealmCall) :
    (r.run more).heap.isTornDown id = true ∧ (r.run more).heap.hasArena id = false ∧
      id ∉ opened more r := by
  obtain ⟨hlater, htornDown, hopened⟩ := logged_induction (r := r) (o := []) (g := [])
    (P := fun h o _ => h.isTornDown id = true ∧ id ∉ o)
    (fun h h' o g id? address? hsound ⟨hgone, hold⟩ hlogged =>
      ⟨hlogged.isTornDown hsound hgone, fun hmem => (List.mem_append.1 hmem).elim hold
        (hlogged.never_opened hsound hgone)⟩)
    hsound ⟨hgone, List.not_mem_nil⟩ more
  refine ⟨htornDown, ?_, hopened⟩
  rw [Heap.hasArena, Dictionary.contains, (hlater.retired id htornDown).1]
  rfl

theorem maxSlots_run (hsound : r.heap.Sound) (calls : List RealmCall) :
    (r.run calls).heap.maxSlots = r.heap.maxSlots :=
  keeps_run (P := fun h => h.maxSlots = r.heap.maxSlots)
    (fun _ _ _ _ hsound hmaxSlots hlogged => (hlogged.maxSlots_eq hsound).trans hmaxSlots)
    hsound rfl calls

/-- Teardown is exact and never deferred, in every heap that calls can reach. An arena that is present has an
    open scope, and leaving one tears the arena down exactly if it was the last, whether or not the scope is
    checked. A release tears nothing down. No operation reports an arena without an active scope. A number
    that is torn down is never that of an arena again, and never given out again. A value that may be stored
    in an arena that is present is stored exactly if fewer addresses have been given out in this arena than
    its table may have slots, and fewer than an address can tell apart. The counters account for all arenas
    opened and for all addresses given out in those that are present. A run of a heap on its own is among
    these runs, with the same history. -/
theorem teardown_exact_of_run (registry : Registry) (maxSlots maxContexts : Nat)
    (calls : List RealmCall) :
    let start := empty registry maxSlots maxContexts
    let r := start.run calls
    (∀ id a, r.heap.arenas.get? id = some a → a.frames ≠ [] ∧
      ∃ exit h, (HeapOp.exitScope id).run r.heap = .ok exit h ∧
        (exit.tornDown = true ↔ a.frames.length = 1) ∧
        h.hasArena id = !exit.tornDown ∧ h.isTornDown id = exit.tornDown) ∧
    (∀ id scope exit h, (HeapOp.exitScopeChecked id scope).run r.heap = .ok exit h →
      (HeapOp.exitScope id).run r.heap = .ok exit h) ∧
    (∀ address, (after (HeapOp.release address) r.heap).tornDown = r.heap.tornDown ∧
      ∀ id, (after (HeapOp.release address) r.heap).hasArena id = r.heap.hasArena id) ∧
    r.heap.FindsScopes ∧
    (∀ id, r.heap.isTornDown id = true → ∀ more, (r.run more).heap.isTornDown id = true ∧
      (r.run more).heap.hasArena id = false ∧ id ∉ opened more r) ∧
    (∀ id v, r.heap.hasArena id = true → v.checkStorable id = .ok () →
      ((∃ address h, (HeapOp.allocate id v).run r.heap = .ok address h) ↔
        (given calls start).countP (·.arena = id) < maxSlots ∧
        (given calls start).countP (·.arena = id) < 0x100000000)) ∧
    r.heap.stats.arenas + r.heap.stats.tornDown = (opened calls start).length ∧
    r.heap.stats.liveSlots + r.heap.stats.tombstones =
      (given calls start).countP (r.heap.hasArena ·.arena) ∧
    (∀ heapCalls : List HeapCall,
      start.run (heapCalls.map .heap) = { start with heap := (Heap.empty maxSlots).run heapCalls } ∧
      opened (heapCalls.map .heap) start = (Heap.empty maxSlots).opened heapCalls ∧
      given (heapCalls.map .heap) start = (Heap.empty maxSlots).given heapCalls) := by
  intro start r
  obtain ⟨hsound, hledger⟩ := ledger_run maxSlots registry maxContexts calls
  have hmaxSlots : r.heap.maxSlots = maxSlots := maxSlots_run (Heap.sound_empty maxSlots) calls
  refine ⟨fun id a harena => ⟨hsound.framed id a harena, hsound.exitScope harena⟩,
    fun id scope exit h hchecked => ?checked, fun address => ?release, hsound.findsScopes,
    fun id hgone more => tornDown_run hsound hgone more, fun id v hpresent hstorable => ?allocate,
    hledger.arenas_eq hsound, hledger.slots_eq hsound.counted, fun heapCalls => ?heap⟩
  case checked =>
    obtain ⟨_, _, _, _, _, _, hrun⟩ := (HeapOp.exitScopeChecked_spec id scope r.heap).of_ok hchecked
    exact hrun
  case release =>
    exact (hsound.release address).after ⟨rfl, fun _ => rfl⟩ fun _ _ hkept => hkept
  case allocate =>
    obtain ⟨a, harena⟩ := Option.isSome_iff_exists.1 hpresent
    rw [hsound.allocate_iff harena hstorable, hledger.size_eq id a harena, hmaxSlots]
  case heap => exact ⟨RealmOp.run_heap heapCalls start, history_heap heapCalls start⟩

/-- An arena that has been torn down, and one that is full, with one live slot and one tombstone. -/
def fullArena : List RealmCall :=
  [.heap .createArena, .heap .createArena, .heap (.allocate ⟨1⟩ (.int 7)), .heap (.allocate ⟨2⟩ .null),
    .heap (.exitScope ⟨2⟩), .heap (.allocate ⟨1⟩ .null), .heap (.release (.ofParts ⟨1⟩ 1))]

theorem teardown_exact_fullArena : ∃ a exit h,
    ((empty .empty 2 8).run fullArena).heap.arenas.get? ⟨1⟩ = some a ∧ a.frames.length = 1 ∧
    (HeapOp.exitScope ⟨1⟩).run ((empty .empty 2 8).run fullArena).heap = .ok exit h ∧
    exit.tornDown = true ∧ h.hasArena ⟨1⟩ = false ∧
    ((empty .empty 2 8).run fullArena).heap.isTornDown ⟨2⟩ = true ∧
    ⟨2⟩ ∉ opened [.heap .createArena] ((empty .empty 2 8).run fullArena) ∧
    ((empty .empty 2 8).run fullArena).heap.hasArena ⟨1⟩ = true ∧
    Value.null.checkStorable ⟨1⟩ = .ok () ∧
    ¬ (∃ address h, (HeapOp.allocate ⟨1⟩ .null).run ((empty .empty 2 8).run fullArena).heap =
      .ok address h) ∧
    ((empty .empty 2 8).run fullArena).heap.stats = ⟨1, 1, 1, 1⟩ ∧
    (opened fullArena (empty .empty 2 8)).length = 2 ∧
    (given fullArena (empty .empty 2 8)).countP
      (((empty .empty 2 8).run fullArena).heap.hasArena ·.arena) = 2 := by
  obtain ⟨harenas, _, _, _, hgone, hallocate, harenasLeft, hslots, _⟩ :=
    teardown_exact_of_run .empty 2 8 fullArena
  obtain ⟨_, exit, h, hexit, hlast, hhas, _⟩ := harenas ⟨1⟩ _ rfl
  have htornDown := hlast.2 rfl
  refine ⟨_, exit, h, rfl, rfl, hexit, htornDown, by rw [hhas, htornDown]; rfl, rfl,
    (hgone ⟨2⟩ rfl _).2.2, rfl, rfl, ?_, rfl, harenasLeft.symm, hslots.symm⟩
  rw [hallocate ⟨1⟩ .null rfl rfl]
  exact fun hroom => absurd hroom.1 (by decide)

end Realm

end CapabilityArena
