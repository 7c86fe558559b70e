import CapabilityArena.Proofs.Heap.Lifetime
import CapabilityArena.Proofs.Realm.History

/-!
No way back for an address. An address is given out once; when it is dead, no call brings it back to life,
neither an allocation nor a new arena nor a scope; and as long as it lives, a plain value stays what it was.
-/

namespace CapabilityArena.Realm

variable {r : Realm} {address : Address}

/-- An address that has been given out and cannot be read any more dangles from then on. -/
theorem dangling_run (hsound : r.heap.Sound) (hissued : r.heap.Issued address)
    (hdead : ∀ content, r.heap.deref address ≠ .ok content) (more : List RealmCall) :
    (r.run more).heap.Dangling address := by
  have hnone : r.heap.content? address = none := by
    cases hcontent : r.heap.content? address with
    | none => rfl
    | some content => exact absurd (hsound.counted.deref_eq_ok_iff.2 hcontent) (hdead content)
  have hgone : (r.run more).heap.Gone address :=
    keeps_run (fun _ _ _ _ hsound hgone hlogged => hlogged.gone hsound hgone) hsound ⟨hissued, hnone⟩ more
  exact (sound_run hsound more).dangling hgone.2

/-- A value that has been stored is read back for as long as its address lives. -/
theorem value_run (hsound : r.heap.Sound) {arena : ArenaId} {v : Value} {h : Heap}
    (hrun : (HeapOp.allocate arena v).run r.heap = .ok address h) (more : List RealmCall)
    (hlive : (run more { r with heap := h }).heap.isLive address = true) :
    (run more { r with heap := h }).heap.value address = .ok v := by
  have hstored : h.Sound := hsound.allocate hrun
  have hkeeps : (run more { r with heap := h }).heap.Keeps address v :=
    keeps_run (P := (·.Keeps address v)) (fun _ _ _ _ hsound hkeeps hlogged => hlogged.keeps hsound hkeeps)
      hstored (hsound.keeps_of_allocate hrun) more
  exact (sound_run (r := { r with heap := h }) hstored more).value_of_keeps hkeeps hlive

/-- Addresses are never reused, and death is permanent. No address is given out twice in a run, to values or
    to entities, in whatever arenas, before or after arenas are torn down. Once an address that has been
    given out cannot be read, it dangles after all further calls. A value that is stored is what its address
    holds for as long as it lives. A run of a heap on its own is among these runs, with the same addresses. -/
theorem given_once_of_run (registry : Registry) (maxSlots maxContexts : Nat) (calls : List RealmCall) :
    let start := empty registry maxSlots maxContexts
    let r := start.run calls
    (given calls start).Nodup ∧
    (∀ address ∈ given calls start, (∀ content, r.heap.deref address ≠ .ok content) →
      ∀ more, (r.run more).heap.Dangling address) ∧
    (∀ arena v address h, (HeapOp.allocate arena v).run r.heap = .ok address h → ∀ more,
      (run more { r with heap := h }).heap.isLive address = true →
      (run more { r with heap := h }).heap.value address = .ok v) ∧
    (∀ heapCalls : List HeapCall,
      start.run (heapCalls.map .heap) = { start with heap := (Heap.empty maxSlots).run heapCalls } ∧
      given (heapCalls.map .heap) start = (Heap.empty maxSlots).given heapCalls) := by
  intro start r
  obtain ⟨hsound, hledger⟩ := ledger_run maxSlots registry maxContexts calls
  refine ⟨hledger.nodup, fun address hmem hdead more => ?_, fun arena v address h hrun more hlive => ?_,
    fun heapCalls => ?_⟩
  · exact dangling_run hsound (hledger.issued address hmem) hdead more
  · exact value_run hsound hrun more hlive
  · exact ⟨RealmOp.run_heap heapCalls start, (history_heap heapCalls start).2⟩

/-- A value in the root scope of an arena, and one whose scope has been left. -/
def leftScope : List RealmCall :=
  [.heap .createArena, .heap (.allocate ⟨1⟩ (.int 7)), .heap (.enterScope ⟨1⟩),
    .heap (.allocate ⟨1⟩ (.int 8)), .heap (.exitScope ⟨1⟩)]

/-- Another value, another arena with a value of its own, and the end of the first arena. -/
def afterwards : List RealmCall :=
  [.heap (.allocate ⟨1⟩ (.int 9)), .heap .createArena, .heap (.allocate ⟨2⟩ .null),
    .heap (.exitScope ⟨1⟩)]

theorem given_once_leftScope : ∃ address h,
    given (leftScope ++ afterwards) (empty .empty 8 8) =
      [.ofParts ⟨1⟩ 0, .ofParts ⟨1⟩ 1, .ofParts ⟨1⟩ 2, .ofParts ⟨2⟩ 0] ∧
    (given (leftScope ++ afterwards) (empty .empty 8 8)).Nodup ∧
    (((empty .empty 8 8).run leftScope).run afterwards).heap.Dangling (.ofParts ⟨1⟩ 1) ∧
    (HeapOp.allocate ⟨1⟩ (.int 9)).run ((empty .empty 8 8).run leftScope).heap = .ok address h ∧
    (run [.heap (.release (.ofParts ⟨1⟩ 0))]
      { (empty .empty 8 8).run leftScope with heap := h }).heap.value address = .ok (.int 9) := by
  obtain ⟨hnodup, _⟩ := given_once_of_run .empty 8 8 (leftScope ++ afterwards)
  obtain ⟨_, hdead, hvalue, _⟩ := given_once_of_run .empty 8 8 leftScope
  refine ⟨_, _, rfl, hnodup, ?_, rfl, hvalue ⟨1⟩ (.int 9) _ _ rfl _ rfl⟩
  refine hdead (.ofParts ⟨1⟩ 1) (List.mem_cons_of_mem _ List.mem_cons_self) (fun content hderef => ?_) _
  cases hderef

end CapabilityArena.Realm
