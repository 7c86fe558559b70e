import CapabilityArena.Proofs.Heap.Isolation

/-!
Isolated arenas in a realm: whatever has been done before, a request touches one arena or nothing.
-/

namespace CapabilityArena.Realm

/-- Requests change nothing when they fail, and arenas are isolated, in every heap that calls can reach. A
    request that succeeds leaves all arenas but its own as they were, with their frames, slots and live sets,
    and so it leaves what has been torn down. The number of a scope belongs to one arena, for good: whatever
    is done later, no address of another arena can be held by that scope. Two requests on different arenas,
    one of which may open an arena, can change places: they end the same way and leave the same heap, up to
    the numbers of the scopes that are entered. -/
theorem arenas_isolated_of_run (registry : Registry) (maxSlots maxContexts : Nat) (calls : List RealmCall) :
    let r := (empty registry maxSlots maxContexts).run calls
    (∀ (q : HeapRequest) failure h', q.ask.run r.heap = .error failure h' → h' = r.heap) ∧
    (∀ (q : HeapRequest) answer h', q.ask.run r.heap = .ok answer h' → ∀ other, other ≠ q.arena r.heap →
      h'.arenas.get? other = r.heap.arenas.get? other ∧
      h'.isTornDown other = r.heap.isTornDown other) ∧
    (∀ id, ∀ scope ∈ r.heap.scopes id, ∀ later,
      (∀ other, scope ∈ (r.run later).heap.scopes other → other = id) ∧
      ∀ address, address.arena ≠ id → ∃ failure,
        (HeapOp.reference address scope).run (r.run later).heap = .error failure (r.run later).heap) ∧
    (∀ first second : HeapRequest, first.arena r.heap ≠ second.arena r.heap →
      ∃ σ : Equiv.Perm ScopeId,
        (∀ scope, scope.number < r.heap.nextScope → σ scope = scope) ∧
        ((after first.ask r.heap).nextScope = r.heap.nextScope ∨
          (after second.ask r.heap).nextScope = r.heap.nextScope → σ = .refl _) ∧
        ending first.ask (after second.ask r.heap) = (ending first.ask r.heap).map (·.renumber σ) ∧
        ending second.ask r.heap = (ending second.ask (after first.ask r.heap)).map (·.renumber σ) ∧
        Heap.Renumbered σ (after second.ask (after first.ask r.heap))
          (after first.ask (after second.ask r.heap))) := by
  intro r
  have hsound : r.heap.Sound := sound_run (Heap.sound_empty maxSlots) calls
  have hapart : r.heap.ScopesApart :=
    scopesApart_run (Heap.sound_empty maxSlots) (Heap.scopesApart_empty maxSlots) calls
  refine ⟨fun q failure h' hrun => (q.ask_spec hsound).of_error hrun,
    fun q answer h' hrun => (q.ask_spec hsound).of_ok hrun, fun id scope hscope later => ?_,
    fun first second hne => HeapRequest.commute hsound hapart hne⟩
  have hbelongs := belongsTo_run hsound (hapart.belongsTo id scope hscope) later
  exact ⟨hbelongs.2, fun address hne => HeapOp.reference_eq_error hbelongs hne⟩

/-- Two arenas with their root scopes, the first with a value. -/
def neighbours : List RealmCall :=
  [.heap .createArena, .heap .createArena, .heap (.allocate ⟨1⟩ (.int 7))]

theorem arenas_isolated_neighbours :
    (∃ failure, (HeapOp.reference (.ofParts ⟨1⟩ 0) ⟨2⟩).run
      (((empty .empty 8 8).run neighbours).run [.heap (.enterScope ⟨2⟩)]).heap =
        .error failure (((empty .empty 8 8).run neighbours).run [.heap (.enterScope ⟨2⟩)]).heap) ∧
    (∃ answer h', (HeapRequest.call (.exitScope ⟨1⟩)).ask.run ((empty .empty 8 8).run neighbours).heap =
        .ok answer h' ∧ h'.isTornDown ⟨1⟩ = true ∧
      h'.arenas.get? ⟨2⟩ = ((empty .empty 8 8).run neighbours).heap.arenas.get? ⟨2⟩) ∧
    ∃ σ : Equiv.Perm ScopeId, σ ⟨2⟩ = ⟨2⟩ ∧ σ ⟨3⟩ = ⟨4⟩ ∧
      ending (HeapRequest.call (.enterScope ⟨1⟩)).ask ((empty .empty 8 8).run neighbours).heap =
        .ok (.scope ⟨3⟩) ∧
      ending (HeapRequest.call (.enterScope ⟨1⟩)).ask
        (after (HeapRequest.call (.enterScope ⟨2⟩)).ask ((empty .empty 8 8).run neighbours).heap) =
          .ok (.scope ⟨4⟩) := by
  obtain ⟨_, hothers, hscopes, hcommute⟩ := arenas_isolated_of_run .empty 8 8 neighbours
  obtain ⟨_, hreference⟩ := hscopes ⟨2⟩ ⟨2⟩ (.head _) [.heap (.enterScope ⟨2⟩)]
  obtain ⟨σ, hfixed, _, hfirst, _⟩ :=
    hcommute (.call (.enterScope ⟨1⟩)) (.call (.enterScope ⟨2⟩)) (by decide)
  have hexit := (hothers (.call (.exitScope ⟨1⟩)) _ _ rfl ⟨2⟩ (by decide)).1
  refine ⟨hreference (.ofParts ⟨1⟩ 0) (by decide), ⟨_, _, rfl, rfl, hexit⟩, σ, hfixed ⟨2⟩ (by decide), ?_,
    rfl, rfl⟩
  exact (HeapAnswer.scope.inj (Except.ok.inj hfirst)).symm

end CapabilityArena.Realm
