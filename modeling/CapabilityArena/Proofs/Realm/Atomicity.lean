import CapabilityArena.Proofs.Realm.Run
import CapabilityArena.Registry.Draft

/-!
Calls on entities as transactions, seen from outside. A call that fails leaves no trace, wherever it failed;
a call that succeeds leaves none but in one slot.
-/

namespace CapabilityArena

namespace Realm

variable {r r' : Realm} {address : Address}

/-- A call on an entity, spelled out: the content of one slot is exchanged for an entity of the same
    identity. -/
theorem TransactedAt.frame (hcounted : r.heap.Counted) (hdone : r.TransactedAt address r') :
    ∃ a slot before after,
      r.heap.arenas.get? address.arena = some a ∧
      a.slots[address.offset.toNat]? = some slot ∧
      slot.content = some (.entity before) ∧ after.id = before.id ∧
      r' = { r with heap := { r.heap with arenas := r.heap.arenas.insert address.arena { a with
        slots := a.slots.setIfInBounds address.offset.toNat
          { slot with content := some (.entity after) } } } } := by
  obtain ⟨before, after, hdone⟩ := hdone
  obtain ⟨a, slot, harena, hslot, hcontent⟩ := Heap.exists_slot_of_content hdone.stored
  have hid := (hcounted _ a harena).1
  refine ⟨a, slot, before, after, harena, hslot, hcontent, hdone.changes.id_eq, ?_⟩
  rw [hdone.realm_eq, Heap.putEntity_eq harena hslot, Heap.setArena]
  simp only [Arena.replaceSlot, hid]

/-- In every realm that calls can reach, a call on an entity either fails and leaves the realm exactly as it
    was, or exchanges the entity at its address and keeps everything else: the identity of the entity, the
    count of its slot, all other slots, all frames, all contexts and definitions. Making an entity takes a
    number, and does nothing else if it fails; if it succeeds there is one new slot, counted once and held
    once by the innermost frame of its arena. -/
theorem calls_all_or_nothing (registry : Registry) (maxSlots maxContexts : Nat)
    (calls : List RealmCall) :
    let r := (empty registry maxSlots maxContexts).run calls
    (∀ address (call : EntityCall),
      match (call.perform address).run r with
      | .error _ r' => r' = r
      | .ok _ r' => ∃ a slot before after,
        r.heap.arenas.get? address.arena = some a ∧
        a.slots[address.offset.toNat]? = some slot ∧
        slot.content = some (.entity before) ∧ after.id = before.id ∧
        r' = { r with heap := { r.heap with arenas := r.heap.arenas.insert address.arena { a with
          slots := a.slots.setIfInBounds address.offset.toNat
            { slot with content := some (.entity after) } } } }) ∧
    (∀ arena state concepts,
      match (RealmOp.createEntity arena state concepts).run r with
      | .error _ r' => r' = { r with nextEntity := r'.nextEntity }
      | .ok address r' => ∃ a frame outer e,
        r.heap.arenas.get? arena = some a ∧ a.frames = frame :: outer ∧
        address.arena = arena ∧ address.offset.toNat = a.slots.size ∧ e.id = ⟨r.nextEntity⟩ ∧
        r' = { r with
          nextEntity := r.nextEntity + 1
          heap := { r.heap with arenas := r.heap.arenas.insert arena { a with
            slots := a.slots.push ⟨1, some (.entity e)⟩
            live := a.live.add address.offset
            frames := { frame with held := address :: frame.held } :: outer } } }) := by
  intro r
  have hcounted : r.heap.Counted := counted_run (Heap.counted_empty maxSlots) calls
  refine ⟨fun address call => ?_, fun arena state concepts => ?_⟩
  · have hcall : AllOrNothing (call.perform address) r _ := call.perform_spec hcounted
    cases hrun : (call.perform address).run r with
    | error failure r' => exact hcall.of_error hrun
    | ok _ r' => exact (hcall.of_ok hrun).frame hcounted
  · cases hrun : (RealmOp.createEntity arena state concepts).run r with
    | error failure r' =>
      rcases RealmOp.createEntity_eq_error hrun with rfl | rfl
      · rfl
      · rfl
    | ok address r' =>
      obtain ⟨e, h, hchanges, _, hallocate, rfl⟩ := RealmOp.createEntity_eq_ok hrun
      obtain ⟨a, frame, outer, harena, hframes, _, hroom, rfl, rfl⟩ :=
        (HeapOp.allocateContent_spec arena (.entity e) r.heap).of_ok hallocate
      have hid := (hcounted _ a harena).1
      refine ⟨a, frame, outer, e, harena, hframes, Address.arena_ofParts .., ?_,
        hchanges.id_eq, ?_⟩
      · rw [Address.offset_ofParts, UInt32.toNat_ofNat_of_lt' hroom]
      · simp only [Heap.setArena, hid, Slot.holding, Frame.hold]

/-- Tickets with a machine that shows its state, a modifier that does nothing, and one whose hook fails after
    it has edited the ticket. -/
def deskDefinitions : List Registration :=
  (match Machine.ofEntries? "Flow" ["open", "closed"] [("open", ["closed"])] with
    | .ok flow => [.machine (flow.withStateKey "status")]
    | .error _ => []) ++
  [.concept ⟨"Ticket", .ofList [("title", .str)], .empty, some "Flow"⟩,
    .modifier ⟨"Urgent", .empty, none, none, .empty, none⟩,
    .modifier ⟨"Broken", .empty, some (do
      modify fun state => state.insert "title" .null
      throw "no such desk"), none, .empty, none⟩,
    .group ⟨"Escalated", ["Urgent", "Broken"]⟩]

def desk : Registry :=
  match Registry.build deskDefinitions with
  | .ok registry => registry
  | .error _ => .empty

def openTicket : List RealmCall :=
  [.heap .createArena, .createEntity ⟨1⟩ (.ofList [("title", .str "printer")]) ["Ticket"]]

theorem calls_all_or_nothing_escalated : ∃ failure r' e,
    ((EntityCall.applyGroup "Escalated" .add).perform (.ofParts ⟨1⟩ 0)).run
      ((empty desk 8 8).run openTicket) = .error failure r' ∧
    r' = (empty desk 8 8).run openTicket ∧
    r'.heap.entity (.ofParts ⟨1⟩ 0) = .ok e ∧ e.active = ["Ticket"] ∧
    e.state.get? "title" = some (.str "printer") := by
  obtain ⟨hcalls, _⟩ := calls_all_or_nothing desk 8 8 openTicket
  exact ⟨_, _, _, rfl, hcalls (.ofParts ⟨1⟩ 0) (.applyGroup "Escalated" .add), rfl, rfl, rfl⟩

end Realm

end CapabilityArena
