import CapabilityArena.Proofs.Realm.Sequence
import CapabilityArena.Proofs.Transaction.Implementing

/-!
Making entities in a realm. The call looks up the arena, takes a number, puts the entity together and stores
it; it succeeds if there is a place for the entity and its contract holds, and no order of the concepts makes
a difference to that.
-/

namespace CapabilityArena

/-- An arena that is there and has a slot left. -/
def Heap.HasRoom (h : Heap) (arena : ArenaId) : Prop :=
  ∃ a, h.arenas.get? arena = some a ∧ a.slots.size < h.maxSlots ∧ a.slots.size < 0x100000000

theorem HeapOp.exists_allocateContent_iff {h : Heap} (hsound : h.Sound) {arena : ArenaId}
    (content : Content) :
    (∃ address h', (allocateContent arena content).run h = .ok address h') ↔ h.HasRoom arena := by
  constructor
  · rintro ⟨address, h', hrun⟩
    obtain ⟨a, _, _, harena, _, hroom, hfits, _⟩ := (allocateContent_spec arena content h).of_ok hrun
    exact ⟨a, harena, hroom, hfits⟩
  · rintro ⟨a, harena, hroom, hfits⟩
    obtain ⟨frame, outer, hframes⟩ := List.exists_cons_of_ne_nil (hsound.framed arena a harena)
    exact ⟨_, _, run_allocateContent harena hframes hroom hfits content⟩

namespace RealmOp

variable {r r' : Realm} {arena : ArenaId} {state : State} {names : List String} {address : Address}

/-- An entity is made exactly if it can be put together and there is room for it. -/
theorem exists_createEntity_iff (hsound : r.heap.Sound) :
    (∃ address r', (createEntity arena state names).run r = .ok address r') ↔ r.heap.HasRoom arena ∧
      ∃ e, ((r.surroundings arena).implement names).run (.bare ⟨r.nextEntity⟩ state) = .ok () e := by
  constructor
  · rintro ⟨address, r', hcreate⟩
    obtain ⟨e, h, himplement, hallocate, _⟩ := createEntity_implement hcreate
    exact ⟨(HeapOp.exists_allocateContent_iff hsound _).1 ⟨address, h, hallocate⟩, e, himplement⟩
  · rintro ⟨hroom, e, himplement⟩
    obtain ⟨address, h, hallocate⟩ := (HeapOp.exists_allocateContent_iff hsound (.entity e)).2 hroom
    obtain ⟨a, harena, _⟩ := hroom
    refine ⟨address, { r with heap := h, nextEntity := r.nextEntity + 1 }, ?_⟩
    rw [run_createEntity, Heap.arena_of_get? harena]
    simp only [himplement]
    simp only [EStateM.run] at hallocate
    simp only [onHeap, EStateM.run, hallocate]

/-- And then it can be read where it was stored. -/
theorem entity_createEntity (hsound : r.heap.Sound)
    (hcreate : (createEntity arena state names).run r = .ok address r') : ∃ e,
      ((r.surroundings arena).implement names).run (.bare ⟨r.nextEntity⟩ state) = .ok () e ∧
      r'.heap.entity address = .ok e := by
  obtain ⟨e, h, himplement, hallocate, rfl⟩ := createEntity_implement hcreate
  have hstep : Heap.Step (fun _ => True) r.heap h :=
    (HeapOp.step_allocateContent trivial arena r.heap).of_ok hallocate
  refine ⟨e, himplement, (hsound.counted.step hstep).entity_eq_ok_iff.2 ?_⟩
  rw [HeapOp.content?_allocateContent hsound.counted hallocate, if_pos rfl]

end RealmOp

namespace Realm

/-- The numbers of entities have all been given out. -/
def EntitiesNumbered (r : Realm) : Prop :=
  ∀ address e, r.heap.content? address = some (.entity e) → e.id.number < r.nextEntity

theorem Step.entitiesNumbered {r r' : Realm} (hcounted : r.heap.Counted) (hnumbered : r.EntitiesNumbered)
    (hstep : r.Step r') : r'.EntitiesNumbered := by
  intro address e hstored
  cases hstep with
  | heap hstep =>
    rcases hstep.content_of hcounted hstored with hold | ⟨_, _, v, hvalue⟩
    · exact hnumbered address e hold
    · cases hvalue
  | refuse => exact Nat.lt_succ_of_lt (hnumbered address e hstored)
  | create hchanges hvalid hstep =>
    rcases hstep.content_of hcounted hstored with hold | ⟨_, _, hnew⟩
    · exact Nat.lt_succ_of_lt (hnumbered address e hold)
    · cases hnew
      rw [hchanges.id_eq]
      exact Nat.lt_succ_self _
  | @change changed before after _ hdone =>
    rw [hdone.content? hcounted] at hstored
    rw [hdone.realm_eq]
    split at hstored
    · cases hstored
      rw [hdone.changes.id_eq]
      exact hnumbered changed before hdone.stored
    · exact hnumbered address e hstored
  | contexts contexts => exact hnumbered address e hstored
  | policy policy => exact hnumbered address e hstored

theorem entitiesNumbered_run (registry : Registry) (maxSlots maxContexts : Nat) (calls : List RealmCall) :
    ((empty registry maxSlots maxContexts).run calls).EntitiesNumbered := by
  refine (run_induction (fun r r' hcounted hnumbered hstep => hstep.entitiesNumbered hcounted hnumbered)
    (Heap.counted_empty maxSlots) (fun address e hstored => ?_) calls).2
  simp [empty, Heap.empty, Heap.content?] at hstored

/-- What making an entity takes, in every realm that calls can reach: a place for it, and its contract. So it
    does not matter in which order its concepts are listed. The entity gets a number that no other one has,
    the given fields, the concepts in the given order and no modifiers; and the machine of the concept that
    brings one, in its first state, or no machine. -/
theorem createEntity_iff_contract_of_run {registrations : List Registration} {registry : Registry}
    (hbuild : Registry.build registrations = .ok registry) (maxSlots maxContexts : Nat)
    (calls : List RealmCall) (arena : ArenaId) (state : State) {names : List String}
    (hhidden : registry.HidesMachines names) :
    let r := (empty registry maxSlots maxContexts).run calls
    let create := fun names => (RealmOp.createEntity arena state names).run r
    ((∃ address r', create names = .ok address r') ↔
      r.heap.HasRoom arena ∧ (r.surroundings arena).Contract ⟨r.nextEntity⟩ state names) ∧
    (∀ order, names.Perm order →
      ((∃ address r', create names = .ok address r') ↔ ∃ address r', create order = .ok address r')) ∧
    (∀ address e, r.heap.entity address = .ok e → e.id ≠ ⟨r.nextEntity⟩) ∧
    (∀ address r', create names = .ok address r' → ∃ e, r'.heap.entity address = .ok e ∧
      e.id = ⟨r.nextEntity⟩ ∧ e.state = state ∧ e.concepts = names ∧ e.modifiers = [] ∧
      (∀ name ∈ names, ∀ c key, registry.concepts.get? name = some c → c.machine = some key →
        ∃ m, registry.machines.get? key = some m ∧ e.machine = some ⟨key, m.initial⟩) ∧
      ((∀ name ∈ names, ∀ c, registry.concepts.get? name = some c → c.machine = none) →
        e.machine = none)) := by
  intro r create
  have hsound : r.heap.Sound := sound_run (Heap.sound_empty maxSlots) calls
  obtain ⟨hcounted, hregistry, _⟩ := entitiesWellFormed_run hbuild maxSlots maxContexts calls
  change r.registry = registry at hregistry
  have hnamed := Registry.machinesNamed_of_build hbuild
  have hdefined := Registry.machinesDefined_of_build hbuild
  have hkinds := Registry.kindsApart_of_build hbuild
  rw [← hregistry] at hhidden hnamed hdefined hkinds
  have hcreate : ∀ order, names.Perm order → ((∃ address r', create order = .ok address r') ↔
      r.heap.HasRoom arena ∧ (r.surroundings arena).Contract ⟨r.nextEntity⟩ state order) := by
    intro order hperm
    have hhidden' : (r.surroundings arena).registry.HidesMachines order :=
      fun name hname => hhidden name (hperm.mem_iff.2 hname)
    rw [RealmOp.exists_createEntity_iff hsound,
      Surroundings.exists_implement_iff hnamed hdefined hhidden']
  refine ⟨hcreate names (.refl names), fun order hperm => ?_, fun address e hentity hid => ?_,
    fun address r' hrun => ?_⟩
  · rw [hcreate names (.refl names), hcreate order hperm]
    exact and_congr_right fun _ => ⟨fun hcontract => hcontract.perm hperm,
      fun hcontract => hcontract.perm hperm.symm⟩
  · have htaken := entitiesNumbered_run registry maxSlots maxContexts calls address e
      (hcounted.entity_eq_ok_iff.1 hentity)
    rw [hid] at htaken
    exact absurd htaken (Nat.lt_irrefl _)
  · obtain ⟨e, himplement, hread⟩ := RealmOp.entity_createEntity hsound hrun
    rw [← hregistry]
    exact ⟨e, hread, Surroundings.made_of_implement hkinds hnamed hdefined hhidden himplement⟩

/-- Concepts of which one brings a machine that shows its state in no field, and two have a method in
    common. -/
def meterDefinitions : List Registration :=
  (match Machine.ofEntries? "Round" ["idle", "running"] [("idle", ["running"])] with
    | .ok round => [.machine round]
    | .error _ => []) ++
  [.concept ⟨"Counter", .ofList [("count", .int)], .ofList [("step", fun _ => pure .null)], some "Round"⟩,
    .concept ⟨"Named", .ofList [("name", .str)], .empty, none⟩,
    .concept ⟨"Clash", .empty, .ofList [("step", fun _ => pure .null)], none⟩]

def meters : Registry :=
  match Registry.build meterDefinitions with
  | .ok registry => registry
  | .error _ => .empty

def gasMeter : State := .ofList [("count", .int 0), ("name", .str "gas")]

theorem createEntity_iff_contract_meters : ∃ address r' e address' r'',
    (RealmOp.createEntity ⟨1⟩ gasMeter ["Counter", "Named"]).run
      ((empty meters 8 8).run [.heap .createArena]) = .ok address r' ∧
    r'.heap.entity address = .ok e ∧ e.concepts = ["Counter", "Named"] ∧ e.modifiers = [] ∧
    e.state = gasMeter ∧ e.machine = some ⟨"Round", "idle"⟩ ∧
    (RealmOp.createEntity ⟨1⟩ gasMeter ["Named", "Counter"]).run
      ((empty meters 8 8).run [.heap .createArena]) = .ok address' r'' ∧
    ¬ (((empty meters 8 8).run [.heap .createArena]).surroundings ⟨1⟩).Contract ⟨1⟩ gasMeter
      ["Counter", "Clash"] := by
  have hbuild : Registry.build meterDefinitions = .ok meters := rfl
  have hhidden : meters.HidesMachines ["Counter", "Named", "Clash"] := by
    simp only [Registry.HidesMachines, List.forall_mem_cons]
    refine ⟨fun c key m hc hkey hm => ?_, fun c key m hc hkey _ => ?_, fun c key m hc hkey _ => ?_, nofun⟩
    · cases hc
      cases hkey
      cases hm
      rfl
    · cases hc
      cases hkey
    · cases hc
      cases hkey
  obtain ⟨_, horder, _, hmade⟩ := createEntity_iff_contract_of_run hbuild 8 8 [.heap .createArena] ⟨1⟩
    gasMeter fun name hname => hhidden name (List.mem_of_mem_take (i := 2) hname)
  obtain ⟨e, hread, _, hstate, hconcepts, hmodifiers, hmachine, _⟩ := hmade _ _ rfl
  obtain ⟨_, _, hstarted⟩ := hmachine "Counter" List.mem_cons_self _ "Round" rfl rfl
  obtain ⟨address', r'', hswapped⟩ :=
    (horder ["Named", "Counter"] (.swap "Named" "Counter" [])).1 ⟨_, _, rfl⟩
  obtain ⟨hclash, _⟩ := createEntity_iff_contract_of_run hbuild 8 8 [.heap .createArena] ⟨1⟩ gasMeter
    fun name hname => hhidden name (List.mem_of_mem_filter (p := (· ≠ "Named")) hname)
  refine ⟨_, _, e, address', r'', rfl, hread, hconcepts, hmodifiers, hstate, ?_, hswapped,
    fun hcontract => ?_⟩
  · cases hread
    rfl
  · obtain ⟨_, _, hrun⟩ := hclash.2 ⟨⟨_, rfl, by decide, by decide⟩, hcontract⟩
    cases hrun

end Realm

end CapabilityArena
