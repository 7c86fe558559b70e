import CapabilityArena.Proofs.Realm.Acquisition

/-!
A group as calls in turn. Inside the one transaction of a group its members are applied to an entity that is
stored nowhere; applied by calls of their own, each of them reads the entity that the one before has stored,
and the entity is validated once more after each. It comes to the same, whatever hooks do, up to the moment
when a member fails: the group takes back what the members before have done.
-/

namespace CapabilityArena

/-- The order in which the members of a group are applied. -/
def GroupDirection.order : GroupDirection → List String → List String
  | .add, members => members
  | .remove, members => members.reverse

namespace RealmOp

/-- One member by a call of its own. -/
def applyMember (address : Address) : GroupDirection → String → RealmOp Unit
  | .add, member => attach address member
  | .remove, member => detach address member

variable {r r' : Realm} {address : Address} {e : Entity} {direction : GroupDirection}
  {label member : String} {members : List String} {failure : Failure}

section LeavingValid

variable {α : Type} {change : Surroundings → EntityOp α}

/-- A change that leaves no entity but valid ones is stored whenever it succeeds. -/
theorem transact_eq_ok_iff_of_valid (hcounted : r.heap.Counted)
    (hstored : r.heap.content? address = some (.entity e))
    (hvalid : ∀ a e', (change (r.surroundings address.arena)).run e = .ok a e' →
      (r.surroundings address.arena).validate e' = .ok ()) {a : α} :
    (transact address change).run r = .ok a r' ↔ ∃ e',
      (change (r.surroundings address.arena)).run e = .ok a e' ∧
      r' = { r with heap := r.heap.putEntity address e' } := by
  rw [run_transact hcounted hstored, EntityOp.run_validated hvalid]
  cases (change (r.surroundings address.arena)).run e with
  | error failure e' => simp
  | ok b e' =>
    constructor
    · intro hrun
      cases hrun
      exact ⟨e', rfl, rfl⟩
    · rintro ⟨_, hrun, rfl⟩
      cases hrun
      rfl

theorem transact_eq_error_iff_of_valid (hcounted : r.heap.Counted)
    (hstored : r.heap.content? address = some (.entity e))
    (hvalid : ∀ a e', (change (r.surroundings address.arena)).run e = .ok a e' →
      (r.surroundings address.arena).validate e' = .ok ()) :
    (transact address change).run r = .error failure r' ↔ r' = r ∧ ∃ edited,
      (change (r.surroundings address.arena)).run e = .error failure edited := by
  rw [run_transact hcounted hstored, EntityOp.run_validated hvalid]
  cases (change (r.surroundings address.arena)).run e with
  | ok a e' => simp
  | error cause edited =>
    constructor
    · intro hrun
      cases hrun
      exact ⟨rfl, edited, rfl⟩
    · rintro ⟨rfl, _, hrun⟩
      cases hrun
      rfl

end LeavingValid

theorem applyMember_eq_transact : applyMember address direction member =
    transact address (·.applyMember direction member) := by
  cases direction <;> rfl

theorem applyMember_eq_ok_iff (hcounted : r.heap.Counted)
    (hstored : r.heap.content? address = some (.entity e)) :
    (applyMember address direction member).run r = .ok () r' ↔ ∃ e',
      ((r.surroundings address.arena).applyMember direction member).run e = .ok () e' ∧
      r' = { r with heap := r.heap.putEntity address e' } := by
  rw [applyMember_eq_transact, transact_eq_ok_iff_of_valid hcounted hstored]
  exact fun _ _ => Surroundings.validate_of_applyMember

theorem applyMember_eq_error_iff (hcounted : r.heap.Counted)
    (hstored : r.heap.content? address = some (.entity e)) :
    (applyMember address direction member).run r = .error failure r' ↔ r' = r ∧ ∃ edited,
      ((r.surroundings address.arena).applyMember direction member).run e = .error failure edited := by
  rw [applyMember_eq_transact, transact_eq_error_iff_of_valid hcounted hstored]
  exact fun _ _ => Surroundings.validate_of_applyMember

theorem attach_eq_ok_iff (hcounted : r.heap.Counted)
    (hstored : r.heap.content? address = some (.entity e)) {name : String} :
    (attach address name).run r = .ok () r' ↔ ∃ e',
      ((r.surroundings address.arena).attach name).run e = .ok () e' ∧
      r' = { r with heap := r.heap.putEntity address e' } := by
  change (applyMember address .add name).run r = _ ↔ _
  exact applyMember_eq_ok_iff hcounted hstored

theorem attach_eq_error_iff (hcounted : r.heap.Counted)
    (hstored : r.heap.content? address = some (.entity e)) {name : String} :
    (attach address name).run r = .error failure r' ↔ r' = r ∧ ∃ edited,
      ((r.surroundings address.arena).attach name).run e = .error failure edited := by
  change (applyMember address .add name).run r = _ ↔ _
  exact applyMember_eq_error_iff hcounted hstored

/-- Calls for members succeed exactly if the members can be applied to the entity one after the other, and
    store what that leaves. -/
theorem forM_applyMember_eq_ok_iff (hcounted : r.heap.Counted)
    (hstored : r.heap.content? address = some (.entity e)) :
    (members.forM (applyMember address direction)).run r = .ok () r' ↔ ∃ e',
      (members.forM ((r.surroundings address.arena).applyMember direction)).run e = .ok () e' ∧
      r' = { r with heap := r.heap.putEntity address e' } := by
  induction members generalizing r e with
  | nil =>
    constructor
    · intro hrun
      cases hrun
      exact ⟨e, rfl, by rw [hcounted.putEntity_self hstored]⟩
    · rintro ⟨_, hrun, rfl⟩
      cases hrun
      rw [hcounted.putEntity_self hstored]
      rfl
  | cons first members ih =>
    -- What the first call leaves is the realm with the edited entity, and the others start there.
    have hrest : ∀ edited, (members.forM (applyMember address direction)).run
        { r with heap := r.heap.putEntity address edited } = .ok () r' ↔ ∃ e',
        (members.forM ((r.surroundings address.arena).applyMember direction)).run edited = .ok () e' ∧
        r' = { r with heap := r.heap.putEntity address e' } := by
      intro edited
      rw [ih (hcounted.putEntity hstored edited) (Heap.content?_putEntity_self hcounted hstored edited)]
      simp only [hcounted.putEntity_putEntity hstored]
      rfl
    constructor
    · intro hrun
      obtain ⟨_, _, hfirst, hmembers⟩ := bind_eq_ok.1 hrun
      obtain ⟨edited, hedit, rfl⟩ := (applyMember_eq_ok_iff hcounted hstored).1 hfirst
      obtain ⟨e', happly, hdone⟩ := (hrest edited).1 hmembers
      exact ⟨e', bind_eq_ok.2 ⟨(), edited, hedit, happly⟩, hdone⟩
    · rintro ⟨e', happly, hdone⟩
      obtain ⟨_, edited, hedit, hmembers⟩ := bind_eq_ok.1 happly
      exact bind_eq_ok.2 ⟨(), _, (applyMember_eq_ok_iff hcounted hstored).2 ⟨edited, hedit, rfl⟩,
        (hrest edited).2 ⟨e', hmembers, hdone⟩⟩

theorem forM_attach_eq_ok_iff (hcounted : r.heap.Counted)
    (hstored : r.heap.content? address = some (.entity e)) {names : List String} :
    (names.forM (attach address)).run r = .ok () r' ↔ ∃ e',
      (names.forM (r.surroundings address.arena).attach).run e = .ok () e' ∧
      r' = { r with heap := r.heap.putEntity address e' } := by
  change (names.forM (applyMember address .add)).run r = _ ↔ _
  exact forM_applyMember_eq_ok_iff hcounted hstored

/-- A call that fails among calls for members leaves what the calls before it have left. -/
theorem forM_applyMember_eq_error (hcounted : r.heap.Counted)
    (hstored : r.heap.content? address = some (.entity e))
    (hrun : (members.forM (applyMember address direction)).run r = .error failure r') :
    ∃ before member later, members = before ++ member :: later ∧
      (before.forM (applyMember address direction)).run r = .ok () r' ∧
      (applyMember address direction member).run r' = .error failure r' := by
  obtain ⟨before, member, later, between, hmembers, hbefore, hmember⟩ := forM_eq_error.1 hrun
  obtain ⟨edited, _, rfl⟩ := (forM_applyMember_eq_ok_iff hcounted hstored).1 hbefore
  obtain ⟨rfl, _⟩ := (applyMember_eq_error_iff (hcounted.putEntity hstored edited)
    (Heap.content?_putEntity_self hcounted hstored edited)).1 hmember
  exact ⟨before, member, later, hmembers, hbefore, hmember⟩

/-- Members are applied together exactly if they can be applied by calls in turn, with the same result. -/
theorem transact_applyMembers_eq_ok_iff (hcounted : r.heap.Counted)
    (hstored : r.heap.content? address = some (.entity e))
    (hvalid : (r.surroundings address.arena).validate e = .ok ()) :
    (transact address (·.applyMembers label direction members)).run r = .ok () r' ↔
      (members.forM (applyMember address direction)).run r = .ok () r' := by
  rw [forM_applyMember_eq_ok_iff hcounted hstored, transact_eq_ok_iff_of_valid hcounted hstored
    fun _ _ => Surroundings.validate_of_applyMembers hvalid]
  simp only [Surroundings.applyMembers_eq_ok_iff]

/-- Members that cannot be applied together leave the realm as it was. The failure is that of the first one
    whose call fails after the calls for those before it, told with its name and the label. -/
theorem transact_applyMembers_eq_error_iff (hcounted : r.heap.Counted)
    (hstored : r.heap.content? address = some (.entity e))
    (hvalid : (r.surroundings address.arena).validate e = .ok ()) :
    (transact address (·.applyMembers label direction members)).run r = .error failure r' ↔ r' = r ∧
      ∃ before member later between cause, members = before ++ member :: later ∧
        (before.forM (applyMember address direction)).run r = .ok () between ∧
        (applyMember address direction member).run between = .error cause between ∧
        failure = .groupApplicationFailed label member cause := by
  rw [transact_eq_error_iff_of_valid hcounted hstored
    fun _ _ => Surroundings.validate_of_applyMembers hvalid]
  refine and_congr_right fun _ => ?_
  simp only [Surroundings.applyMembers_eq_error_iff]
  constructor
  · rintro ⟨edited, before, member, later, between, cause, hmembers, hbefore, hmember, rfl⟩
    exact ⟨before, member, later, _, cause, hmembers,
      (forM_applyMember_eq_ok_iff hcounted hstored).2 ⟨between, hbefore, rfl⟩,
      (applyMember_eq_error_iff (hcounted.putEntity hstored between)
        (Heap.content?_putEntity_self hcounted hstored between)).2 ⟨rfl, edited, hmember⟩, rfl⟩
  · rintro ⟨before, member, later, _, cause, hmembers, hbefore, hmember, rfl⟩
    obtain ⟨between, happly, rfl⟩ := (forM_applyMember_eq_ok_iff hcounted hstored).1 hbefore
    obtain ⟨_, edited, hfails⟩ := (applyMember_eq_error_iff (hcounted.putEntity hstored between)
      (Heap.content?_putEntity_self hcounted hstored between)).1 hmember
    exact ⟨edited, before, member, later, between, cause, hmembers, happly, hfails, rfl⟩

/-- To apply a registered group is to apply its members together, in the order of the direction. -/
theorem run_applyGroup {group : Group} (hgroup : r.registry.groups.get? group.name = some group) :
    (applyGroup address group.name direction).run r =
      (transact address
        (·.applyMembers group.name direction (direction.order group.members))).run r := by
  unfold applyGroup
  rw [EStateM.run_bind, EStateM.run_get]
  simp only [hgroup]
  cases direction <;> rfl

end RealmOp

namespace Realm

/-- An entity where it is stored in a realm, with all that holds of it there whatever calls have been
    made. -/
structure EntityAt (r : Realm) (registry : Registry) (address : Address) (e : Entity) : Prop where
  counted : r.heap.Counted
  registry_eq : r.registry = registry
  stored : r.heap.content? address = some (.entity e)
  wellFormed : e.WellFormed registry
  valid : (r.surroundings address.arena).validate e = .ok ()

theorem EntityAt.namesInOrder {r : Realm} {registry : Registry} {address : Address} {e : Entity}
    (hentity : r.EntityAt registry address e) : e.NamesInOrder r.registry := by
  rw [hentity.registry_eq]
  exact hentity.wellFormed.toNamesInOrder

theorem entityAt_of_run {registrations : List Registration} {registry : Registry}
    (hbuild : Registry.build registrations = .ok registry) (maxSlots maxContexts : Nat)
    (calls : List RealmCall) (address : Address) {e : Entity}
    (hentity : ((empty registry maxSlots maxContexts).run calls).heap.entity address = .ok e) :
    ((empty registry maxSlots maxContexts).run calls).EntityAt registry address e := by
  obtain ⟨hcounted, hregistry, hwellFormed⟩ :=
    entitiesWellFormed_run hbuild maxSlots maxContexts calls
  have hstored := hcounted.entity_eq_ok_iff.1 hentity
  have he := hwellFormed address e hstored
  rw [hregistry] at he
  exact ⟨hcounted, hregistry, hstored, he,
    valid_of_run hbuild maxSlots maxContexts calls address hentity⟩

/-- In every realm that calls can reach, a group is its members by calls in turn, all of them or none. It can
    be added exactly if its members can be attached by separate calls in the order of the declaration, and
    removed exactly if they can be detached in the reverse order; the same realm is left then. Where one of
    these calls would fail, the group fails with its own name, the first member whose call fails and the
    failure of that call, and leaves the realm as it was. -/
theorem applyGroup_in_turn_of_run {registrations : List Registration} {registry : Registry}
    (hbuild : Registry.build registrations = .ok registry) (maxSlots maxContexts : Nat)
    (calls : List RealmCall) (address : Address) {e : Entity}
    (hentity : ((empty registry maxSlots maxContexts).run calls).heap.entity address = .ok e)
    (group : Group) (hgroup : .group group ∈ registrations) (direction : GroupDirection) :
    let r := (empty registry maxSlots maxContexts).run calls
    let each := RealmOp.applyMember address direction
    (∀ r', (RealmOp.applyGroup address group.name direction).run r = .ok () r' ↔
      ((direction.order group.members).forM each).run r = .ok () r') ∧
    (∀ failure r', (RealmOp.applyGroup address group.name direction).run r = .error failure r' ↔ r' = r ∧
      ∃ before member later between cause, direction.order group.members = before ++ member :: later ∧
        (before.forM each).run r = .ok () between ∧ (each member).run between = .error cause between ∧
        failure = .groupApplicationFailed group.name member cause) := by
  intro r each
  obtain ⟨hcounted, hregistry, hstored, _, hvalid⟩ :=
    entityAt_of_run hbuild maxSlots maxContexts calls address hentity
  have hfiled : r.registry.groups.get? group.name = some group := by
    rw [hregistry]
    exact ((Registry.of_build_eq_ok hbuild).2.groups group.name group).2 ⟨hgroup, rfl⟩
  refine ⟨fun r' => ?_, fun failure r' => ?_⟩
  · rw [RealmOp.run_applyGroup hfiled, RealmOp.transact_applyMembers_eq_ok_iff hcounted hstored hvalid]
  · rw [RealmOp.run_applyGroup hfiled, RealmOp.transact_applyMembers_eq_error_iff hcounted hstored hvalid]

theorem applyGroup_in_turn_raised : ∃ r' between stopped failed,
    (["Noticed", "Urgent"].forM (RealmOp.applyMember (.ofParts ⟨1⟩ 0) .add)).run
      ((empty raisingDesk 8 8).run openTicket) = .ok () r' ∧
    (RealmOp.applyGroup (.ofParts ⟨1⟩ 0) "Raised" .add).run
      ((empty raisingDesk 8 8).run openTicket) = .ok () r' ∧
    (["Urgent"].forM (RealmOp.applyMember (.ofParts ⟨1⟩ 0) .add)).run
      ((empty raisingDesk 8 8).run openTicket) = .ok () between ∧
    (RealmOp.applyMember (.ofParts ⟨1⟩ 0) .add "Broken").run between =
      .error (.hookFailed "Broken" "no such desk") stopped ∧
    (RealmOp.applyGroup (.ofParts ⟨1⟩ 0) "Escalated" .add).run
      ((empty raisingDesk 8 8).run openTicket) =
        .error (.groupApplicationFailed "Escalated" "Broken" (.hookFailed "Broken" "no such desk"))
          failed ∧
    failed = (empty raisingDesk 8 8).run openTicket := by
  have hbuild : Registry.build raisingDefinitions = .ok raisingDesk := rfl
  have hraised : .group ⟨"Raised", ["Noticed", "Urgent"]⟩ ∈ raisingDefinitions :=
    List.mem_append_right _ (List.mem_cons_of_mem _ List.mem_cons_self)
  have hescalated : .group ⟨"Escalated", ["Urgent", "Broken"]⟩ ∈ raisingDefinitions :=
    List.mem_append_left _ (List.mem_append_right _ (by simp))
  obtain ⟨hadd, _⟩ := applyGroup_in_turn_of_run hbuild 8 8 openTicket (.ofParts ⟨1⟩ 0) rfl _ hraised .add
  obtain ⟨_, hfail⟩ :=
    applyGroup_in_turn_of_run hbuild 8 8 openTicket (.ofParts ⟨1⟩ 0) rfl _ hescalated .add
  exact ⟨_, _, _, _, rfl, (hadd _).2 rfl, rfl, rfl, rfl, ((hfail _ _).1 rfl).1⟩

end Realm

end CapabilityArena
