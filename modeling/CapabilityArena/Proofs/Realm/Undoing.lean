import CapabilityArena.Proofs.Realm.Sequence
import CapabilityArena.Proofs.Transaction.Declarative

/-!
Undoing. A declarative capability that found none of its fields on an entity leaves nothing behind when it is
detached again, and neither does a group of them when it is removed. What has to be valid on the way back was
valid on the way there.
-/

namespace CapabilityArena

namespace RealmOp

variable {r r' : Realm} {address : Address} {e : Entity}

/-- Where the entity that is stored can be led back, so can the realm. -/
theorem transact_back (hcounted : r.heap.Counted) (hstored : r.heap.content? address = some (.entity e))
    (hvalid : (r.surroundings address.arena).validate e = .ok ()) {change : Surroundings → EntityOp Unit}
    {e' : Entity} (hback : (change (r.surroundings address.arena)).run e' = .ok () e) :
    (transact address change).run { r with heap := r.heap.putEntity address e' } = .ok () r := by
  refine (transact_eq_ok_iff (hcounted.putEntity hstored e')).2
    ⟨e', e, Heap.content?_putEntity_self hcounted hstored e', hback, hvalid, ?_⟩
  simp only [hcounted.putEntity_putEntity hstored, hcounted.putEntity_self hstored]

end RealmOp

namespace Realm

/-- In every realm that calls can reach, detaching a declarative capability undoes attaching it, and removing
    a group of them undoes adding it: the realm is what it was, the entity with its fields, its names in
    their order and its machine included. All that is asked is that the entity had none of the fields that
    are written, and that members of a group write different ones. -/
theorem detach_undoes_attach_of_run {registrations : List Registration} {registry : Registry}
    (hbuild : Registry.build registrations = .ok registry) (maxSlots maxContexts : Nat)
    (calls : List RealmCall) (address : Address) {e : Entity}
    (hentity : ((empty registry maxSlots maxContexts).run calls).heap.entity address = .ok e) :
    let r := (empty registry maxSlots maxContexts).run calls
    (∀ name written r', registry.Writes name written →
      (∀ key ∈ written.map (·.1), e.state.contains key = false) →
      (RealmOp.attach address name).run r = .ok () r' →
      (RealmOp.detach address name).run r' = .ok () r) ∧
    (∀ group (written : String → List (String × Value)) r', .group group ∈ registrations →
      (∀ member ∈ group.members, registry.Writes member (written member)) →
      (∀ member ∈ group.members, ∀ key ∈ (written member).map (·.1), e.state.contains key = false) →
      (group.members.Pairwise fun first second =>
        ((written first).map (·.1)).Disjoint ((written second).map (·.1))) →
      (RealmOp.applyGroup address group.name .add).run r = .ok () r' →
      (RealmOp.applyGroup address group.name .remove).run r' = .ok () r) := by
  intro r
  obtain ⟨hcounted, hregistry, hstored, _, hvalid⟩ :=
    entityAt_of_run hbuild maxSlots maxContexts calls address hentity
  change r.registry = registry at hregistry
  refine ⟨fun name written r' hwrites hfree hattach => ?_,
    fun group written r' hgroup hwrites hfree hapart hadd => ?_⟩
  · rw [← hregistry] at hwrites
    obtain ⟨e', hedit, rfl⟩ := (RealmOp.attach_eq_ok_iff hcounted hstored).1 hattach
    exact RealmOp.transact_back hcounted hstored hvalid
      (Surroundings.detach_of_attach hvalid hwrites hfree hedit)
  · simp only [← hregistry] at hwrites
    have hfiled : r.registry.groups.get? group.name = some group := by
      rw [hregistry]
      exact ((Registry.of_build_eq_ok hbuild).2.groups group.name group).2 ⟨hgroup, rfl⟩
    rw [RealmOp.run_applyGroup hfiled] at hadd
    obtain ⟨e', hedit, rfl⟩ := (RealmOp.transact_eq_ok_iff_of_valid hcounted hstored
      fun _ _ => Surroundings.validate_of_applyMembers hvalid).1 hadd
    have hback := Surroundings.removal_of_adding hvalid hwrites hfree hapart
      (Surroundings.applyMembers_eq_ok_iff.1 hedit)
    refine Eq.trans (RealmOp.run_applyGroup ?_) ?_
    · exact hfiled
    · exact RealmOp.transact_back hcounted hstored hvalid (Surroundings.applyMembers_eq_ok_iff.2 hback)

/-- Users whose discount is a field of a modifier that brings a machine as well. -/
def discountDefinitions : List Registration :=
  (match Machine.ofEntries? "Trial" ["running", "over"] [("running", ["over"])] with
    | .ok trial => [.machine (trial.withStateKey "trial")]
    | .error _ => []) ++
  [.concept ⟨"User", .ofList [("name", .str)], .empty, none⟩,
    .modifier { Modifier.declarative "Premium" [⟨"discount", .int, .int 10⟩] with machine := some "Trial" },
    .concept ⟨"Discounted", .ofList [("discount", .int), ("trial", .str)], .empty, none⟩,
    .group ⟨"Offered", ["Premium", "Discounted"]⟩]

def discounts : Registry :=
  match Registry.build discountDefinitions with
  | .ok registry => registry
  | .error _ => .empty

def openUser : List RealmCall :=
  [.heap .createArena, .createEntity ⟨1⟩ (.ofList [("name", .str "ann")]) ["User"]]

theorem detach_undoes_attach_premium : ∃ r' offered,
    (RealmOp.attach (.ofParts ⟨1⟩ 0) "Premium").run ((empty discounts 8 8).run openUser) = .ok () r' ∧
    (r'.getState (.ofParts ⟨1⟩ 0) "trial").toOption = some (some (.str "running")) ∧
    (RealmOp.detach (.ofParts ⟨1⟩ 0) "Premium").run r' = .ok () ((empty discounts 8 8).run openUser) ∧
    (RealmOp.applyGroup (.ofParts ⟨1⟩ 0) "Offered" .add).run ((empty discounts 8 8).run openUser) =
      .ok () offered ∧
    (RealmOp.applyGroup (.ofParts ⟨1⟩ 0) "Offered" .remove).run offered =
      .ok () ((empty discounts 8 8).run openUser) := by
  have hbuild : Registry.build discountDefinitions = .ok discounts := rfl
  have hpremium : discounts.Writes "Premium" [("discount", .int 10), ("trial", .str "running")] :=
    ⟨_, [⟨"discount", .int, .int 10⟩], rfl, .modifier rfl rfl, rfl⟩
  have hdiscounted : discounts.Writes "Discounted" [] := ⟨_, [], rfl, .concept _, rfl⟩
  have hoffered : .group ⟨"Offered", ["Premium", "Discounted"]⟩ ∈ discountDefinitions :=
    List.mem_append_right _ (by simp)
  obtain ⟨hdetach, hremove⟩ :=
    detach_undoes_attach_of_run hbuild 8 8 openUser (.ofParts ⟨1⟩ 0) rfl
  have hfree : ∀ key ∈ ["discount", "trial"],
      Dictionary.contains (Dictionary.ofList [("name", Value.str "ann")]) key = false := by
    simp only [List.forall_mem_cons]
    exact ⟨rfl, rfl, List.forall_mem_nil _⟩
  refine ⟨_, _, rfl, rfl, hdetach _ _ _ hpremium hfree rfl, rfl,
    hremove _ (fun member => if member = "Premium" then
      [("discount", .int 10), ("trial", .str "running")] else []) _ hoffered ?_ ?_ ?_ rfl⟩
  · simp only [List.forall_mem_cons]
    exact ⟨hpremium, hdiscounted, List.forall_mem_nil _⟩
  · simp only [List.forall_mem_cons]
    exact ⟨hfree, List.forall_mem_nil _, List.forall_mem_nil _⟩
  · simp

end Realm

end CapabilityArena
