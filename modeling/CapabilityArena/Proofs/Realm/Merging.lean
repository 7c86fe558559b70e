import CapabilityArena.Proofs.Realm.Sequence
import CapabilityArena.Proofs.Transaction.Attaching

/-!
Merging an offer. The names to attach are worked out once, on the entity as it is before anything is
attached; attaching them in turn brings all that is offered, each name once, at the end of the list of its
kind. So a second merge finds nothing to do.
-/

namespace CapabilityArena

/-- What is planned besides: the names that are neither active nor planned, each where it comes first. -/
theorem planNames_eq (e : Entity) (plan names : List String) :
    planNames e plan names =
      plan ++ (names.filter fun name => !e.hasActive name && !plan.contains name).eraseDups := by
  induction names generalizing plan with
  | nil => simp [planNames]
  | cons first names ih =>
    rw [planNames, List.filter_cons]
    split
    next hnew =>
      have hrest : ∀ name, (!e.hasActive name && !(plan ++ [first]).contains name) =
          (!name == first && (!e.hasActive name && !plan.contains name)) := by
        intro name
        simp only [List.contains_append, List.contains_cons, List.contains_nil]
        grind
      simp only [ih, List.eraseDups_cons, List.filter_filter, List.append_assoc, List.singleton_append,
        hrest]
    next hold => rw [ih]

theorem Registry.expand_eq (r : Registry) (name : String) :
    r.expand name = (r.groups.get? name).elim [name] Group.members := by
  rw [expand]
  cases r.groups.get? name <;> rfl

namespace Surroundings

variable {s : Surroundings} {e e' : Entity} {name : String} {names : List String} {group : String}

/-- Names that are attached are active afterwards, and so are those that were active before. -/
theorem hasActive_of_applyMembers (hkinds : s.registry.KindsApart)
    (happly : (s.applyMembers group .add names).run e = .ok () e')
    (hname : e.hasActive name = true ∨ name ∈ names) : e'.hasActive name = true := by
  obtain ⟨hconcepts, hmodifiers⟩ := lists_of_applyMembers hkinds happly
  rw [Entity.hasActive_iff, Entity.active, hconcepts, hmodifiers]
  rcases hname with hactive | hmem
  · rw [Entity.hasActive_iff, Entity.active] at hactive
    grind
  · have hknown := (admissible_of_applyMembers happly name hmem).1
    rw [Registry.isKnown_iff_contains] at hknown
    grind

end Surroundings

namespace RealmOp

variable {r r' : Realm} {address : Address} {e : Entity} {label : String} {names : List String}
  {failure : Failure} {offer : Offer} {validator : Validator}

theorem attachAll_eq_ok_iff (hcounted : r.heap.Counted)
    (hstored : r.heap.content? address = some (.entity e))
    (hvalid : (r.surroundings address.arena).validate e = .ok ()) :
    (attachAll address label names).run r = .ok () r' ↔
      (names.forM (attach address)).run r = .ok () r' := by
  change (transact address (·.applyMembers label .add names)).run r = .ok () r' ↔
    (names.forM (applyMember address .add)).run r = .ok () r'
  exact transact_applyMembers_eq_ok_iff hcounted hstored hvalid

theorem attachAll_eq_error_iff (hcounted : r.heap.Counted)
    (hstored : r.heap.content? address = some (.entity e))
    (hvalid : (r.surroundings address.arena).validate e = .ok ()) :
    (attachAll address label names).run r = .error failure r' ↔ r' = r ∧
      ∃ before member later between cause, names = before ++ member :: later ∧
        (before.forM (attach address)).run r = .ok () between ∧
        (attach address member).run between = .error cause between ∧
        failure = .groupApplicationFailed label member cause := by
  change (transact address (·.applyMembers label .add names)).run r = .error failure r' ↔ _
  exact transact_applyMembers_eq_error_iff hcounted hstored hvalid

/-- What attaching leaves can be read again, and is valid. -/
theorem attachAll_eq_ok (hcounted : r.heap.Counted)
    (hstored : r.heap.content? address = some (.entity e))
    (hrun : (attachAll address label names).run r = .ok () r') : ∃ e',
      ((r.surroundings address.arena).applyMembers label .add names).run e = .ok () e' ∧
      r'.registry = r.registry ∧ r'.heap.Counted ∧ r'.heap.entity address = .ok e' ∧
      (r'.surroundings address.arena).validate e' = .ok () := by
  obtain ⟨_, e', hsame, happly, hvalid, rfl⟩ := (transact_eq_ok_iff hcounted).1 hrun
  cases hsame.symm.trans hstored
  have hcounted' := hcounted.putEntity hstored e'
  exact ⟨e', happly, rfl, hcounted',
    hcounted'.entity_eq_ok_iff.2 (Heap.content?_putEntity_self hcounted hstored e'), hvalid⟩

theorem merge_of_rejected (hentity : r.heap.entity address = .ok e) {reason : String}
    (hrejected : validator offer = .error reason) :
    (merge address offer validator).run r = .error (.negotiationRejected reason) r := by
  unfold merge
  rw [EStateM.run_bind, run_reading, hentity]
  simp only [unchanged, hrejected]
  rfl

/-- An accepted offer fails to be merged exactly if the names that are planned cannot be attached. -/
theorem merge_eq_error_iff (hentity : r.heap.entity address = .ok e)
    (haccepted : validator offer = .ok ()) :
    (merge address offer validator).run r = .error failure r' ↔
      (attachAll address ("offer:" ++ offer.origin) (r.plan e offer)).run r = .error failure r' := by
  unfold merge attachAll
  rw [EStateM.run_bind, run_reading, hentity]
  simp only [unchanged, haccepted, EStateM.run_bind, EStateM.run_get]
  cases (transact address (·.applyGroup ("offer:" ++ offer.origin) (r.plan e offer) .add)).run r <;> simp

end RealmOp

namespace Realm

/-- Merging an offer is exact, in every realm that calls can reach and whatever hooks and the validator do.
    What the validator rejects is not merged. An accepted offer is merged by attaching, in turn, all that it
    names and that is not active yet, the members of a group in its place and no name twice: the answer is
    the list of these names; all that was offered is active, and the new names stand at the end of the list
    of their kind; to merge the offer again does nothing. If one of the names cannot be attached, it is named
    in the failure, and nothing has changed. -/
theorem merge_exact_of_run {registrations : List Registration} {registry : Registry}
    (hbuild : Registry.build registrations = .ok registry) (maxSlots maxContexts : Nat)
    (calls : List RealmCall) (address : Address) {e : Entity}
    (hentity : ((empty registry maxSlots maxContexts).run calls).heap.entity address = .ok e)
    (offer : Offer) (validator : Validator) :
    let r := (empty registry maxSlots maxContexts).run calls
    let merge := RealmOp.merge address offer validator
    let offered := offer.capabilities.flatMap fun name => (registry.groups.get? name).elim [name] Group.members
    let new := (offered.filter fun name => !e.hasActive name).eraseDups
    (∀ reason, validator offer = .error reason →
      merge.run r = .error (.negotiationRejected reason) r) ∧
    (validator offer = .ok () →
      (∀ r', (new.forM (RealmOp.attach address)).run r = .ok () r' →
        merge.run r = .ok new r' ∧ merge.run r' = .ok [] r' ∧
        ∃ e', r'.heap.entity address = .ok e' ∧ (∀ name ∈ offered, e'.hasActive name = true) ∧
          e'.concepts = e.concepts ++ new.filter registry.concepts.contains ∧
          e'.modifiers = e.modifiers ++ new.filter registry.modifiers.contains) ∧
      (∀ cause stopped, (new.forM (RealmOp.attach address)).run r = .error cause stopped →
        ∃ before member later, new = before ++ member :: later ∧
          (before.forM (RealmOp.attach address)).run r = .ok () stopped ∧
          (RealmOp.attach address member).run stopped = .error cause stopped ∧
          merge.run r = .error (.groupApplicationFailed ("offer:" ++ offer.origin) member cause) r)) := by
  intro r merge offered new
  obtain ⟨hcounted, hregistry, hstored, _, hvalid⟩ :=
    entityAt_of_run hbuild maxSlots maxContexts calls address hentity
  change r.registry = registry at hregistry
  have hkinds : r.registry.KindsApart := hregistry ▸ Registry.kindsApart_of_build hbuild
  have hoffered : offer.capabilities.flatMap registry.expand = offered :=
    congrArg offer.capabilities.flatMap (funext registry.expand_eq)
  have hplan : r.plan e offer = new := by
    rw [plan, hregistry, planNames_eq, hoffered]
    simp [new]
  refine ⟨fun reason => RealmOp.merge_of_rejected hentity, fun haccepted => ⟨fun r' hattach => ?_,
    fun cause stopped hattach => ?_⟩⟩
  · have hall : (RealmOp.attachAll address ("offer:" ++ offer.origin) new).run r = .ok () r' :=
      (RealmOp.attachAll_eq_ok_iff hcounted hstored hvalid).2 hattach
    obtain ⟨e', happly, hsame, hcounted', hentity', hvalid'⟩ :=
      RealmOp.attachAll_eq_ok hcounted hstored hall
    have hactive : ∀ name ∈ offered, e'.hasActive name = true := by
      intro name hname
      refine Surroundings.hasActive_of_applyMembers hkinds happly ?_
      cases hold : e.hasActive name with
      | true => exact .inl rfl
      | false => exact .inr (List.mem_eraseDups.2 (List.mem_filter.2 ⟨hname, by rw [hold]; rfl⟩))
    have hnone : r'.plan e' offer = [] := by
      rw [plan, hsame, hregistry, hoffered]
      exact planNames_eq_self fun name hname => .inl (hactive name hname)
    have hnothing := RealmOp.attachAll_nil hcounted' hentity' hvalid' ("offer:" ++ offer.origin)
    obtain ⟨hconcepts, hmodifiers⟩ := Surroundings.lists_of_applyMembers hkinds happly
    rw [surroundings, hregistry] at hconcepts hmodifiers
    rw [← hplan] at hall
    rw [← hnone] at hnothing
    exact ⟨(RealmOp.merge_eq_ok_iff hentity haccepted).2 ⟨hplan.symm, hall⟩,
      (RealmOp.merge_eq_ok_iff hentity' haccepted).2 ⟨hnone.symm, hnothing⟩, e', hentity', hactive,
      hconcepts, hmodifiers⟩
  · change (new.forM (RealmOp.applyMember address .add)).run r = _ at hattach
    obtain ⟨before, member, later, hnew, hbefore, hmember⟩ :=
      RealmOp.forM_applyMember_eq_error hcounted hstored hattach
    refine ⟨before, member, later, hnew, hbefore, hmember, ?_⟩
    rw [RealmOp.merge_eq_error_iff hentity haccepted, hplan,
      RealmOp.attachAll_eq_error_iff hcounted hstored hvalid]
    exact ⟨rfl, before, member, later, stopped, cause, hnew, hbefore, hmember, rfl⟩

theorem merge_exact_raised : ∃ r' e' failed,
    (RealmOp.merge (.ofParts ⟨1⟩ 0) (.unsigned "partner" ["Raised", "Ticket", "Noticed"])
      fun _ => .error "closed").run ((empty raisingDesk 8 8).run openTicket) =
        .error (.negotiationRejected "closed") ((empty raisingDesk 8 8).run openTicket) ∧
    (RealmOp.merge (.ofParts ⟨1⟩ 0) (.unsigned "partner" ["Raised", "Ticket", "Noticed"])
      fun _ => .ok ()).run ((empty raisingDesk 8 8).run openTicket) = .ok ["Noticed", "Urgent"] r' ∧
    (RealmOp.merge (.ofParts ⟨1⟩ 0) (.unsigned "partner" ["Raised", "Ticket", "Noticed"])
      fun _ => .ok ()).run r' = .ok [] r' ∧
    r'.heap.entity (.ofParts ⟨1⟩ 0) = .ok e' ∧ e'.concepts = ["Ticket"] ∧
    e'.modifiers = ["Noticed", "Urgent"] ∧
    (RealmOp.merge (.ofParts ⟨1⟩ 0) (.unsigned "partner" ["Urgent", "Escalated"])
      fun _ => .ok ()).run ((empty raisingDesk 8 8).run openTicket) =
        .error (.groupApplicationFailed "offer:partner" "Broken" (.hookFailed "Broken" "no such desk"))
          failed ∧
    failed = (empty raisingDesk 8 8).run openTicket := by
  have hbuild : Registry.build raisingDefinitions = .ok raisingDesk := rfl
  obtain ⟨hrejected, _⟩ := merge_exact_of_run hbuild 8 8 openTicket (.ofParts ⟨1⟩ 0) rfl
    (.unsigned "partner" ["Raised", "Ticket", "Noticed"]) fun _ => .error "closed"
  obtain ⟨_, haccepted⟩ := merge_exact_of_run hbuild 8 8 openTicket (.ofParts ⟨1⟩ 0) rfl
    (.unsigned "partner" ["Raised", "Ticket", "Noticed"]) fun _ => .ok ()
  obtain ⟨hmerge, hagain, e', hentity, _, hconcepts, hmodifiers⟩ := (haccepted rfl).1 _ rfl
  obtain ⟨_, hbroken⟩ := merge_exact_of_run hbuild 8 8 openTicket (.ofParts ⟨1⟩ 0) rfl
    (.unsigned "partner" ["Urgent", "Escalated"]) fun _ => .ok ()
  obtain ⟨_, _, _, _, _, _, hfailed⟩ := (hbroken rfl).2 _ _ rfl
  exact ⟨_, e', _, hrejected "closed" rfl, hmerge, hagain, hentity, hconcepts, hmodifiers, rfl,
    (EStateM.Result.error.inj (hfailed.symm.trans rfl)).2.symm⟩

end Realm

end CapabilityArena
