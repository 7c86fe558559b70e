import CapabilityArena.Proofs.Realm.Aliasing
import CapabilityArena.Proofs.Realm.WellFormed

/-!
Three ways to come by capabilities. Acquiring and merging work out for themselves which names have to be
attached, and a group is attached as it was declared; acquiring asks a policy first and the others do not.
Still they agree. One list of names (`planNames`) is behind all three, and whatever the standard policy
refuses, attaching would have refused.
-/

namespace CapabilityArena

/-! The names that have to be attached. -/

section Plans

variable {e : Entity} {plan names : List String} {name : String}

theorem mem_planNames :
    name ∈ planNames e plan names ↔ name ∈ plan ∨ name ∈ names ∧ e.hasActive name = false := by
  induction names generalizing plan with
  | nil => simp [planNames]
  | cons first names ih =>
    rw [planNames]
    split
    next hnew =>
      rw [ih]
      grind
    next hold =>
      rw [ih]
      grind

/-- Names that are active or planned already add nothing. -/
theorem planNames_eq_self (hold : ∀ name ∈ names, e.hasActive name = true ∨ name ∈ plan) :
    planNames e plan names = plan := by
  induction names with
  | nil => rfl
  | cons first names ih =>
    obtain ⟨hfirst, hrest⟩ := List.forall_mem_cons.1 hold
    rw [planNames, if_neg, ih hrest]
    rcases hfirst with hactive | hplanned
    · simp [hactive]
    · simp [hplanned]

/-- Names that are all new are planned as they come. -/
theorem planNames_of_new (hinactive : ∀ name ∈ names, e.hasActive name = false)
    (hnodup : (plan ++ names).Nodup) : planNames e plan names = plan ++ names := by
  induction names generalizing plan with
  | nil => rw [planNames, List.append_nil]
  | cons first names ih =>
    obtain ⟨hfirst, hrest⟩ := List.forall_mem_cons.1 hinactive
    have hunplanned : first ∉ plan := fun hmem =>
      (List.nodup_append.1 hnodup).2.2 first hmem first List.mem_cons_self rfl
    rw [List.append_cons] at hnodup ⊢
    rw [planNames, if_pos (by simp [hfirst, hunplanned]), ih hrest hnodup]

theorem planNames_append (e : Entity) (plan first last : List String) :
    planNames e plan (first ++ last) = planNames e (planNames e plan first) last := by
  induction first generalizing plan with
  | nil => rfl
  | cons name first ih =>
    rw [List.cons_append, planNames, planNames]
    split
    next => exact ih _
    next => exact ih _

/-- To go through the missing names in the order of a request is to plan what is requested. -/
theorem inFirstOrder_eq_planNames {missing : KeySet String}
    (hmissing : ∀ name ∈ names, missing.contains name = !e.hasActive name) (listed : List String) :
    inFirstOrder missing listed names = planNames e listed names := by
  induction names generalizing listed with
  | nil => rfl
  | cons first names ih =>
    obtain ⟨hfirst, hrest⟩ := List.forall_mem_cons.1 hmissing
    rw [inFirstOrder, planNames, hfirst]
    split
    next => exact ih hrest _
    next => exact ih hrest _

theorem Realm.missing_spec {r : Realm} {address : Address} (hentity : r.heap.entity address = .ok e)
    (required : List String) : ∃ missing, r.missing address required = .ok missing ∧
      ∀ name, missing.contains name = true ↔ name ∈ required ∧ e.hasActive name = false := by
  refine ⟨_, by rw [Realm.missing, hentity]; rfl, fun name => ?_⟩
  rw [KeySet.contains_ofList, List.mem_filter, Bool.not_eq_true']

variable {r : Registry}

theorem flatMap_expand_of_names (hnames : ∀ name ∈ names, r.groups.get? name = none) :
    names.flatMap r.expand = names := by
  induction names with
  | nil => rfl
  | cons first names ih =>
    obtain ⟨hfirst, hrest⟩ := List.forall_mem_cons.1 hnames
    rw [List.flatMap_cons, ih hrest, Registry.expand, hfirst]
    rfl

/-- A group none of whose members is active is planned as it was declared, however often it is named. -/
theorem planNames_of_group {group : Group} (hgroup : r.groups.get? group.name = some group)
    (hnodup : group.members.Nodup) (hinactive : ∀ member ∈ group.members, e.hasActive member = false)
    (hnamed : names ≠ []) (honly : ∀ name ∈ names, name = group.name) :
    planNames e [] (names.flatMap r.expand) = group.members := by
  have hexpand : ∀ name ∈ names, r.expand name = group.members := by
    intro name hmem
    rw [honly name hmem, Registry.expand, hgroup]
  cases names with
  | nil => exact absurd rfl hnamed
  | cons first others =>
    obtain ⟨hfirst, hothers⟩ := List.forall_mem_cons.1 hexpand
    have hmembers : planNames e [] group.members = group.members := planNames_of_new hinactive hnodup
    rw [List.flatMap_cons, hfirst, planNames_append, hmembers]
    refine planNames_eq_self fun member hmem => .inr ?_
    obtain ⟨name, hname, hmember⟩ := List.mem_flatMap.1 hmem
    rwa [hothers name hname] at hmember

end Plans

/-! Each way as one transaction over the planned names. -/

namespace RealmOp

variable {r r' : Realm} {address : Address} {e : Entity} {answer : List String}

/-- All names are attached, under a label, or none. -/
def attachAll (address : Address) (label : String) (names : List String) : RealmOp Unit :=
  transact address (·.applyGroup label names .add)

/-- The label shows in failures and nowhere else. -/
theorem attachAll_relabel (hcounted : r.heap.Counted) (label other : String) {names : List String} :
    (attachAll address label names).run r = .ok () r' ↔ (attachAll address other names).run r = .ok () r' := by
  have hrelabel : ∀ label other, (attachAll address label names).run r = .ok () r' →
      (attachAll address other names).run r = .ok () r' := by
    intro label other hrun
    obtain ⟨before, after, hstored, happly, hdone⟩ := (transact_eq_ok_iff hcounted).1 hrun
    exact (transact_eq_ok_iff hcounted).2
      ⟨before, after, hstored, Surroundings.applyMembers_relabel happly, hdone⟩
  exact ⟨hrelabel label other, hrelabel other label⟩

/-- To attach nothing is to check that the entity is valid. -/
theorem attachAll_nil (hcounted : r.heap.Counted) (hentity : r.heap.entity address = .ok e)
    (hvalid : (r.surroundings address.arena).validate e = .ok ()) (label : String) :
    (attachAll address label []).run r = .ok () r := by
  have hstored := hcounted.entity_eq_ok_iff.1 hentity
  refine (transact_eq_ok_iff hcounted).2 ⟨e, e, hstored, rfl, hvalid, ?_⟩
  rw [hcounted.putEntity_self hstored]

/-- Names that are attached are known, and permitted to the entity from the start. -/
theorem admissible_of_attachAll (hcounted : r.heap.Counted) (hentity : r.heap.entity address = .ok e)
    {label : String} {names : List String} (hrun : (attachAll address label names).run r = .ok () r') :
    ∀ name ∈ names, r.registry.isKnown name = true ∧ r.contexts.permits e.id name = true := by
  obtain ⟨before, _, hstored, happly, _⟩ := (transact_eq_ok_iff hcounted).1 hrun
  cases hstored.symm.trans (hcounted.entity_eq_ok_iff.1 hentity)
  exact Surroundings.admissible_of_applyMembers happly

/-- What acquiring asks of the policy, and what it attaches if the policy allows it. -/
theorem run_acquire (hpolicy : r.policy = AcquisitionPolicy.standard)
    (hentity : r.heap.entity address = .ok e) (required : List String) : ∃ missing : KeySet String,
    (∀ name, missing.contains name = true ↔ name ∈ planNames e [] required) ∧
    (acquire address required).run r =
      if missing.isEmpty then .ok [] r
      else if AcquisitionPolicy.standard r.registry r.contexts e missing then
        (attachAll address "acquire" (planNames e [] required) >>=
          fun _ => pure (planNames e [] required)).run r
      else .error (.permissionDenied (", ".intercalate missing.toList) .acquisitionPolicy) r := by
  obtain ⟨missing, hread, hmissing⟩ := Realm.missing_spec hentity required
  have hordered : inFirstOrder missing [] required = planNames e [] required := by
    refine inFirstOrder_eq_planNames (fun name hmem => ?_) []
    rw [Bool.eq_iff_iff, hmissing, Bool.not_eq_true', and_iff_right hmem]
  have hallowed : r.canAcquire address missing =
      .ok (AcquisitionPolicy.standard r.registry r.contexts e missing) := by
    rw [Realm.canAcquire, hentity, hpolicy]
    rfl
  refine ⟨missing, fun name => ?_, ?_⟩
  · rw [hmissing, mem_planNames]
    simp
  unfold acquire
  rw [EStateM.run_bind, run_reading, hread]
  cases hempty : missing.isEmpty with
  | true => simp only [unchanged, hempty, ↓reduceIte, EStateM.run_pure]
  | false =>
    simp only [unchanged, hempty, hordered]
    rw [if_neg Bool.false_ne_true, if_neg Bool.false_ne_true, EStateM.run_bind, run_reading, hallowed]
    cases AcquisitionPolicy.standard r.registry r.contexts e missing <;> rfl

/-- The policy admits names that are known and permitted, and no others. -/
theorem standard_eq_true_iff {registry : Registry} {contexts : ContextStack} {missing : KeySet String} :
    AcquisitionPolicy.standard registry contexts e missing = true ↔ ∀ name, missing.contains name = true →
      registry.isKnown name = true ∧ contexts.permits e.id name = true := by
  rw [AcquisitionPolicy.standard, List.all_eq_true]
  refine forall_congr' fun name => imp_congr Dictionary.mem_keys_iff ?_
  rw [Bool.and_eq_true]

section Standard

variable {required : List String}

/-- Names that are all known and permitted are attached. -/
theorem run_acquire_of_admissible (hcounted : r.heap.Counted)
    (hpolicy : r.policy = AcquisitionPolicy.standard) (hentity : r.heap.entity address = .ok e)
    (hvalid : (r.surroundings address.arena).validate e = .ok ())
    (hadmissible : ∀ name ∈ planNames e [] required,
      r.registry.isKnown name = true ∧ r.contexts.permits e.id name = true) :
    (acquire address required).run r = (attachAll address "acquire" (planNames e [] required) >>=
      fun _ => pure (planNames e [] required)).run r := by
  obtain ⟨missing, hmissing, hrun⟩ := run_acquire hpolicy hentity required
  rw [hrun]
  cases hempty : missing.isEmpty with
  | true =>
    have hplan : planNames e [] required = [] := by
      refine List.eq_nil_iff_forall_not_mem.2 fun name hmem => ?_
      have hnone := Dictionary.isEmpty_iff.1 hempty name
      rw [(hmissing name).2 hmem] at hnone
      cases hnone
    rw [if_pos rfl, hplan, EStateM.run_bind, attachAll_nil hcounted hentity hvalid]
    rfl
  | false =>
    rw [if_neg Bool.false_ne_true,
      if_pos (standard_eq_true_iff.2 fun name hname => hadmissible name ((hmissing name).1 hname))]

/-- Where one of them is not, the policy refuses. -/
theorem run_acquire_of_inadmissible (hpolicy : r.policy = AcquisitionPolicy.standard)
    (hentity : r.heap.entity address = .ok e)
    (hinadmissible : ¬ ∀ name ∈ planNames e [] required,
      r.registry.isKnown name = true ∧ r.contexts.permits e.id name = true) :
    ∃ names, (acquire address required).run r = .error (.permissionDenied names .acquisitionPolicy) r := by
  obtain ⟨missing, hmissing, hrun⟩ := run_acquire hpolicy hentity required
  have hrefused : ¬ AcquisitionPolicy.standard r.registry r.contexts e missing = true := by
    rw [standard_eq_true_iff]
    exact fun hadmitted => hinadmissible fun name hmem => hadmitted name ((hmissing name).2 hmem)
  have hsome : ¬ missing.isEmpty = true := by
    rw [Dictionary.isEmpty_iff]
    refine fun hnone => hinadmissible fun name hmem => ?_
    cases (hnone name).symm.trans ((hmissing name).2 hmem)
  rw [hrun, if_neg hsome, if_neg hrefused]
  exact ⟨_, rfl⟩

/-- Acquiring under the standard policy is attaching the names that are planned: where the policy refuses,
    attaching would fail. -/
theorem acquire_eq_ok_iff (hcounted : r.heap.Counted) (hpolicy : r.policy = AcquisitionPolicy.standard)
    (hentity : r.heap.entity address = .ok e)
    (hvalid : (r.surroundings address.arena).validate e = .ok ()) {required : List String} :
    (acquire address required).run r = .ok answer r' ↔ answer = planNames e [] required ∧
      (attachAll address "acquire" (planNames e [] required)).run r = .ok () r' := by
  by_cases hadmissible : ∀ name ∈ planNames e [] required,
      r.registry.isKnown name = true ∧ r.contexts.permits e.id name = true
  · rw [run_acquire_of_admissible hcounted hpolicy hentity hvalid hadmissible]
    exact bind_pure_eq_ok
  · obtain ⟨names, hrefused⟩ := run_acquire_of_inadmissible hpolicy hentity hadmissible
    refine iff_of_false (fun hrun => ?_) (fun hattach => ?_)
    · cases hrefused.symm.trans hrun
    · exact hadmissible (admissible_of_attachAll hcounted hentity hattach.2)

end Standard

/-- Merging an accepted offer is attaching the names that are planned. -/
theorem merge_eq_ok_iff (hentity : r.heap.entity address = .ok e) {offer : Offer} {validator : Validator}
    (haccepted : validator offer = .ok ()) :
    (merge address offer validator).run r = .ok answer r' ↔ answer = r.plan e offer ∧
      (attachAll address ("offer:" ++ offer.origin) (r.plan e offer)).run r = .ok () r' := by
  unfold merge
  rw [EStateM.run_bind, run_reading, hentity]
  simp only [unchanged, haccepted, EStateM.run_bind, EStateM.run_get]
  exact bind_pure_eq_ok

theorem applyGroup_eq_ok_iff {group : Group} (hgroup : r.registry.groups.get? group.name = some group) :
    (applyGroup address group.name .add).run r = .ok () r' ↔
      (attachAll address group.name group.members).run r = .ok () r' := by
  unfold applyGroup
  rw [EStateM.run_bind, EStateM.run_get]
  simp only [hgroup]
  rfl

/-! Where no entity can be read, acquiring and merging fail alike. -/

theorem acquire_eq_error {failure : Failure} (hentity : r.heap.entity address = .error failure)
    {required : List String} : (acquire address required).run r = .error failure r := by
  unfold acquire
  rw [EStateM.run_bind, run_reading, Realm.missing, hentity]
  rfl

theorem merge_eq_error {failure : Failure} (hentity : r.heap.entity address = .error failure)
    {offer : Offer} {validator : Validator} :
    (merge address offer validator).run r = .error failure r := by
  unfold merge
  rw [EStateM.run_bind, run_reading, hentity]
  rfl

end RealmOp

namespace Realm

/-- Whatever calls have been made, an entity that can be read is valid where it is. -/
theorem valid_of_run {registrations : List Registration} {registry : Registry}
    (hbuild : Registry.build registrations = .ok registry) (maxSlots maxContexts : Nat)
    (calls : List RealmCall) (address : Address) {e : Entity}
    (hentity : ((empty registry maxSlots maxContexts).run calls).heap.entity address = .ok e) :
    (((empty registry maxSlots maxContexts).run calls).surroundings address.arena).validate e =
      .ok () := by
  obtain ⟨hcounted, hregistry, hwellFormed⟩ :=
    entitiesWellFormed_run hbuild maxSlots maxContexts calls
  have hstored := hcounted.entity_eq_ok_iff.1 hentity
  have hhome := atHome_run registry maxSlots maxContexts calls address _ hstored
  exact Surroundings.validate_of_wellFormed (hwellFormed address e hstored) hhome

/-- The ways to come by capabilities agree, in every realm that calls can reach and whatever hooks do. For
    names that are no groups, acquiring them under the standard policy and merging an accepted offer of them
    succeed together, with the same answer and the same realm afterwards. For a group none of whose members
    is active, merging an accepted offer of it succeeds exactly if applying the group does, leaves the same
    realm, and answers the members in the order of the declaration. -/
theorem acquisitions_agree_of_run {registrations : List Registration} {registry : Registry}
    (hbuild : Registry.build registrations = .ok registry) (maxSlots maxContexts : Nat)
    (calls : List RealmCall) (address : Address) (offer : Offer) (validator : Validator)
    (haccepted : validator offer = .ok ()) :
    let r := (empty registry maxSlots maxContexts).run calls
    (r.policy = AcquisitionPolicy.standard →
      (∀ group, .group group ∈ registrations → group.name ∉ offer.capabilities) →
      ∀ answer r', (RealmOp.acquire address offer.capabilities).run r = .ok answer r' ↔
        (RealmOp.merge address offer validator).run r = .ok answer r') ∧
    (∀ group e, .group group ∈ registrations → r.heap.entity address = .ok e →
      (∀ member ∈ group.members, e.hasActive member = false) →
      offer.capabilities ≠ [] → (∀ name ∈ offer.capabilities, name = group.name) →
      ∀ answer r', (RealmOp.merge address offer validator).run r = .ok answer r' ↔
        answer = group.members ∧ (RealmOp.applyGroup address group.name .add).run r = .ok () r') := by
  intro r
  obtain ⟨hcounted, hregistry, _⟩ := entitiesWellFormed_run hbuild maxSlots maxContexts calls
  obtain ⟨hconsistent, hholds⟩ := Registry.of_build_eq_ok hbuild
  change r.heap.Counted at hcounted
  change r.registry = registry at hregistry
  refine ⟨fun hpolicy hnames answer r' => ?_, fun group e hmem hentity hinactive hnamed honly answer r' => ?_⟩
  · cases hentity : r.heap.entity address with
    | error failure =>
      rw [RealmOp.acquire_eq_error hentity, RealmOp.merge_eq_error hentity]
    | ok e =>
      have hvalid := valid_of_run hbuild maxSlots maxContexts calls address hentity
      have hplan : r.plan e offer = planNames e [] offer.capabilities := by
        rw [plan, hregistry, flatMap_expand_of_names fun name hname => ?_]
        refine Option.eq_none_iff_forall_ne_some.2 fun group hgroup => ?_
        obtain ⟨hmem, rfl⟩ := (hholds.groups name group).1 hgroup
        exact hnames group hmem hname
      rw [RealmOp.acquire_eq_ok_iff hcounted hpolicy hentity hvalid,
        RealmOp.merge_eq_ok_iff hentity haccepted, hplan, RealmOp.attachAll_relabel hcounted]
  · have hgroup : registry.groups.get? group.name = some group :=
      (hholds.groups group.name group).2 ⟨hmem, rfl⟩
    have hplan : r.plan e offer = group.members := by
      rw [plan, hregistry]
      exact planNames_of_group hgroup (hconsistent.members_nodup group hmem) hinactive hnamed honly
    rw [← hregistry] at hgroup
    rw [RealmOp.merge_eq_ok_iff hentity haccepted, RealmOp.applyGroup_eq_ok_iff hgroup, hplan,
      RealmOp.attachAll_relabel hcounted]

/-- A desk at which tickets can be raised, too, by a modifier whose hook writes a field. -/
def raisingDefinitions : List Registration := deskDefinitions ++
  [.modifier ⟨"Noticed", .empty, some (modify fun state => state.insert "noticed" (.bool true)), none,
      .empty, none⟩,
    .group ⟨"Raised", ["Noticed", "Urgent"]⟩]

def raisingDesk : Registry :=
  match Registry.build raisingDefinitions with
  | .ok registry => registry
  | .error _ => .empty

theorem acquisitions_agree_raised : ∃ r',
    (RealmOp.acquire (.ofParts ⟨1⟩ 0) ["Noticed", "Ticket", "Noticed", "Urgent"]).run
      ((empty raisingDesk 8 8).run openTicket) = .ok ["Noticed", "Urgent"] r' ∧
    (RealmOp.merge (.ofParts ⟨1⟩ 0) (.unsigned "partner" ["Noticed", "Ticket", "Noticed", "Urgent"])
      fun _ => .ok ()).run ((empty raisingDesk 8 8).run openTicket) = .ok ["Noticed", "Urgent"] r' ∧
    (RealmOp.applyGroup (.ofParts ⟨1⟩ 0) "Raised" .add).run
      ((empty raisingDesk 8 8).run openTicket) = .ok () r' ∧
    (RealmOp.merge (.ofParts ⟨1⟩ 0) (.unsigned "partner" ["Raised"]) fun _ => .ok ()).run
      ((empty raisingDesk 8 8).run openTicket) = .ok ["Noticed", "Urgent"] r' ∧
    (r'.getState (.ofParts ⟨1⟩ 0) "noticed").toOption = some (some (.bool true)) := by
  have hbuild : Registry.build raisingDefinitions = .ok raisingDesk := rfl
  have hgroups := (Registry.of_build_eq_ok hbuild).2.groups
  obtain ⟨hnames, _⟩ := acquisitions_agree_of_run hbuild 8 8 openTicket (.ofParts ⟨1⟩ 0)
    (.unsigned "partner" ["Noticed", "Ticket", "Noticed", "Urgent"]) (fun _ => .ok ()) rfl
  obtain ⟨_, hgroup⟩ := acquisitions_agree_of_run hbuild 8 8 openTicket (.ofParts ⟨1⟩ 0)
    (.unsigned "partner" ["Raised"]) (fun _ => .ok ()) rfl
  have hraised : .group ⟨"Raised", ["Noticed", "Urgent"]⟩ ∈ raisingDefinitions :=
    List.mem_append_right _ (List.mem_cons_of_mem _ List.mem_cons_self)
  have hnone : ∀ name ∈ ["Noticed", "Ticket", "Noticed", "Urgent"],
      raisingDesk.groups.get? name = none := by
    simp only [List.forall_mem_cons]
    exact ⟨rfl, rfl, rfl, rfl, nofun⟩
  refine ⟨_, rfl, (hnames rfl (fun group hmem hname => ?_) _ _).1 rfl, rfl,
    (hgroup ⟨"Raised", ["Noticed", "Urgent"]⟩ _ hraised rfl ?_ (List.cons_ne_nil _ _)
      (fun _ => List.mem_singleton.1) _ _).2 ⟨rfl, rfl⟩, rfl⟩
  · cases (hnone _ hname).symm.trans ((hgroups group.name group).2 ⟨hmem, rfl⟩)
  · simp only [List.forall_mem_cons]
    exact ⟨rfl, rfl, nofun⟩

end Realm

end CapabilityArena
