import CapabilityArena.Proofs.Realm.Merging

/-!
Acquiring under the standard policy. The policy looks at all missing names at once, before anything is done;
attaching looks at them one by one, on an entity that changes meanwhile. What the one admits the other never
turns away for want of a definition or of permission, nor because it is there already.
-/

namespace CapabilityArena

/-- A failure that is not about a group is its own cause. -/
theorem Failure.rootCause_eq_self {failure : Failure} (hkind : failure.kind ≠ .groupApplicationFailed) :
    failure.rootCause = failure := by
  cases failure with
  | groupApplicationFailed => exact absurd rfl hkind
  | _ => rfl

/-- No name is planned twice. -/
theorem nodup_planNames {e : Entity} {plan names : List String} (hnodup : plan.Nodup) :
    (planNames e plan names).Nodup := by
  induction names generalizing plan with
  | nil => exact hnodup
  | cons first names ih =>
    rw [planNames]
    split
    next hnew => exact ih (List.nodup_append.2 ⟨hnodup, List.nodup_singleton first, by grind⟩)
    next => exact ih hnodup

namespace RealmOp

variable {r r' : Realm} {address : Address} {e : Entity} {required answer : List String}
  {failure : Failure}

/-- Names that the policy admits fail to be attached because of what they are, never because the policy and
    attaching see them differently. -/
theorem acquire_eq_error_of_admissible (hcounted : r.heap.Counted)
    (hpolicy : r.policy = AcquisitionPolicy.standard) (hentity : r.heap.entity address = .ok e)
    (hvalid : (r.surroundings address.arena).validate e = .ok ())
    (hdefined : r.registry.MachinesDefined) (hnames : e.NamesInOrder r.registry)
    (hadmissible : ∀ name ∈ planNames e [] required,
      r.registry.isKnown name = true ∧ r.contexts.permits e.id name = true)
    (hrun : (acquire address required).run r = .error failure r') :
    ∃ member ∈ planNames e [] required, ∃ cause,
      failure = .groupApplicationFailed "acquire" member cause ∧
      cause.kind ∈ [.ambiguousCapability, .hook, .shapeMismatch, .uncountedAlias,
        .illegalTransition] := by
  rw [run_acquire_of_admissible hcounted hpolicy hentity hvalid hadmissible] at hrun
  rcases bind_eq_error.1 hrun with hattach | ⟨_, _, _, hdone⟩
  · obtain ⟨_, edited, happly⟩ := (transact_eq_error_iff_of_valid hcounted
      (hcounted.entity_eq_ok_iff.1 hentity) fun _ _ => Surroundings.validate_of_applyMembers hvalid).1 hattach
    have hinactive : ∀ name ∈ planNames e [] required, e.hasActive name = false := by
      intro name hname
      rcases mem_planNames.1 hname with hnone | ⟨_, hinactive⟩
      · cases hnone
      · exact hinactive
    exact Surroundings.kind_of_applyMembers_of_permitted hdefined (fun _ => hnames.isKnown) hadmissible
      hinactive (nodup_planNames List.nodup_nil) happly
  · cases hdone

/-- The policy refuses exactly if a name that is planned is unknown or not permitted. -/
theorem acquire_refused_iff (hcounted : r.heap.Counted) (hpolicy : r.policy = AcquisitionPolicy.standard)
    (hentity : r.heap.entity address = .ok e)
    (hvalid : (r.surroundings address.arena).validate e = .ok ())
    (hdefined : r.registry.MachinesDefined) (hnames : e.NamesInOrder r.registry) (required : List String) :
    (∃ names r', (acquire address required).run r =
        .error (.permissionDenied names .acquisitionPolicy) r') ↔
      ¬ ∀ name ∈ planNames e [] required,
        r.registry.isKnown name = true ∧ r.contexts.permits e.id name = true := by
  constructor
  · rintro ⟨names, r', hrun⟩ hadmissible
    obtain ⟨_, _, _, hfailure, _⟩ := acquire_eq_error_of_admissible hcounted hpolicy hentity hvalid hdefined
      hnames hadmissible hrun
    cases hfailure
  · intro hinadmissible
    obtain ⟨names, hrefused⟩ := run_acquire_of_inadmissible hpolicy hentity hinadmissible
    exact ⟨names, r, hrefused⟩

/-- After names have been acquired none of them is missing, whatever was active still is, and to acquire them
    again is to do nothing. -/
theorem acquire_again (hcounted : r.heap.Counted) (hpolicy : r.policy = AcquisitionPolicy.standard)
    (hentity : r.heap.entity address = .ok e)
    (hvalid : (r.surroundings address.arena).validate e = .ok ()) (hkinds : r.registry.KindsApart)
    (hrun : (acquire address required).run r = .ok answer r') :
    r'.missing address required = .ok .empty ∧
    (∃ e', r'.heap.entity address = .ok e' ∧ ∀ name, e.hasActive name = true → e'.hasActive name = true) ∧
    (acquire address required).run r' = .ok [] r' := by
  obtain ⟨_, hattach⟩ := (acquire_eq_ok_iff hcounted hpolicy hentity hvalid).1 hrun
  obtain ⟨e', happly, _, _, hentity', _⟩ :=
    attachAll_eq_ok hcounted (hcounted.entity_eq_ok_iff.1 hentity) hattach
  have hkept : ∀ name, e.hasActive name = true → e'.hasActive name = true :=
    fun name hactive => Surroundings.hasActive_of_applyMembers hkinds happly (.inl hactive)
  have hall : required.filter (!e'.hasActive ·) = [] := by
    refine List.filter_eq_nil_iff.2 fun name hname => ?_
    rw [Bool.not_eq_true', Bool.not_eq_false]
    cases hold : e.hasActive name with
    | true => exact hkept name hold
    | false =>
      exact Surroundings.hasActive_of_applyMembers hkinds happly (.inr (mem_planNames.2 (.inr ⟨hname, hold⟩)))
  have hmissing : r'.missing address required = .ok .empty := by
    rw [Realm.missing, hentity']
    change Except.ok (KeySet.ofList (required.filter (!e'.hasActive ·))) = _
    rw [hall]
    rfl
  refine ⟨hmissing, ⟨e', hentity', hkept⟩, ?_⟩
  unfold acquire
  rw [EStateM.run_bind, run_reading, hmissing]
  rfl

end RealmOp

namespace Realm

/-- Acquiring agrees with its policy, in every realm that calls can reach with the standard one. It refuses
    exactly if a required name that is not active is unknown or not permitted to the entity. Otherwise it
    fails only together with a name that is planned, for a conflict with other capabilities, a hook, or fields
    that would not do: so never for want of a definition or of permission, nor because a name is active
    already. When it succeeds, the answer lists the names that were not active, each where it comes first;
    nothing is missing afterwards, nothing is lost, and to acquire the same names again changes nothing. -/
theorem acquire_agrees_with_policy_of_run {registrations : List Registration} {registry : Registry}
    (hbuild : Registry.build registrations = .ok registry) (maxSlots maxContexts : Nat)
    (calls : List RealmCall) (address : Address) {e : Entity}
    (hentity : ((empty registry maxSlots maxContexts).run calls).heap.entity address = .ok e)
    (required : List String)
    (hpolicy : ((empty registry maxSlots maxContexts).run calls).policy = AcquisitionPolicy.standard) :
    let r := (empty registry maxSlots maxContexts).run calls
    let acquire := RealmOp.acquire address required
    let new := (required.filter fun name => !e.hasActive name).eraseDups
    ((∃ names r', acquire.run r = .error (.permissionDenied names .acquisitionPolicy) r') ↔
      ∃ name ∈ required, e.hasActive name = false ∧
        (registry.isKnown name = false ∨ r.contexts.permits e.id name = false)) ∧
    (∀ failure r', acquire.run r = .error failure r' →
      (∀ names, failure ≠ .permissionDenied names .acquisitionPolicy) →
      ∃ member ∈ new, ∃ cause, failure = .groupApplicationFailed "acquire" member cause ∧
        failure.rootCause.kind ∈ [.ambiguousCapability, .hook, .shapeMismatch, .uncountedAlias,
          .illegalTransition]) ∧
    (∀ answer r', acquire.run r = .ok answer r' →
      answer = new ∧ r'.missing address required = .ok .empty ∧
      (∃ e', r'.heap.entity address = .ok e' ∧
        ∀ name, e.hasActive name = true → e'.hasActive name = true) ∧
      acquire.run r' = .ok [] r') := by
  intro r acquire new
  have hstands := entityAt_of_run hbuild maxSlots maxContexts calls address hentity
  have hnames : e.NamesInOrder r.registry := hstands.namesInOrder
  obtain ⟨hcounted, hregistry, _, _, hvalid⟩ := hstands
  change r.registry = registry at hregistry
  have hkinds : r.registry.KindsApart := hregistry ▸ Registry.kindsApart_of_build hbuild
  have hdefined : r.registry.MachinesDefined := hregistry ▸ Registry.machinesDefined_of_build hbuild
  have hplan : planNames e [] required = new := by
    rw [planNames_eq]
    simp [new]
  have hrefused_iff := RealmOp.acquire_refused_iff hcounted hpolicy hentity hvalid hdefined hnames required
  refine ⟨hrefused_iff.trans ?_, fun failure r' hrun hother => ?_, fun answer r' hrun => ?_⟩
  · -- What is planned is what is required and not active.
    simp only [mem_planNames]
    grind
  · have hadmissible : ∀ name ∈ planNames e [] required,
        r.registry.isKnown name = true ∧ r.contexts.permits e.id name = true := by
      by_contra hinadmissible
      obtain ⟨names, _, hrefused⟩ := hrefused_iff.2 hinadmissible
      cases hrefused.symm.trans hrun
      exact hother names rfl
    obtain ⟨member, hmember, cause, rfl, hkind⟩ := RealmOp.acquire_eq_error_of_admissible hcounted hpolicy
      hentity hvalid hdefined hnames hadmissible hrun
    refine ⟨member, hplan ▸ hmember, cause, rfl, ?_⟩
    have hcause : cause.kind ≠ .groupApplicationFailed := by
      intro hgroup
      rw [hgroup] at hkind
      exact absurd hkind (by decide)
    rw [Failure.rootCause, Failure.rootCause_eq_self hcause]
    exact hkind
  · obtain ⟨hanswer, _⟩ := (RealmOp.acquire_eq_ok_iff hcounted hpolicy hentity hvalid).1 hrun
    exact ⟨hanswer.trans hplan, RealmOp.acquire_again hcounted hpolicy hentity hvalid hkinds hrun⟩

theorem acquire_agrees_with_policy_raised : ∃ names refused failure failed r',
    (RealmOp.acquire (.ofParts ⟨1⟩ 0) ["Noticed", "Ghost"]).run ((empty raisingDesk 8 8).run openTicket) =
      .error (.permissionDenied names .acquisitionPolicy) refused ∧
    (RealmOp.acquire (.ofParts ⟨1⟩ 0) ["Urgent", "Broken"]).run ((empty raisingDesk 8 8).run openTicket) =
      .error failure failed ∧
    failure.rootCause = .hookFailed "Broken" "no such desk" ∧
    (∃ member ∈ ["Urgent", "Broken"], ∃ cause,
      failure = .groupApplicationFailed "acquire" member cause) ∧
    (RealmOp.acquire (.ofParts ⟨1⟩ 0) ["Noticed", "Ticket", "Noticed", "Urgent"]).run
      ((empty raisingDesk 8 8).run openTicket) = .ok ["Noticed", "Urgent"] r' ∧
    (RealmOp.acquire (.ofParts ⟨1⟩ 0) ["Noticed", "Ticket", "Noticed", "Urgent"]).run r' = .ok [] r' := by
  have hbuild : Registry.build raisingDefinitions = .ok raisingDesk := rfl
  obtain ⟨hrefuses, _⟩ := acquire_agrees_with_policy_of_run hbuild 8 8 openTicket (.ofParts ⟨1⟩ 0) rfl
    ["Noticed", "Ghost"] rfl
  obtain ⟨_, hfails, _⟩ := acquire_agrees_with_policy_of_run hbuild 8 8 openTicket (.ofParts ⟨1⟩ 0) rfl
    ["Urgent", "Broken"] rfl
  obtain ⟨_, _, hsucceeds⟩ := acquire_agrees_with_policy_of_run hbuild 8 8 openTicket (.ofParts ⟨1⟩ 0) rfl
    ["Noticed", "Ticket", "Noticed", "Urgent"] rfl
  obtain ⟨names, refused, hrefused⟩ := hrefuses.2
    ⟨"Ghost", List.mem_cons_of_mem _ List.mem_cons_self, rfl, .inl rfl⟩
  obtain ⟨member, hmember, cause, hcause, _⟩ := hfails _ _ rfl nofun
  obtain ⟨_, _, _, hagain⟩ := hsucceeds _ _ rfl
  exact ⟨names, refused, _, _, _, hrefused, rfl, rfl, ⟨member, hmember, cause, hcause⟩, rfl, hagain⟩

end Realm

end CapabilityArena
