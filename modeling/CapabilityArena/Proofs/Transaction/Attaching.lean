import CapabilityArena.Proofs.Transaction.Fitting

/-!
Attaching, whatever hooks do. Hooks edit fields and nothing else, so they have no say in what becomes active.
And they have little say in failures: a capability that is known, inactive and permitted is kept out by a
conflict with another one, by its own hook, or by the fields that it would leave.
-/

namespace CapabilityArena

variable {failure : Failure}

theorem EntityOp.onState_eq_error {α : Type} {change : StateChange α} {failed : String → Failure}
    {e e' : Entity} (hchange : (onState change failed).run e = .error failure e') :
    ∃ reason, failure = failed reason := by
  simp only [onState, EStateM.run] at hchange
  split at hchange
  next => cases hchange
  next reason _ _ =>
    cases hchange
    exact ⟨reason, rfl⟩

theorem Value.kind_of_checkStorable {arena : ArenaId} {v : Value}
    (hforeign : v.checkStorable arena = .error failure) : failure.kind = .uncountedAlias := by
  unfold checkStorable at hforeign
  split at hforeign
  next found hfound =>
    cases hforeign
    obtain ⟨reference, _, hrefusal⟩ := List.exists_of_findSome?_eq_some hfound
    unfold Reference.refusal? at hrefusal
    split at hrefusal
    next =>
      cases hrefusal
      rfl
    next =>
      split at hrefusal
      next =>
        cases hrefusal
        rfl
      next => cases hrefusal
  next => cases hforeign

namespace Surroundings

variable {s : Surroundings} {e e' : Entity} {name query : String} {names : List String}
  {capability : Capability}

/-! What becomes active. -/

theorem mem_active_of_attach (hattach : (s.attach name).run e = .ok () e') :
    query ∈ e'.active ↔ query = name ∨ query ∈ e.active := by
  obtain ⟨capability, state, machine, _, _, rfl, _⟩ := attach_eq_ok hattach
  exact Entity.mem_active_activated

/-- Names that are attached in turn become active, and nothing else does. -/
theorem mem_active_of_forM_attach (hattach : (names.forM s.attach).run e = .ok () e') :
    query ∈ e'.active ↔ query ∈ names ∨ query ∈ e.active := by
  induction names generalizing e with
  | nil =>
    cases hattach
    simp
  | cons first names ih =>
    obtain ⟨_, edited, hfirst, hrest⟩ := bind_eq_ok.1 hattach
    rw [ih hrest, mem_active_of_attach hfirst, List.mem_cons, or_left_comm, or_assoc]

theorem id_of_forM_attach (hattach : (names.forM s.attach).run e = .ok () e') : e'.id = e.id := by
  induction names generalizing e with
  | nil =>
    cases hattach
    rfl
  | cons first names ih =>
    obtain ⟨_, edited, hfirst, hrest⟩ := bind_eq_ok.1 hattach
    exact (ih hrest).trans (change_of_attach hfirst).id_eq

/-- What is attached comes last in the list of its kind. -/
theorem lists_of_attach (hkinds : s.registry.KindsApart) (hattach : (s.attach name).run e = .ok () e') :
    e'.concepts = e.concepts ++ [name].filter s.registry.concepts.contains ∧
    e'.modifiers = e.modifiers ++ [name].filter s.registry.modifiers.contains := by
  obtain ⟨capability, state, machine, hadmitted, _, rfl, _⟩ := attach_eq_ok hattach
  obtain ⟨hknown, _⟩ := admission_eq_ok hadmitted
  cases capability with
  | concept c =>
    have hconcept := Registry.contains_concepts hknown
    simp [Entity.activated, hconcept, hkinds name hconcept]
  | modifier m =>
    have hmodifier := Registry.contains_modifiers hknown
    have hconcept : s.registry.concepts.contains name = false := by
      rw [← Bool.not_eq_true]
      intro hconcept
      cases (hkinds name hconcept).symm.trans hmodifier
    simp [Entity.activated, hmodifier, hconcept]

theorem lists_of_applyMembers (hkinds : s.registry.KindsApart) {group : String}
    (happly : (s.applyMembers group .add names).run e = .ok () e') :
    e'.concepts = e.concepts ++ names.filter s.registry.concepts.contains ∧
    e'.modifiers = e.modifiers ++ names.filter s.registry.modifiers.contains := by
  induction names generalizing e with
  | nil =>
    cases happly
    simp
  | cons first names ih =>
    obtain ⟨_, edited, hfirst, hrest⟩ := bind_eq_ok.1 happly
    obtain ⟨hconcepts, hmodifiers⟩ := lists_of_attach hkinds (inGroup_eq_ok_iff.1 hfirst)
    rw [← List.singleton_append, List.filter_append, List.filter_append, ← List.append_assoc,
      ← List.append_assoc, ← hconcepts, ← hmodifiers]
    exact ih hrest

/-! Why attaching fails. -/

theorem kind_of_checkStored {values : List Value} (hforeign : s.checkStored values = .error failure) :
    failure.kind = .uncountedAlias := by
  induction values with
  | nil => cases hforeign
  | cons first values ih =>
    rw [checkStored] at hforeign
    split at hforeign
    next found hfirst =>
      cases hforeign
      exact Value.kind_of_checkStorable hfirst
    next => exact ih hforeign

/-- What makes an entity invalid whose active capabilities are known. -/
theorem kind_of_invalid (hknown : ∀ name ∈ e.active, s.registry.isKnown name = true)
    (hinvalid : s.validate e = .error failure) :
    failure.kind ∈ [.shapeMismatch, .uncountedAlias, .illegalTransition] := by
  unfold validate at hinvalid
  rcases read_bind_eq_error.1 hinvalid with hmismatch | ⟨_, _, hrest⟩
  · simp [kind_of_checkShapes hknown hmismatch]
  rcases read_bind_eq_error.1 hrest with hforeign | ⟨_, _, hhidden⟩
  · simp [kind_of_checkStored hforeign]
  · simp [kind_of_checkStateField hhidden]

/-- A capability that is known, inactive and permitted is let in unless it is in conflict. -/
theorem kind_of_admission_of_permitted (hknown : s.registry.capability? name = some capability)
    (hinactive : e.hasActive name = false) (hpermits : s.contexts.permits e.id name = true)
    (hrefused : s.admission name e = .error failure) : failure.kind = .ambiguousCapability := by
  unfold admission at hrefused
  rcases read_bind_eq_error.1 hrefused with hunknown | ⟨found, _, hrest⟩
  · cases (capability_of_known hknown).symm.trans hunknown
  rw [hinactive] at hrest
  rcases read_bind_eq_error.1 hrest with hdenied | ⟨_, _, hrest⟩
  · cases (check_of_permits hpermits).symm.trans hdenied
  rcases read_bind_eq_error.1 hrest with hclash | ⟨_, _, hdone⟩
  · exact kind_of_checkAmbiguity hclash
  · cases hdone

theorem kind_of_activate (hactivate : (activate name capability).run e = .error failure e') :
    failure.kind = .hook := by
  cases capability with
  | concept c => cases hactivate
  | modifier m =>
    cases hhook : m.onAdd with
    | none =>
      simp only [activate, hhook] at hactivate
      cases hactivate
    | some hook =>
      simp only [activate, hhook] at hactivate
      rcases bind_eq_error.1 hactivate with hedit | ⟨_, _, _, hrest⟩
      · obtain ⟨reason, rfl⟩ := EntityOp.onState_eq_error hedit
        rfl
      · cases hrest

/-- A capability that is known, inactive and permitted fails to be attached for no other reasons. -/
theorem kind_of_attach_of_permitted (hdefined : s.registry.MachinesDefined)
    (hactive : ∀ name ∈ e.active, s.registry.isKnown name = true)
    (hknown : s.registry.isKnown name = true) (hinactive : e.hasActive name = false)
    (hpermits : s.contexts.permits e.id name = true)
    (hattach : (s.attach name).run e = .error failure e') :
    failure.kind ∈ [.ambiguousCapability, .hook, .shapeMismatch, .uncountedAlias,
      .illegalTransition] := by
  obtain ⟨capability, hcapability⟩ := Option.isSome_iff_exists.1 hknown
  rcases bind_eq_error.1 hattach with hread | ⟨found, _, hread, hrest⟩
  · rw [EntityOp.run_reading] at hread
    have hkind := kind_of_admission_of_permitted hcapability hinactive hpermits (unchanged_eq_error hread).1
    simp [hkind]
  obtain ⟨hadmitted, rfl⟩ := EntityOp.reading_eq_ok hread
  cases hcapability.symm.trans (admission_eq_ok hadmitted).1
  rcases bind_eq_error.1 hrest with hactivate | ⟨_, _, hactivate, hrest⟩
  · simp [kind_of_activate hactivate]
  obtain ⟨state, rfl⟩ := activate_eq_ok hactivate
  rcases bind_eq_error.1 hrest with hinstall | ⟨_, _, hinstall, hvalidate⟩
  · -- The machine is defined, so that starting it cannot fail.
    rw [run_installMachine (hdefined name capability hcapability)] at hinstall
    cases hinstall
  obtain ⟨_, _, rfl, _⟩ := installMachine_eq_ok hinstall
  rw [EntityOp.validate, EntityOp.run_reading] at hvalidate
  refine List.mem_cons_of_mem _ (List.mem_cons_of_mem _ (kind_of_invalid (fun query hquery => ?_)
    (unchanged_eq_error hvalidate).1))
  rcases Entity.mem_active_activated.1 hquery with rfl | hold
  · exact hknown
  · exact hactive query hold

/-- Nor do several of them, each of which is attached once. -/
theorem kind_of_applyMembers_of_permitted (hdefined : s.registry.MachinesDefined)
    (hactive : ∀ name ∈ e.active, s.registry.isKnown name = true)
    (hadmissible : ∀ name ∈ names, s.registry.isKnown name = true ∧ s.contexts.permits e.id name = true)
    (hinactive : ∀ name ∈ names, e.hasActive name = false) (hnodup : names.Nodup) {group : String}
    (happly : (s.applyMembers group .add names).run e = .error failure e') :
    ∃ member ∈ names, ∃ cause, failure = .groupApplicationFailed group member cause ∧
      cause.kind ∈ [.ambiguousCapability, .hook, .shapeMismatch, .uncountedAlias,
        .illegalTransition] := by
  obtain ⟨before, member, later, between, cause, rfl, hbefore, hmember, rfl⟩ :=
    applyMembers_eq_error_iff.1 happly
  have hmem : member ∈ before ++ member :: later := by simp
  obtain ⟨hknown, hpermits⟩ := hadmissible member hmem
  have hbetween : ∀ query, query ∈ between.active ↔ query ∈ before ∨ query ∈ e.active :=
    fun query => mem_active_of_forM_attach hbefore
  refine ⟨member, hmem, cause, rfl, kind_of_attach_of_permitted hdefined ?_ hknown ?_ ?_ hmember⟩
  · intro query hquery
    rcases (hbetween query).1 hquery with hattached | hold
    · exact (hadmissible query (List.mem_append_left _ hattached)).1
    · exact hactive query hold
  · -- Those before it have other names.
    rw [← Bool.not_eq_true, Entity.hasActive_iff, hbetween, not_or]
    refine ⟨fun hrepeated => ?_, fun hold => ?_⟩
    · exact (List.nodup_append.1 hnodup).2.2 member hrepeated member List.mem_cons_self rfl
    · have hnot := hinactive member hmem
      rw [Entity.hasActive_iff.2 hold] at hnot
      cases hnot
  · rw [id_of_forM_attach hbefore]
    exact hpermits

end Surroundings

end CapabilityArena
