import CapabilityArena.Proofs.Context.Permission
import CapabilityArena.Proofs.Transaction.Declarative

/-!
When a declarative capability can be attached. What it writes is laid over the fields that are there, so
validation can only stumble over the fields that are written: all others were in order before.
-/

namespace CapabilityArena

/-- A declarative capability that is ready to be attached wherever it suits: it is known by its name, the
    machine that it brings is defined, it writes all fields that it declares, and values that may be stored. -/
structure Surroundings.Ready (s : Surroundings) (name : String) (capability : Capability)
    (fields : List Field) : Prop where
  declarative : capability.Declarative fields
  known : s.registry.capability? name = some capability
  machine_defined : ∀ key, capability.machine = some key → s.registry.machines.contains key = true
  complete : ∀ key shape, capability.shapes.get? key = some shape →
    ∃ value, (s.registry.overlay capability fields).get? key = some value
  storable : ∀ value ∈ (s.registry.writes capability fields).map (·.2), value.HomeIn s.arena

/-- What would be written suits an entity. Active capabilities, and the one to attach, admit the values in
    the fields that they declare, and where the machine that runs shows its state, that state is written. -/
structure Registry.Suits (r : Registry) (name : String) (e : Entity) (written? : String → Option Value) :
    Prop where
  admitted : ∀ declaring ∈ name :: e.active, ∀ capability, r.capability? declaring = some capability →
    ∀ key shape value, capability.shapes.get? key = some shape → written? key = some value →
    shape.admits value = true
  shown : ∀ running m key value, e.machine = some running → r.machines.get? running.machine = some m →
    m.stateKey = some key → written? key = some value → value = .str running.current

namespace Surroundings

variable {s : Surroundings} {e e' : Entity} {name : String} {capability : Capability}
  {fields : List Field} {failure : Failure}

/-- The fields after attaching: what is written, and elsewhere what was there. -/
theorem get?_attached (key : String) : (s.attached name capability fields e).state.get? key =
    ((s.registry.overlay capability fields).get? key).or (e.state.get? key) :=
  Dictionary.get?_insertAll ..

/-- A machine that starts shows the state that it starts in, whatever else is written. -/
theorem get?_overlay_of_machine {m : Machine} {key : String}
    (hmachine : s.registry.machineOf? capability = some m) (hkey : m.stateKey = some key) :
    (s.registry.overlay capability fields).get? key = some (.str m.initial) := by
  rw [Registry.get?_overlay, hmachine, Option.bind_some, if_pos hkey, Option.some_or]

/-- A machine that runs goes on running: a capability that brings another one is not let in. -/
theorem machine_attached_of_running {running : RunningMachine}
    (hadmitted : s.admission name e = .ok capability) (hrunning : e.machine = some running) :
    (s.attached name capability fields e).machine = some running := by
  obtain ⟨_, _, _, hclear⟩ := admission_eq_ok hadmitted
  rcases (checkAmbiguity_eq_ok hclear).2 with hnone | hidle
  · simp [attached, Registry.machineOf?, hnone, hrunning]
  · cases hidle.symm.trans hrunning

theorem homeIn_attached (hready : s.Ready name capability fields)
    (hhome : (Content.entity e).HomeIn s.arena) :
    (Content.entity (s.attached name capability fields e)).HomeIn s.arena := by
  intro value hmem
  rcases Dictionary.mem_values_insertAll hmem with hnew | hold
  · exact hready.storable value hnew
  · exact hhome value hold

theorem shapes_attached (hready : s.Ready name capability fields) (hwellFormed : e.WellFormed s.registry)
    (hsuits : s.registry.Suits name e (s.registry.overlay capability fields).get?) :
    ∀ declaring ∈ (s.attached name capability fields e).active, ∃ c,
      s.registry.capability? declaring = some c ∧ ∀ key shape, c.shapes.get? key = some shape →
        ∃ value, (s.attached name capability fields e).state.get? key = some value ∧
          shape.admits value = true := by
  intro declaring hmem
  rcases mem_active_attached.1 hmem with rfl | hold
  · refine ⟨capability, hready.known, fun key shape hshape => ?_⟩
    obtain ⟨value, hvalue⟩ := hready.complete key shape hshape
    refine ⟨value, by rw [get?_attached, hvalue, Option.some_or], ?_⟩
    exact hsuits.admitted declaring List.mem_cons_self capability hready.known key shape value hshape hvalue
  · obtain ⟨c, hc⟩ := Option.isSome_iff_exists.1 (hwellFormed.isKnown hold)
    refine ⟨c, hc, fun key shape hshape => ?_⟩
    rw [get?_attached]
    cases hvalue : (s.registry.overlay capability fields).get? key with
    | none => exact hwellFormed.shapes declaring hold c hc key shape hshape
    | some value =>
      have hdeclaring := List.mem_cons_of_mem name hold
      exact ⟨value, rfl, hsuits.admitted declaring hdeclaring c hc key shape value hshape hvalue⟩

theorem shown_attached (hnamed : s.registry.MachinesNamed) (hwellFormed : e.WellFormed s.registry)
    (hsuits : s.registry.Suits name e (s.registry.overlay capability fields).get?)
    {running : RunningMachine} {m : Machine} {key : String}
    (hrunning : (s.attached name capability fields e).machine = some running)
    (hmachine : s.registry.machines.get? running.machine = some m) (hkey : m.stateKey = some key) :
    (s.attached name capability fields e).state.get? key = some (.str running.current) := by
  rw [get?_attached]
  cases hbrought : s.registry.machineOf? capability with
  | none =>
    have hold : e.machine = some running := by
      rw [← hrunning, attached, hbrought]
      rfl
    cases hvalue : (s.registry.overlay capability fields).get? key with
    | none => exact hwellFormed.shown running m key hold hmachine hkey
    | some value => rw [Option.some_or, hsuits.shown running m key value hold hmachine hkey hvalue]
  | some brought =>
    obtain ⟨filed, _, hfiled⟩ := Option.bind_eq_some_iff.1 hbrought
    have hstarted : (s.attached name capability fields e).machine = some brought.start := by
      rw [attached, hbrought]
      rfl
    cases hstarted.symm.trans hrunning
    change s.registry.machines.get? brought.name = some m at hmachine
    rw [hnamed filed brought hfiled, hfiled] at hmachine
    cases hmachine
    rw [get?_overlay_of_machine hbrought hkey]
    rfl

/-- An entity that was in order is valid after attaching exactly if it is suited by what is written. -/
theorem validate_attached_iff (hready : s.Ready name capability fields) (hnamed : s.registry.MachinesNamed)
    (hwellFormed : e.WellFormed s.registry) (hhome : (Content.entity e).HomeIn s.arena)
    (hadmitted : s.admission name e = .ok capability) :
    s.validate (s.attached name capability fields e) = .ok () ↔
      s.registry.Suits name e (s.registry.overlay capability fields).get? := by
  rw [validate_eq_ok_iff]
  constructor
  · rintro ⟨hshapes, _, hshown⟩
    constructor
    case admitted =>
      intro declaring hmem c hc key shape value hshape hvalue
      obtain ⟨found, hfound, hall⟩ := hshapes declaring (mem_active_attached.2 (List.mem_cons.1 hmem))
      cases hfound.symm.trans hc
      obtain ⟨stored, hstored, hadmits⟩ := hall key shape hshape
      rw [get?_attached, hvalue, Option.some_or] at hstored
      cases hstored
      exact hadmits
    case shown =>
      intro running m key value hrunning hmachine hkey hvalue
      have hstored :=
        hshown running m key (machine_attached_of_running hadmitted hrunning) hmachine hkey
      rw [get?_attached, hvalue, Option.some_or] at hstored
      exact Option.some.inj hstored
  · intro hsuits
    exact ⟨shapes_attached hready hwellFormed hsuits, homeIn_attached hready hhome,
      fun _ _ _ => shown_attached hnamed hwellFormed hsuits⟩

/-- A capability without methods is in conflict with others about the machine only. -/
theorem checkAmbiguity_eq_ok_iff_of_no_methods (hmethods : capability.methods = .empty) :
    s.checkAmbiguity e capability = .ok () ↔ capability.machine = none ∨ e.machine = none := by
  have hnone : s.methodClash? e capability = none := by
    rw [methodClash?, hmethods]
    rfl
  unfold checkAmbiguity machineClash?
  rw [hnone]
  cases capability.machine <;> cases e.machine <;> simp

/-- A declarative capability can be attached exactly if it is let in and what it writes suits the entity. -/
theorem exists_attach_eq_ok_iff (hready : s.Ready name capability fields)
    (hnamed : s.registry.MachinesNamed) (hwellFormed : e.WellFormed s.registry)
    (hhome : (Content.entity e).HomeIn s.arena) :
    (∃ e', (s.attach name).run e = .ok () e') ↔
      e.hasActive name = false ∧ s.contexts.permits e.id name = true ∧
      s.checkAmbiguity e capability = .ok () ∧
      s.registry.Suits name e (s.registry.overlay capability fields).get? := by
  constructor
  · rintro ⟨e', hattach⟩
    obtain ⟨hadmitted, _⟩ := attached_of_attach hready.known hready.declarative hattach
    obtain ⟨_, hinactive, hpermits, hclear⟩ := admission_eq_ok hadmitted
    rw [run_attach hadmitted hready.declarative hready.machine_defined] at hattach
    have hvalid := (unchanged_eq_ok hattach).1
    exact ⟨hinactive, hpermits, hclear,
      (validate_attached_iff hready hnamed hwellFormed hhome hadmitted).1 hvalid⟩
  · rintro ⟨hinactive, hpermits, hclear, hsuits⟩
    have hadmitted := admission_of_clear hready.known hinactive hpermits hclear
    refine ⟨s.attached name capability fields e, ?_⟩
    rw [run_attach hadmitted hready.declarative hready.machine_defined,
      (validate_attached_iff hready hnamed hwellFormed hhome hadmitted).2 hsuits]
    rfl

/-! Why something is not attached. -/

theorem kind_of_checkAmbiguity (hclash : s.checkAmbiguity e capability = .error failure) :
    failure.kind = .ambiguousCapability := by
  unfold checkAmbiguity at hclash
  split at hclash
  next found hfound =>
    cases hclash
    rcases Option.or_eq_some_iff.1 hfound with hmethod | ⟨_, hmachine⟩
    · obtain ⟨method, _, hprovided⟩ := List.exists_of_findSome?_eq_some hmethod
      obtain ⟨first, _, rfl⟩ := Option.map_eq_some_iff.1 hprovided
      rfl
    · unfold machineClash? at hmachine
      split at hmachine
      · cases hmachine
        rfl
      · cases hmachine
  next => cases hclash

/-- What keeps a known capability out: it is active, not permitted, or in conflict with another. -/
theorem kind_of_admission (hknown : s.registry.capability? name = some capability)
    (hrefused : s.admission name e = .error failure) :
    failure.kind ∈ [.alreadyPresent, .permissionDenied, .ambiguousCapability] := by
  unfold admission at hrefused
  rcases read_bind_eq_error.1 hrefused with hunknown | ⟨found, _, hrest⟩
  · cases (capability_of_known hknown).symm.trans hunknown
  cases hactive : e.hasActive name with
  | true =>
    rw [hactive] at hrest
    cases hrest
    simp [Failure.kind]
  | false =>
    rw [hactive] at hrest
    rcases read_bind_eq_error.1 hrest with hdenied | ⟨_, _, hrest⟩
    · obtain ⟨_, _, _, _, _, _, rfl⟩ := ContextStack.checkFrom_eq_error_iff.1 hdenied
      simp [Failure.kind]
    rcases read_bind_eq_error.1 hrest with hclash | ⟨_, _, hdone⟩
    · simp [kind_of_checkAmbiguity hclash]
    · cases hdone

theorem kind_of_violation {shapes : FieldShapes} {state : State}
    (hviolation : shapes.violation? name state = some failure) : failure.kind = .shapeMismatch := by
  obtain ⟨⟨key, shape⟩, _, hfound⟩ := List.exists_of_findSome?_eq_some hviolation
  cases hvalue : state.get? key with
  | none =>
    simp only [hvalue] at hfound
    cases hfound
    rfl
  | some value =>
    simp only [hvalue] at hfound
    split at hfound
    next => cases hfound
    next =>
      cases hfound
      rfl

theorem kind_of_checkShapes {state : State} {names : List String}
    (hknown : ∀ name ∈ names, s.registry.isKnown name = true)
    (hmismatch : s.checkShapes state names = .error failure) : failure.kind = .shapeMismatch := by
  induction names with
  | nil => cases hmismatch
  | cons first names ih =>
    obtain ⟨hfirst, hrest⟩ := List.forall_mem_cons.1 hknown
    obtain ⟨c, hc⟩ := Option.isSome_iff_exists.1 hfirst
    rw [checkShapes, hc] at hmismatch
    cases hviolation : c.shapes.violation? first state with
    | none =>
      simp only [hviolation] at hmismatch
      exact ih hrest hmismatch
    | some found =>
      simp only [hviolation] at hmismatch
      cases hmismatch
      exact kind_of_violation hviolation

theorem kind_of_checkStateField (hhidden : s.checkStateField e = .error failure) :
    failure.kind = .illegalTransition := by
  unfold checkStateField at hhidden
  split at hhidden
  next => cases hhidden
  next running _ =>
    split at hhidden
    next => cases hhidden
    next key _ =>
      split at hhidden
      next current _ =>
        split at hhidden
        next => cases hhidden
        next =>
          cases hhidden
          rfl
      next =>
        cases hhidden
        rfl
      next =>
        cases hhidden
        rfl

/-- What makes an entity invalid whose active capabilities are known and whose fields are at home. -/
theorem kind_of_validate (hknown : ∀ name ∈ e.active, s.registry.isKnown name = true)
    (hhome : (Content.entity e).HomeIn s.arena) (hinvalid : s.validate e = .error failure) :
    failure.kind ∈ [.shapeMismatch, .illegalTransition] := by
  unfold validate at hinvalid
  rcases read_bind_eq_error.1 hinvalid with hmismatch | ⟨_, _, hrest⟩
  · simp [kind_of_checkShapes hknown hmismatch]
  rcases read_bind_eq_error.1 hrest with hforeign | ⟨_, _, hhidden⟩
  · cases (checkStored_eq_ok_iff.2 hhome).symm.trans hforeign
  · simp [kind_of_checkStateField hhidden]

/-- Neither hooks nor missing machines nor values from elsewhere keep a declarative capability out. -/
theorem kind_of_attach (hready : s.Ready name capability fields) (hwellFormed : e.WellFormed s.registry)
    (hhome : (Content.entity e).HomeIn s.arena)
    (hattach : (s.attach name).run e = .error failure e') :
    failure.kind ∈ [.alreadyPresent, .permissionDenied, .ambiguousCapability, .shapeMismatch,
      .illegalTransition] := by
  cases hadmission : s.admission name e with
  | error refusal =>
    have hrefused : (s.attach name).run e = .error refusal e := by
      unfold attach
      rw [EStateM.run_bind, EntityOp.run_reading, hadmission]
      rfl
    cases hrefused.symm.trans hattach
    have hkind := kind_of_admission hready.known hadmission
    grind
  | ok found =>
    cases hready.known.symm.trans (admission_eq_ok hadmission).1
    rw [run_attach hadmission hready.declarative hready.machine_defined] at hattach
    have hactive : ∀ declaring ∈ (s.attached name capability fields e).active,
        s.registry.isKnown declaring = true := by
      intro declaring hmem
      rcases mem_active_attached.1 hmem with rfl | hold
      · rw [Registry.isKnown, hready.known, Option.isSome_some]
      · exact hwellFormed.isKnown hold
    have hkind := kind_of_validate hactive (homeIn_attached hready hhome) (unchanged_eq_error hattach).1
    grind

end Surroundings

end CapabilityArena
