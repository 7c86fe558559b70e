import CapabilityArena.Proofs.Transaction.Independence

/-!
Making an entity of concepts. Its concepts are attached one after the other, each to what those before it have
made; but a concept writes no fields, unless it brings a machine that shows its state, so that they are
additions that keep out of each other's way. What has to hold is a contract that no order is part of.
-/

namespace CapabilityArena

/-- No field is written when these concepts are attached: a machine that one of them brings does not show its
    state. -/
def Registry.HidesMachines (r : Registry) (names : List String) : Prop :=
  ∀ name ∈ names, ∀ c key m, r.concepts.get? name = some c → c.machine = some key →
    r.machines.get? key = some m → m.stateKey = none

/-- What an entity of this number with these fields owes to these concepts, and to its arena and contexts. -/
structure Surroundings.Contract (s : Surroundings) (id : EntityId) (state : State)
    (names : List String) : Prop where
  registered : ∀ name ∈ names, s.registry.concepts.contains name = true
  nodup : names.Nodup
  permitted : ∀ name ∈ names, s.contexts.permits id name = true
  methods_disjoint : ∀ first ∈ names, ∀ second ∈ names, first ≠ second → ∀ c d,
    s.registry.concepts.get? first = some c → s.registry.concepts.get? second = some d →
    ∀ method, c.methods.contains method = true → d.methods.contains method = false
  machine_unique : ∀ first ∈ names, ∀ second ∈ names, first ≠ second → ∀ c d,
    s.registry.concepts.get? first = some c → s.registry.concepts.get? second = some d →
    c.machine = none ∨ d.machine = none
  shapes : ∀ name ∈ names, ∀ c, s.registry.concepts.get? name = some c →
    ∀ key shape, c.expects.get? key = some shape →
    ∃ value, state.get? key = some value ∧ shape.admits value = true
  storable : ∀ key value, state.get? key = some value → value.checkStorable s.arena = .ok ()

/-- The order of the concepts does not matter. -/
theorem Surroundings.Contract.perm {s : Surroundings} {id : EntityId} {state : State}
    {names order : List String} (hcontract : s.Contract id state names) (hperm : names.Perm order) :
    s.Contract id state order := by
  have hmem : ∀ name ∈ order, name ∈ names := fun _ => hperm.mem_iff.2
  constructor
  case registered => exact fun name hname => hcontract.registered name (hmem name hname)
  case nodup => exact hperm.nodup_iff.1 hcontract.nodup
  case permitted => exact fun name hname => hcontract.permitted name (hmem name hname)
  case methods_disjoint =>
    exact fun first hfirst second hsecond =>
      hcontract.methods_disjoint first (hmem first hfirst) second (hmem second hsecond)
  case machine_unique =>
    exact fun first hfirst second hsecond =>
      hcontract.machine_unique first (hmem first hfirst) second (hmem second hsecond)
  case shapes => exact fun name hname => hcontract.shapes name (hmem name hname)
  case storable => exact hcontract.storable

/-- A registered concept as an addition, which has no fields of its own. -/
def Registry.conceptAddition (r : Registry) (name : String) : Addition :=
  ⟨name, .concept ((r.concepts.get? name).getD ⟨name, .empty, .empty, none⟩), []⟩

namespace Registry

variable {r : Registry} {name : String} {names : List String} {c : Concept}

theorem capability?_of_concept (hconcept : r.concepts.get? name = some c) :
    r.capability? name = some (.concept c) := by
  rw [capability?, hconcept]

theorem capability_conceptAddition (hconcept : r.concepts.get? name = some c) :
    (r.conceptAddition name).capability = .concept c := by
  rw [conceptAddition, hconcept]
  rfl

theorem registered_conceptAddition (hconcept : r.concepts.get? name = some c) :
    (r.conceptAddition name).Registered r where
  known := by
    rw [capability_conceptAddition hconcept]
    exact capability?_of_concept hconcept
  declarative := .concept _

theorem map_name_conceptAddition (names : List String) :
    (names.map r.conceptAddition).map Addition.name = names := by
  rw [List.map_map]
  exact List.map_id names

theorem written?_conceptAddition (hhidden : r.HidesMachines names) (hmem : name ∈ names)
    (hconcept : r.concepts.get? name = some c) (key : String) :
    (r.conceptAddition name).written? r key = none := by
  rw [Addition.written?, get?_overlay, machineOf?, capability_conceptAddition hconcept]
  cases hmachine : c.machine.bind r.machines.get? with
  | none => simp only [Capability.machine, hmachine]; rfl
  | some m =>
    obtain ⟨brought, hbrought, hm⟩ := Option.bind_eq_some_iff.1 hmachine
    simp only [Capability.machine, hmachine, Option.bind_some,
      hhidden name hmem c brought m hconcept hbrought hm]
    rfl

end Registry

namespace Addition

variable {s : Surroundings} {e e' : Entity} {additions : List Addition}

/-- Additions that write nothing leave the fields as they are. -/
theorem state_of_forM_attach (hdefined : s.registry.MachinesDefined)
    (hregistered : ∀ a ∈ additions, a.Registered s.registry)
    (hnothing : ∀ a ∈ additions, ∀ key, a.written? s.registry key = none)
    (hattach : ((additions.map name).forM s.attach).run e = .ok () e') : e'.state = e.state := by
  induction additions generalizing e with
  | nil =>
    cases hattach
    rfl
  | cons first additions ih =>
    obtain ⟨hfirst, hregistered⟩ := List.forall_mem_cons.1 hregistered
    obtain ⟨hnone, hnothing⟩ := List.forall_mem_cons.1 hnothing
    obtain ⟨_, _, hattachFirst, hrest⟩ := bind_eq_ok.1 hattach
    obtain ⟨_, rfl⟩ := (attach_eq_ok_iff hdefined hfirst).1 hattachFirst
    rw [ih hregistered hnothing hrest]
    refine Dictionary.ext_get? fun key => ?_
    rw [get?_applied, hnone, Option.none_or]

/-- Nor are they ever in each other's way. -/
theorem pairwise_apart_of_nothing {r : Registry}
    (hnothing : ∀ a ∈ additions, ∀ key, a.written? r key = none) : additions.Pairwise (Apart r) := by
  have hspares : ∀ a ∈ additions, ∀ b, a.Spares r b := by
    intro a hmem b key value hwritten
    cases (hnothing a hmem key).symm.trans hwritten
  exact List.pairwise_of_forall_mem_list fun a ha b hb => ⟨hspares a ha b, hspares b hb a⟩

end Addition

namespace Surroundings

variable {s : Surroundings} {e e' : Entity} {id : EntityId} {state : State} {name : String}
  {names : List String} {c : Concept}

/-- An entity is made of concepts by attaching them in turn, and left valid. -/
theorem implement_eq_ok_iff : (s.implement names).run e = .ok () e' ↔
    (∀ name ∈ names, s.registry.concepts.contains name = true) ∧
    (names.forM s.attach).run e = .ok () e' ∧ s.validate e' = .ok () := by
  induction names generalizing e with
  | nil =>
    constructor
    · intro hvalidate
      obtain ⟨hvalid, rfl⟩ := EntityOp.reading_eq_ok hvalidate
      exact ⟨nofun, rfl, hvalid⟩
    · rintro ⟨_, hattach, hvalid⟩
      cases hattach
      rw [implement, EntityOp.validate, EntityOp.run_reading, hvalid]
      rfl
  | cons first names ih =>
    rw [List.forall_mem_cons]
    cases hconcept : s.registry.concepts.contains first with
    | false =>
      refine iff_of_false (fun himplement => ?_) (fun hall => Bool.false_ne_true hall.1.1)
      simp only [implement, hconcept] at himplement
      cases himplement
    | true =>
      have hcons : (s.implement (first :: names)).run e =
          (s.attach first >>= fun _ => s.implement names).run e := by
        simp only [implement, hconcept]
        rfl
      rw [hcons, bind_eq_ok]
      constructor
      · rintro ⟨_, edited, hfirst, hrest⟩
        obtain ⟨hconcepts, hattach, hvalid⟩ := ih.1 hrest
        exact ⟨⟨rfl, hconcepts⟩, bind_eq_ok.2 ⟨(), edited, hfirst, hattach⟩, hvalid⟩
      · rintro ⟨⟨_, hconcepts⟩, hattach, hvalid⟩
        obtain ⟨_, edited, hfirst, hrest⟩ := bind_eq_ok.1 hattach
        exact ⟨(), edited, hfirst, ih.2 ⟨hconcepts, hrest, hvalid⟩⟩

theorem validate_of_forM_attach (hvalid : s.validate e = .ok ())
    (hattach : (names.forM s.attach).run e = .ok () e') : s.validate e' = .ok () := by
  have happly : (s.applyMembers "" .add names).run e = .ok () e' := applyMembers_eq_ok_iff.2 hattach
  exact validate_of_applyMembers hvalid happly

theorem isKnown_bare (s : Surroundings) (id : EntityId) (state : State) :
    ∀ name ∈ (Entity.bare id state).active, s.registry.isKnown name = true :=
  List.forall_mem_nil _

/-- Of a bare entity the fields may be anything that may be stored. -/
theorem validate_bare_iff : s.validate (.bare id state) = .ok () ↔
    ∀ key value, state.get? key = some value → value.checkStorable s.arena = .ok () := by
  rw [validate_iff_fields (isKnown_bare s id state)]
  simp only [Value.checkStorable_eq_ok_iff]
  exact ⟨fun hfields key => (hfields key).home,
    fun hhome key => ⟨List.forall_mem_nil _, hhome key, nofun⟩⟩

/-- A concept can be attached to a bare entity if it is permitted and its fields are there. -/
theorem fits_bare_iff (hnamed : s.registry.MachinesNamed) (hhidden : s.registry.HidesMachines names)
    (hmem : name ∈ names) (hconcept : s.registry.concepts.get? name = some c)
    (hvalid : s.validate (.bare id state) = .ok ()) :
    (s.registry.conceptAddition name).Fits s (.bare id state) ↔
      s.contexts.permits id name = true ∧ ∀ key shape, c.expects.get? key = some shape →
        ∃ value, state.get? key = some value ∧ shape.admits value = true := by
  have hregistered := Registry.registered_conceptAddition hconcept
  have hnothing := Registry.written?_conceptAddition hhidden hmem hconcept
  have hheld : ∀ key, ((s.registry.conceptAddition name).applied s (.bare id state)).state.get? key =
      state.get? key := by
    intro key
    rw [Addition.get?_applied, hnothing, Option.none_or]
    rfl
  have hvalidApplied := validate_iff_fields (Addition.isKnown_applied hregistered
    (isKnown_bare s id state))
  simp only [hheld] at hvalidApplied
  constructor
  · rintro ⟨_, hpermitted, _, happlied⟩
    refine ⟨hpermitted, fun key shape hshape => ?_⟩
    exact (hvalidApplied.1 happlied key).shaped name (Addition.mem_active_applied.2 (.inl rfl)) (.concept c)
      shape (Registry.capability?_of_concept hconcept) hshape
  · rintro ⟨hpermitted, hshapes⟩
    refine ⟨rfl, hpermitted, checkAmbiguity_eq_ok_iff.2 ⟨nofun, .inr rfl⟩, hvalidApplied.2 fun key => ?_⟩
    constructor
    case shaped =>
      intro query hquery found shape hfound hshape
      rcases Addition.mem_active_applied.1 hquery with rfl | hnone
      · cases (Registry.capability?_of_concept hconcept).symm.trans hfound
        exact hshapes key shape hshape
      · cases hnone
    case home =>
      intro value hvalue
      exact (Value.checkStorable_eq_ok_iff ..).1 (validate_bare_iff.1 hvalid key value hvalue)
    case shown =>
      intro running m hrunning hmachine hkey
      cases Addition.machine_of_applied hnamed hrunning hmachine hkey (hnothing key)

/-- Concepts are compatible exactly if they have different names and no methods in common, and no two of them
    bring machines. -/
theorem pairwise_compatible_iff (hconcepts : ∀ name ∈ names, s.registry.concepts.contains name = true) :
    (names.map s.registry.conceptAddition).Pairwise Addition.Compatible ↔ names.Nodup ∧
      ∀ first ∈ names, ∀ second ∈ names, first ≠ second → ∀ c d,
        s.registry.concepts.get? first = some c → s.registry.concepts.get? second = some d →
        (∀ method, c.methods.contains method = true → d.methods.contains method = false) ∧
        (c.machine = none ∨ d.machine = none) := by
  rw [List.pairwise_map]
  constructor
  · intro hpairwise
    have hsymm : Std.Symm fun first second =>
        (s.registry.conceptAddition first).Compatible (s.registry.conceptAddition second) :=
      ⟨fun _ _ => Addition.Compatible.symm⟩
    refine ⟨hpairwise.imp fun hcompatible => hcompatible.name_ne, fun first hfirst second hsecond hne => ?_⟩
    intro c d hc hd
    obtain ⟨_, hmethods, hmachine⟩ := hpairwise.forall hfirst hsecond hne
    rw [Registry.capability_conceptAddition hc, Registry.capability_conceptAddition hd] at hmethods hmachine
    exact ⟨hmethods, hmachine⟩
  · rintro ⟨hnodup, hclear⟩
    refine hnodup.pairwise_of_forall_ne fun first hfirst second hsecond hne => ?_
    obtain ⟨c, hc⟩ := Option.isSome_iff_exists.1 (hconcepts first hfirst)
    obtain ⟨d, hd⟩ := Option.isSome_iff_exists.1 (hconcepts second hsecond)
    obtain ⟨hmethods, hmachine⟩ := hclear first hfirst second hsecond hne c d hc hd
    refine ⟨hne, ?_, ?_⟩
    · rw [Registry.capability_conceptAddition hc, Registry.capability_conceptAddition hd]
      exact hmethods
    · rw [Registry.capability_conceptAddition hc, Registry.capability_conceptAddition hd]
      exact hmachine

theorem Contract.compatible (hcontract : s.Contract id state names) :
    (names.map s.registry.conceptAddition).Pairwise Addition.Compatible :=
  (pairwise_compatible_iff hcontract.registered).2 ⟨hcontract.nodup,
    fun first hfirst second hsecond hne c d hc hd =>
      ⟨hcontract.methods_disjoint first hfirst second hsecond hne c d hc hd,
        hcontract.machine_unique first hfirst second hsecond hne c d hc hd⟩⟩

section Concepts

variable (hconcepts : ∀ name ∈ names, s.registry.concepts.contains name = true)

include hconcepts

theorem registered_of_concepts :
    ∀ a ∈ names.map s.registry.conceptAddition, a.Registered s.registry := by
  intro a hmem
  obtain ⟨name, hname, rfl⟩ := List.mem_map.1 hmem
  obtain ⟨c, hc⟩ := Option.isSome_iff_exists.1 (hconcepts name hname)
  exact Registry.registered_conceptAddition hc

theorem nothing_written_of_concepts (hhidden : s.registry.HidesMachines names) :
    ∀ a ∈ names.map s.registry.conceptAddition, ∀ key, a.written? s.registry key = none := by
  intro a hmem
  obtain ⟨name, hname, rfl⟩ := List.mem_map.1 hmem
  obtain ⟨c, hc⟩ := Option.isSome_iff_exists.1 (hconcepts name hname)
  exact Registry.written?_conceptAddition hhidden hname hc

theorem state_of_concepts (hdefined : s.registry.MachinesDefined)
    (hhidden : s.registry.HidesMachines names) (hattach : (names.forM s.attach).run e = .ok () e') :
    e'.state = e.state := by
  rw [← s.registry.map_name_conceptAddition names] at hattach
  exact Addition.state_of_forM_attach hdefined (registered_of_concepts hconcepts)
    (nothing_written_of_concepts hconcepts hhidden) hattach

/-- Where the fields may be stored, concepts can be attached in turn exactly if each of them is satisfied and
    they are compatible. -/
theorem exists_forM_attach_iff_of_concepts (hnamed : s.registry.MachinesNamed)
    (hdefined : s.registry.MachinesDefined) (hhidden : s.registry.HidesMachines names)
    (hbare : s.validate (.bare id state) = .ok ()) :
    (∃ e', (names.forM s.attach).run (.bare id state) = .ok () e') ↔
      (∀ name ∈ names, (s.registry.conceptAddition name).Fits s (.bare id state)) ∧
      (names.map s.registry.conceptAddition).Pairwise Addition.Compatible := by
  have hattach := Addition.exists_forM_attach_iff hnamed hdefined (registered_of_concepts hconcepts)
    (Addition.pairwise_apart_of_nothing (nothing_written_of_concepts hconcepts hhidden))
    (isKnown_bare s id state) hbare
  rwa [s.registry.map_name_conceptAddition names, List.forall_mem_map] at hattach

end Concepts

/-- An entity can be made exactly if the contract holds. -/
theorem exists_implement_iff (hnamed : s.registry.MachinesNamed) (hdefined : s.registry.MachinesDefined)
    (hhidden : s.registry.HidesMachines names) :
    (∃ e', (s.implement names).run (.bare id state) = .ok () e') ↔ s.Contract id state names := by
  constructor
  · rintro ⟨e', himplement⟩
    obtain ⟨hconcepts, hattach, hvalid⟩ := implement_eq_ok_iff.1 himplement
    -- The fields are stored as they came.
    have hstate := state_of_concepts hconcepts hdefined hhidden hattach
    have hstorable : ∀ key value, state.get? key = some value → value.checkStorable s.arena = .ok () := by
      intro key value hvalue
      refine Value.checkStorable_eq_ok_iff.2 (homeIn_of_validate hvalid value ?_)
      change value ∈ e'.state.values
      rw [hstate]
      exact List.mem_map.2 ⟨(key, value), Dictionary.mem_entries_iff.2 hvalue, rfl⟩
    have hbare : s.validate (.bare id state) = .ok () := validate_bare_iff.2 hstorable
    obtain ⟨hfits, hcompatible⟩ := (exists_forM_attach_iff_of_concepts hconcepts hnamed hdefined hhidden
      hbare).1 ⟨e', hattach⟩
    obtain ⟨hnodup, hclear⟩ := (pairwise_compatible_iff hconcepts).1 hcompatible
    constructor
    case registered => exact hconcepts
    case nodup => exact hnodup
    case permitted => exact fun name hname => (hfits name hname).permitted
    case methods_disjoint =>
      exact fun first hfirst second hsecond hne c d hc hd =>
        (hclear first hfirst second hsecond hne c d hc hd).1
    case machine_unique =>
      exact fun first hfirst second hsecond hne c d hc hd =>
        (hclear first hfirst second hsecond hne c d hc hd).2
    case shapes =>
      exact fun name hname c hc => ((fits_bare_iff hnamed hhidden hname hc hbare).1 (hfits name hname)).2
    case storable => exact hstorable
  · intro hcontract
    have hbare : s.validate (.bare id state) = .ok () := validate_bare_iff.2 hcontract.storable
    have hconcepts := hcontract.registered
    have hfits : ∀ name ∈ names, (s.registry.conceptAddition name).Fits s (.bare id state) := by
      intro name hname
      obtain ⟨c, hc⟩ := Option.isSome_iff_exists.1 (hconcepts name hname)
      exact (fits_bare_iff hnamed hhidden hname hc hbare).2
        ⟨hcontract.permitted name hname, hcontract.shapes name hname c hc⟩
    obtain ⟨e', hattach⟩ := (exists_forM_attach_iff_of_concepts hconcepts hnamed hdefined hhidden
      hbare).2 ⟨hfits, hcontract.compatible⟩
    exact ⟨e', implement_eq_ok_iff.2 ⟨hconcepts, hattach, validate_of_forM_attach hbare hattach⟩⟩

theorem outcome_of_concepts (hdefined : s.registry.MachinesDefined)
    (hhidden : s.registry.HidesMachines names) (hcontract : s.Contract id state names)
    (hattach : (names.forM s.attach).run e = .ok () e') :
    Addition.Outcome s.registry (names.map s.registry.conceptAddition) e e' := by
  have hconcepts := hcontract.registered
  rw [← s.registry.map_name_conceptAddition names] at hattach
  exact Addition.outcome_of_forM_attach hdefined (registered_of_concepts hconcepts)
    (Addition.pairwise_apart_of_nothing (nothing_written_of_concepts hconcepts hhidden))
    hcontract.compatible hattach

/-- The entity that is made has the given fields and concepts and nothing else, but for the machine of the
    concept that brings one, which is at its start. -/
theorem made_of_implement (hkinds : s.registry.KindsApart) (hnamed : s.registry.MachinesNamed)
    (hdefined : s.registry.MachinesDefined) (hhidden : s.registry.HidesMachines names)
    (himplement : (s.implement names).run (.bare id state) = .ok () e) :
    e.id = id ∧ e.state = state ∧ e.concepts = names ∧ e.modifiers = [] ∧
    (∀ name ∈ names, ∀ c key, s.registry.concepts.get? name = some c → c.machine = some key →
      ∃ m, s.registry.machines.get? key = some m ∧ e.machine = some ⟨key, m.initial⟩) ∧
    ((∀ name ∈ names, ∀ c, s.registry.concepts.get? name = some c → c.machine = none) →
      e.machine = none) := by
  have hcontract := (exists_implement_iff hnamed hdefined hhidden).1 ⟨e, himplement⟩
  obtain ⟨hconcepts, hattach, _⟩ := implement_eq_ok_iff.1 himplement
  have houtcome := outcome_of_concepts hdefined hhidden hcontract hattach
  have happly : (s.applyMembers "" .add names).run (.bare id state) = .ok () e :=
    applyMembers_eq_ok_iff.2 hattach
  obtain ⟨hnames, hmodifiers⟩ := lists_of_applyMembers hkinds happly
  refine ⟨id_of_forM_attach hattach, state_of_concepts hconcepts hdefined hhidden hattach, ?_, ?_, ?_, ?_⟩
  · rw [hnames, List.filter_eq_self.2 hconcepts]
    rfl
  · rw [hmodifiers, List.filter_eq_nil_iff.2]
    · rfl
    · intro name hname
      rw [hkinds name (hconcepts name hname)]
      exact Bool.false_ne_true
  · intro name hname c key hc hbrings
    have hknown := Registry.capability?_of_concept hc
    obtain ⟨m, hm⟩ := Option.isSome_iff_exists.1 (hdefined name _ hknown key hbrings)
    refine ⟨m, hm, ?_⟩
    rw [← hnamed key m hm]
    refine houtcome.started _ (List.mem_map.2 ⟨name, hname, rfl⟩) m ?_
    rw [Registry.capability_conceptAddition hc, Registry.machineOf?, Capability.machine, hbrings,
      Option.bind_some, hm]
  · intro hnone
    refine houtcome.running fun a hmem => ?_
    obtain ⟨name, hname, rfl⟩ := List.mem_map.1 hmem
    obtain ⟨c, hc⟩ := Option.isSome_iff_exists.1 (hconcepts name hname)
    rw [Registry.capability_conceptAddition hc, Registry.machineOf?, Capability.machine, hnone name hname c hc,
      Option.bind_none]

end Surroundings

end CapabilityArena
