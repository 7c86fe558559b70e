import Mathlib.Data.List.Induction
import Mathlib.Data.List.Pairwise
import CapabilityArena.Proofs.Dictionary.Filing
import CapabilityArena.Registry.Draft

/-!
Which registrations make a registry. Building notes problems while it registers and again when it compares;
still it refuses exactly the registrations that are not consistent as a whole (`Registration.Consistent`),
whatever their order, and a registry that is built holds what was registered and nothing else
(`Registry.Holds`).
-/

namespace CapabilityArena

namespace Registration

/-- The name that is taken among concepts, modifiers and groups. -/
def name? : Registration → Option String
  | .concept c => some c.name
  | .modifier m => some m.name
  | .group g => some g.name
  | .machine _ => none

/-- The name that is taken among state machines. -/
def machineName? : Registration → Option String
  | .machine m => some m.name
  | _ => none

/-- The name under which a concept or a modifier can be attached. -/
def capabilityName? : Registration → Option String
  | .concept c => some c.name
  | .modifier m => some m.name
  | _ => none

/-- The state machine that a concept or a modifier asks for. -/
def brings? : Registration → Option String
  | .concept c => c.machine
  | .modifier m => m.machine
  | _ => none

def names (registrations : List Registration) : List String := registrations.filterMap name?

def machineNames (registrations : List Registration) : List String := registrations.filterMap machineName?

def capabilityNames (registrations : List Registration) : List String :=
  registrations.filterMap capabilityName?

/-- Every name can be given to its definition: it is not blank, and no other definition has it. -/
structure Distinct (registrations : List Registration) : Prop where
  not_blank : ∀ name ∈ names registrations, ∃ c ∈ name.toList, Text.isBlank c = false
  names_nodup : (names registrations).Nodup
  machineNames_nodup : (machineNames registrations).Nodup

/-- The definitions fit together. Groups have members, each of them once, which are concepts or modifiers;
    and the state machines that are asked for are there. -/
structure Consistent (registrations : List Registration) : Prop extends Distinct registrations where
  members_ne_nil : ∀ g, .group g ∈ registrations → g.members ≠ []
  members_nodup : ∀ g, .group g ∈ registrations → g.members.Nodup
  members_known : ∀ g, .group g ∈ registrations → ∀ member ∈ g.members,
    member ∈ capabilityNames registrations
  machines_known : ∀ registration ∈ registrations, ∀ machine, registration.brings? = some machine →
    machine ∈ machineNames registrations

/-- The name of one more definition can be given to it. -/
structure Free (registrations : List Registration) (registration : Registration) : Prop where
  name : ∀ name, registration.name? = some name →
    (∃ c ∈ name.toList, Text.isBlank c = false) ∧ name ∉ names registrations
  machineName : ∀ name, registration.machineName? = some name → name ∉ machineNames registrations

variable {registrations others : List Registration} {registration : Registration} {name : String}

theorem mem_names : name ∈ names registrations ↔
    (∃ c, .concept c ∈ registrations ∧ c.name = name) ∨
    (∃ m, .modifier m ∈ registrations ∧ m.name = name) ∨
    (∃ g, .group g ∈ registrations ∧ g.name = name) := by
  rw [names, List.mem_filterMap]
  constructor
  · rintro ⟨registration, hmem, hname⟩
    cases registration with
    | concept c => exact .inl ⟨c, hmem, Option.some.inj hname⟩
    | modifier m => exact .inr (.inl ⟨m, hmem, Option.some.inj hname⟩)
    | group g => exact .inr (.inr ⟨g, hmem, Option.some.inj hname⟩)
    | machine m => cases hname
  · rintro (⟨c, hmem, rfl⟩ | ⟨m, hmem, rfl⟩ | ⟨g, hmem, rfl⟩)
    · exact ⟨_, hmem, rfl⟩
    · exact ⟨_, hmem, rfl⟩
    · exact ⟨_, hmem, rfl⟩

theorem mem_capabilityNames : name ∈ capabilityNames registrations ↔
    (∃ c, .concept c ∈ registrations ∧ c.name = name) ∨
    (∃ m, .modifier m ∈ registrations ∧ m.name = name) := by
  rw [capabilityNames, List.mem_filterMap]
  constructor
  · rintro ⟨registration, hmem, hname⟩
    cases registration with
    | concept c => exact .inl ⟨c, hmem, Option.some.inj hname⟩
    | modifier m => exact .inr ⟨m, hmem, Option.some.inj hname⟩
    | group g => cases hname
    | machine m => cases hname
  · rintro (⟨c, hmem, rfl⟩ | ⟨m, hmem, rfl⟩)
    · exact ⟨_, hmem, rfl⟩
    · exact ⟨_, hmem, rfl⟩

theorem mem_machineNames :
    name ∈ machineNames registrations ↔ ∃ m, .machine m ∈ registrations ∧ m.name = name := by
  rw [machineNames, List.mem_filterMap]
  constructor
  · rintro ⟨registration, hmem, hname⟩
    cases registration with
    | machine m => exact ⟨m, hmem, Option.some.inj hname⟩
    | _ => cases hname
  · rintro ⟨m, hmem, rfl⟩
    exact ⟨_, hmem, rfl⟩

/-- Names without repetition: those before have none, and the last one is new. -/
theorem nodup_filterMap_append {f : Registration → Option String} :
    ((registrations ++ [registration]).filterMap f).Nodup ↔
      (registrations.filterMap f).Nodup ∧
        ∀ name, f registration = some name → name ∉ registrations.filterMap f := by
  rw [List.filterMap_append, List.filterMap_cons, List.filterMap_nil]
  cases hname : f registration with
  | none => simp
  | some name =>
    rw [(List.perm_append_singleton name _).nodup_iff, List.nodup_cons]
    simp [and_comm]

theorem distinct_append :
    Distinct (registrations ++ [registration]) ↔
      Distinct registrations ∧ Free registrations registration := by
  have hmem : ∀ name, name ∈ names (registrations ++ [registration]) ↔
      name ∈ names registrations ∨ registration.name? = some name := by
    simp [names, List.filterMap_append]
  constructor
  · rintro ⟨hblank, hnames, hmachines⟩
    obtain ⟨hold, hnew⟩ := nodup_filterMap_append.1 hnames
    obtain ⟨holdMachines, hnewMachine⟩ := nodup_filterMap_append.1 hmachines
    refine ⟨⟨fun name hname => hblank name ((hmem name).2 (.inl hname)), hold, holdMachines⟩,
      fun name hname => ⟨hblank name ((hmem name).2 (.inr hname)), hnew name hname⟩, hnewMachine⟩
  · rintro ⟨⟨hblank, hnames, hmachines⟩, hname, hmachineName⟩
    refine ⟨fun name hnew => ?_,
      nodup_filterMap_append.2 ⟨hnames, fun name hnew => (hname name hnew).2⟩,
      nodup_filterMap_append.2 ⟨hmachines, hmachineName⟩⟩
    rcases (hmem name).1 hnew with hold | hnew
    · exact hblank name hold
    · exact (hname name hnew).1

/-- A definition is determined by its name. -/
theorem Distinct.eq_of_name (hdistinct : Distinct registrations) {first second : Registration}
    (hfirst : first ∈ registrations) (hsecond : second ∈ registrations) (hname : first.name? = some name)
    (hsame : second.name? = some name) : first = second := by
  have hpairs := List.pairwise_filterMap.1 hdistinct.names_nodup
  have hsymm : Std.Symm fun first second : Registration =>
      ∀ name, first.name? = some name → ∀ other, second.name? = some other → name ≠ other :=
    ⟨fun _ _ hne name hname other hother => (hne other hother name hname).symm⟩
  by_contra hne
  exact hpairs.forall hfirst hsecond hne name hname name hsame rfl

theorem Consistent.perm (hconsistent : Consistent registrations) (hperm : registrations.Perm others) :
    Consistent others where
  not_blank := fun name hname => hconsistent.not_blank name ((hperm.filterMap _).mem_iff.2 hname)
  names_nodup := (hperm.filterMap _).nodup_iff.1 hconsistent.names_nodup
  machineNames_nodup := (hperm.filterMap _).nodup_iff.1 hconsistent.machineNames_nodup
  members_ne_nil := fun g hg => hconsistent.members_ne_nil g (hperm.mem_iff.2 hg)
  members_nodup := fun g hg => hconsistent.members_nodup g (hperm.mem_iff.2 hg)
  members_known := fun g hg member hmember =>
    (hperm.filterMap _).mem_iff.1 (hconsistent.members_known g (hperm.mem_iff.2 hg) member hmember)
  machines_known := fun registration hmem machine hbrings =>
    (hperm.filterMap _).mem_iff.1
      (hconsistent.machines_known registration (hperm.mem_iff.2 hmem) machine hbrings)

end Registration

open Registration (names machineNames capabilityNames Distinct Free Consistent)

/-- Every state machine is filed under its own name. -/
def Registry.MachinesNamed (r : Registry) : Prop :=
  ∀ name m, r.machines.get? name = some m → m.name = name

/-- The state machines that concepts and modifiers ask for are there. -/
def Registry.MachinesDefined (r : Registry) : Prop :=
  ∀ name capability, r.capability? name = some capability → ∀ key, capability.machine = some key →
    r.machines.contains key = true

/-- No name is filed among concepts and among modifiers. -/
def Registry.KindsApart (r : Registry) : Prop :=
  ∀ name, r.concepts.contains name = true → r.modifiers.contains name = false

/-- A registry holds exactly these definitions, each under its own name. -/
structure Registry.Holds (r : Registry) (registrations : List Registration) : Prop where
  concepts : r.concepts.Files Concept.name (.concept · ∈ registrations)
  modifiers : r.modifiers.Files Modifier.name (.modifier · ∈ registrations)
  groups : r.groups.Files Group.name (.group · ∈ registrations)
  machines : r.machines.Files Machine.name (.machine · ∈ registrations)

namespace Registry

variable {r other : Registry} {registrations others : List Registration} {name : String}

/-- Concepts and modifiers are known. -/
theorem isKnown_iff_contains :
    r.isKnown name = true ↔ r.concepts.contains name = true ∨ r.modifiers.contains name = true := by
  unfold isKnown capability? Dictionary.contains
  cases r.concepts.get? name <;> simp

theorem holds_empty : Registry.empty.Holds [] :=
  ⟨fun _ _ => by simp [empty], fun _ _ => by simp [empty], fun _ _ => by simp [empty],
    fun _ _ => by simp [empty]⟩

namespace Holds

theorem perm (hholds : r.Holds registrations) (hperm : registrations.Perm others) : r.Holds others where
  concepts := hholds.concepts.congr fun _ => hperm.mem_iff
  modifiers := hholds.modifiers.congr fun _ => hperm.mem_iff
  groups := hholds.groups.congr fun _ => hperm.mem_iff
  machines := hholds.machines.congr fun _ => hperm.mem_iff

/-- A registry is determined by what it holds. -/
theorem unique (hholds : r.Holds registrations) (hother : other.Holds registrations) : r = other := by
  cases r
  cases other
  rw [Registry.mk.injEq]
  exact ⟨hholds.concepts.unique hother.concepts, hholds.modifiers.unique hother.modifiers,
    hholds.groups.unique hother.groups, hholds.machines.unique hother.machines⟩

theorem isTaken_iff (hholds : r.Holds registrations) :
    Draft.isTaken r name = true ↔ name ∈ names registrations := by
  simp only [Draft.isTaken, Bool.or_eq_true, hholds.concepts.contains_iff, hholds.modifiers.contains_iff,
    hholds.groups.contains_iff, Registration.mem_names, or_assoc]

theorem isKnown_iff (hholds : r.Holds registrations) :
    r.isKnown name = true ↔ name ∈ capabilityNames registrations := by
  rw [isKnown_iff_contains, hholds.concepts.contains_iff, hholds.modifiers.contains_iff,
    Registration.mem_capabilityNames]

theorem contains_machines_iff (hholds : r.Holds registrations) :
    r.machines.contains name = true ↔ name ∈ machineNames registrations := by
  rw [hholds.machines.contains_iff, Registration.mem_machineNames]

end Holds

end Registry

namespace Draft

variable {d : Draft} {r : Registry} {registrations : List Registration} {registration : Registration}
  {name : String}

theorem nameProblem?_eq_none_iff (hholds : r.Holds registrations) :
    nameProblem? r name = none ↔
      (∃ c ∈ name.toList, Text.isBlank c = false) ∧ name ∉ names registrations := by
  rw [nameProblem?, ← hholds.isTaken_iff]
  by_cases hblank : name.toList.all Text.isBlank = true
  · have hnone : ¬ ∃ c ∈ name.toList, Text.isBlank c = false := by
      rintro ⟨c, hmem, hc⟩
      rw [List.all_eq_true.1 hblank c hmem] at hc
      cases hc
    simp [hblank, hnone]
  · have hsome : ∃ c ∈ name.toList, Text.isBlank c = false := by
      simpa using hblank
    cases htaken : isTaken r name <;> simp [hblank, hsome]

/-- Claiming a name either registers or adds a problem. -/
theorem claiming_cases (d : Draft) (name : String) (register : Registry → Registry) :
    (nameProblem? d.registry name = none ∧
      d.claiming name register = { d with registry := register d.registry }) ∨
    (nameProblem? d.registry name ≠ none ∧ (d.claiming name register).problems ≠ []) := by
  unfold claiming
  cases hproblem : nameProblem? d.registry name with
  | none => exact .inl ⟨rfl, rfl⟩
  | some problem => exact .inr ⟨Option.some_ne_none problem, by simp [note]⟩

/-- Filing one more definition of a kind whose names have been free so far. -/
theorem files_new {ν : Type} {files : Dictionary String ν} {named : ν → String} {kind : ν → Registration}
    (hfiles : files.Files named (kind · ∈ registrations)) {new : ν}
    (hkind : ∀ v, kind v = kind new → v = new)
    (hfree : ∀ v, kind v ∈ registrations → named v ≠ named new) :
    (files.insert (named new) new).Files named (kind · ∈ registrations ++ [kind new]) := by
  refine (hfiles.insert hfree).congr fun v => ?_
  rw [List.mem_append, List.mem_singleton]
  exact or_congr_right ⟨fun hsame => hsame ▸ rfl, hkind v⟩

/-- Definitions of another kind are not touched. -/
theorem files_other {ν : Type} {files : Dictionary String ν} {named : ν → String}
    {kind : ν → Registration} (hfiles : files.Files named (kind · ∈ registrations))
    (hother : ∀ v, kind v ≠ registration) :
    files.Files named (kind · ∈ registrations ++ [registration]) :=
  hfiles.congr fun v => by simp [hother v]

/-- A definition that claims a name joins the others if the name is free, and is a problem if not. -/
theorem claiming_spec {register : Registry → Registry} (hholds : d.registry.Holds registrations)
    (hname : registration.name? = some name) (hmachine : registration.machineName? = none)
    (hregister : name ∉ names registrations →
      (register d.registry).Holds (registrations ++ [registration])) :
    (Free registrations registration ∧ (d.claiming name register).problems = d.problems ∧
      (d.claiming name register).registry.Holds (registrations ++ [registration])) ∨
    (¬ Free registrations registration ∧ (d.claiming name register).problems ≠ []) := by
  rcases d.claiming_cases name register with ⟨hclear, hdone⟩ | ⟨hproblem, hnoted⟩
  · have hfree := (nameProblem?_eq_none_iff hholds).1 hclear
    refine .inl ⟨⟨fun found hfound => ?_, by rw [hmachine]; exact nofun⟩, by rw [hdone], ?_⟩
    · cases hname.symm.trans hfound
      exact hfree
    · rw [hdone]
      exact hregister hfree.2
  · refine .inr ⟨fun hfree => hproblem ?_, hnoted⟩
    exact (nameProblem?_eq_none_iff hholds).2 (hfree.name name hname)

/-- Registering one more definition: it joins the others if its name is free, and is a problem if not. -/
theorem add_spec (hholds : d.registry.Holds registrations) (registration : Registration) :
    (Free registrations registration ∧ (d.add registration).problems = d.problems ∧
      (d.add registration).registry.Holds (registrations ++ [registration])) ∨
    (¬ Free registrations registration ∧ (d.add registration).problems ≠ []) := by
  have ⟨hconcepts, hmodifiers, hgroups, hmachines⟩ := hholds
  cases registration with
  | concept c =>
    refine claiming_spec hholds rfl rfl fun hnew => ⟨?_, files_other hmodifiers (by simp),
      files_other hgroups (by simp), files_other hmachines (by simp)⟩
    refine files_new hconcepts (fun v hv => Registration.concept.inj hv) fun v hv hsame => hnew ?_
    exact Registration.mem_names.2 (.inl ⟨v, hv, hsame⟩)
  | modifier m =>
    refine claiming_spec hholds rfl rfl fun hnew => ⟨files_other hconcepts (by simp), ?_,
      files_other hgroups (by simp), files_other hmachines (by simp)⟩
    refine files_new hmodifiers (fun v hv => Registration.modifier.inj hv) fun v hv hsame => hnew ?_
    exact Registration.mem_names.2 (.inr (.inl ⟨v, hv, hsame⟩))
  | group g =>
    refine claiming_spec hholds rfl rfl fun hnew => ⟨files_other hconcepts (by simp),
      files_other hmodifiers (by simp), ?_, files_other hmachines (by simp)⟩
    refine files_new hgroups (fun v hv => Registration.group.inj hv) fun v hv hsame => hnew ?_
    exact Registration.mem_names.2 (.inr (.inr ⟨v, hv, hsame⟩))
  | machine m =>
    by_cases htaken : d.registry.machines.contains m.name = true
    · refine .inr ⟨fun hfree => ?_, by simp [add, htaken, note]⟩
      exact hfree.machineName m.name rfl (hholds.contains_machines_iff.1 htaken)
    · have hnew : m.name ∉ machineNames registrations := fun hmem =>
        htaken (hholds.contains_machines_iff.2 hmem)
      refine .inl ⟨⟨fun name hname => ?_, fun name hname => ?_⟩, by simp [add, htaken], ?_⟩
      · cases hname
      · cases hname
        exact hnew
      · simp only [add, htaken]
        refine ⟨files_other hconcepts (by simp), files_other hmodifiers (by simp),
          files_other hgroups (by simp), ?_⟩
        refine files_new hmachines (fun v hv => Registration.machine.inj hv) fun v hv hsame => hnew ?_
        exact Registration.mem_machineNames.2 ⟨v, hv, hsame⟩

theorem problems_add_ne_nil (hproblems : d.problems ≠ []) (registration : Registration) :
    (d.add registration).problems ≠ [] := by
  have hclaiming : ∀ name register, (d.claiming name register).problems ≠ [] := by
    intro name register
    rcases d.claiming_cases name register with ⟨_, hdone⟩ | ⟨_, hnoted⟩
    · rw [hdone]
      exact hproblems
    · exact hnoted
  cases registration with
  | concept c => exact hclaiming _ _
  | modifier m => exact hclaiming _ _
  | group g => exact hclaiming _ _
  | machine m =>
    rw [add]
    split
    · simp [note]
    · exact hproblems

/-- Definitions are registered without problems exactly if all names can be given, and then all of them are
    registered. -/
theorem addAll_spec (registrations : List Registration) :
    (Distinct registrations ∧ (empty.addAll registrations).problems = [] ∧
      (empty.addAll registrations).registry.Holds registrations) ∨
    (¬ Distinct registrations ∧ (empty.addAll registrations).problems ≠ []) := by
  induction registrations using List.reverseRecOn with
  | nil => exact .inl ⟨⟨by simp [names], List.nodup_nil, List.nodup_nil⟩, rfl, Registry.holds_empty⟩
  | append_singleton registrations registration ih =>
    have hlast : empty.addAll (registrations ++ [registration]) =
        (empty.addAll registrations).add registration := by
      rw [addAll, List.foldl_append]
      rfl
    rw [hlast, Registration.distinct_append]
    rcases ih with ⟨hdistinct, hproblems, hholds⟩ | ⟨hclash, hproblems⟩
    · rcases add_spec hholds registration with ⟨hfree, hsame, hmore⟩ | ⟨htaken, hnoted⟩
      · exact .inl ⟨⟨hdistinct, hfree⟩, hsame.trans hproblems, hmore⟩
      · exact .inr ⟨fun hboth => htaken hboth.2, hnoted⟩
    · exact .inr ⟨fun hboth => hclash hboth.1, problems_add_ne_nil hproblems registration⟩

theorem memberProblems_eq_nil_iff {group : String} {seen members : List String} :
    memberProblems r group seen members = [] ↔
      members.Nodup ∧ (∀ member ∈ members, member ∉ seen) ∧
        ∀ member ∈ members, r.isKnown member = true := by
  induction members generalizing seen with
  | nil => simp [memberProblems]
  | cons member members ih =>
    rw [memberProblems, List.append_eq_nil_iff, List.append_eq_nil_iff, ih]
    by_cases hseen : member ∈ seen
    · simp [hseen]
    · cases hknown : r.isKnown member with
      | false => simp [hknown]
      | true =>
        simp only [hseen, hknown, ↓reduceIte, true_and, List.nodup_cons, List.mem_cons, not_or,
          forall_eq_or_imp, not_false_eq_true]
        constructor
        · rintro ⟨hnodup, hnew, hall⟩
          exact ⟨⟨fun hmem => (hnew member hmem).1 rfl, hnodup⟩, fun other hother => (hnew other hother).2,
            hall⟩
        · rintro ⟨⟨hnot, hnodup⟩, hnew, hall⟩
          exact ⟨hnodup, fun other hother => ⟨fun hsame => hnot (hsame ▸ hother), hnew other hother⟩, hall⟩

theorem groupProblems_eq_nil_iff {g : Group} :
    groupProblems r g = [] ↔
      g.members ≠ [] ∧ g.members.Nodup ∧ ∀ member ∈ g.members, r.isKnown member = true := by
  rw [groupProblems, List.append_eq_nil_iff, memberProblems_eq_nil_iff]
  by_cases hempty : g.members = [] <;> simp [hempty]

theorem machineProblems_eq_nil_iff {owner : String} {brought : Option String} :
    machineProblems r owner brought = [] ↔
      ∀ machine, brought = some machine → r.machines.contains machine = true := by
  cases brought with
  | none => simp [machineProblems]
  | some machine => cases hthere : r.machines.contains machine <;> simp [machineProblems, hthere]

/-- Comparing the definitions of a registry finds nothing exactly if they fit together. -/
theorem crossProblems_eq_nil_iff (hholds : r.Holds registrations) (hdistinct : Distinct registrations) :
    crossProblems r = [] ↔ Consistent registrations := by
  simp only [crossProblems, List.append_eq_nil_iff, List.flatMap_eq_nil_iff, groupProblems_eq_nil_iff,
    machineProblems_eq_nil_iff, hholds.groups.mem_values_iff, hholds.concepts.mem_values_iff,
    hholds.modifiers.mem_values_iff, hholds.isKnown_iff, hholds.contains_machines_iff]
  constructor
  · rintro ⟨⟨hgroups, hconcepts⟩, hmodifiers⟩
    refine ⟨hdistinct, fun g hg => (hgroups g hg).1, fun g hg => (hgroups g hg).2.1,
      fun g hg => (hgroups g hg).2.2, fun registration hmem machine hbrings => ?_⟩
    cases registration with
    | concept c => exact hconcepts c hmem machine hbrings
    | modifier m => exact hmodifiers m hmem machine hbrings
    | group g => cases hbrings
    | machine m => cases hbrings
  · intro hconsistent
    exact ⟨⟨fun g hg => ⟨hconsistent.members_ne_nil g hg, hconsistent.members_nodup g hg,
      hconsistent.members_known g hg⟩, fun c hc machine => hconsistent.machines_known _ hc machine⟩,
      fun m hm machine => hconsistent.machines_known _ hm machine⟩

theorem finish_eq_ok_iff : d.finish = .ok r ↔
    d.problems = [] ∧ crossProblems d.registry = [] ∧ d.registry = r := by
  rw [finish, ← and_assoc, ← List.append_eq_nil_iff]
  cases d.problems ++ crossProblems d.registry <;> simp

end Draft

namespace Registry

variable {r : Registry} {registrations others : List Registration}

/-- Consistent registrations make a registry. -/
theorem exists_build_eq_ok (hconsistent : Consistent registrations) :
    ∃ r, build registrations = .ok r := by
  rcases Draft.addAll_spec registrations with ⟨hdistinct, hproblems, hholds⟩ | ⟨hclash, _⟩
  · have hcross := (Draft.crossProblems_eq_nil_iff hholds hdistinct).2 hconsistent
    exact ⟨_, Draft.finish_eq_ok_iff.2 ⟨hproblems, hcross, rfl⟩⟩
  · exact absurd hconsistent.toDistinct hclash

/-- What is built comes from consistent registrations and holds them. -/
theorem of_build_eq_ok (hbuild : build registrations = .ok r) :
    Consistent registrations ∧ r.Holds registrations := by
  obtain ⟨hproblems, hcross, rfl⟩ := Draft.finish_eq_ok_iff.1 hbuild
  rcases Draft.addAll_spec registrations with ⟨hdistinct, _, hholds⟩ | ⟨_, hnoted⟩
  · exact ⟨(Draft.crossProblems_eq_nil_iff hholds hdistinct).1 hcross, hholds⟩
  · exact absurd hproblems hnoted

/-- The name of a concept or modifier that is registered is not blank. -/
theorem not_blank_of_isKnown (hbuild : build registrations = .ok r) {name : String}
    (hknown : r.isKnown name = true) : ∃ c ∈ name.toList, Text.isBlank c = false := by
  obtain ⟨hconsistent, hholds⟩ := of_build_eq_ok hbuild
  rw [hholds.isKnown_iff, Registration.mem_capabilityNames] at hknown
  apply hconsistent.not_blank
  rw [Registration.mem_names, ← or_assoc]
  exact .inl hknown

theorem machinesNamed_of_build (hbuild : build registrations = .ok r) : r.MachinesNamed :=
  fun name m hmachine => (((of_build_eq_ok hbuild).2.machines name m).1 hmachine).2

/-- No name is that of a concept and of a modifier. -/
theorem kindsApart_of_build (hbuild : build registrations = .ok r) : r.KindsApart := by
  obtain ⟨hconsistent, hholds⟩ := of_build_eq_ok hbuild
  intro name hconcept
  rw [← Bool.not_eq_true]
  intro hmodifier
  obtain ⟨c, hc, hname⟩ := hholds.concepts.contains_iff.1 hconcept
  obtain ⟨m, hm, hsame⟩ := hholds.modifiers.contains_iff.1 hmodifier
  cases hconsistent.eq_of_name hc hm (congrArg some hname) (congrArg some hsame)

/-- A modifier can be had under its name. -/
theorem capability?_of_modifier (hbuild : build registrations = .ok r) {m : Modifier}
    (hmem : .modifier m ∈ registrations) : r.capability? m.name = some (.modifier m) := by
  obtain ⟨hconsistent, hholds⟩ := of_build_eq_ok hbuild
  have hfiled : r.modifiers.get? m.name = some m := (hholds.modifiers m.name m).2 ⟨hmem, rfl⟩
  cases hconcept : r.concepts.get? m.name with
  | none => rw [capability?, hconcept, hfiled, Option.map_some]
  | some c =>
    obtain ⟨hc, hname⟩ := (hholds.concepts m.name c).1 hconcept
    cases hconsistent.eq_of_name hc hmem (congrArg some hname) rfl

theorem machinesDefined_of_build (hbuild : build registrations = .ok r) : r.MachinesDefined := by
  obtain ⟨hconsistent, hholds⟩ := of_build_eq_ok hbuild
  intro name capability hknown key hbrings
  rw [hholds.contains_machines_iff]
  unfold capability? at hknown
  cases hconcept : r.concepts.get? name with
  | some c =>
    rw [hconcept] at hknown
    cases hknown
    exact hconsistent.machines_known _ ((hholds.concepts name c).1 hconcept).1 key hbrings
  | none =>
    rw [hconcept] at hknown
    obtain ⟨m, hmodifier, rfl⟩ := Option.map_eq_some_iff.1 hknown
    exact hconsistent.machines_known _ ((hholds.modifiers name m).1 hmodifier).1 key hbrings

/-- The machine that a modifier asks for is there. -/
theorem contains_machine_of_modifier (hbuild : build registrations = .ok r) {m : Modifier}
    (hmem : .modifier m ∈ registrations) (key : String) (hbrings : m.machine = some key) :
    r.machines.contains key = true :=
  machinesDefined_of_build hbuild m.name (.modifier m) (capability?_of_modifier hbuild hmem) key hbrings

theorem build_of_perm (hperm : registrations.Perm others) (hbuild : build registrations = .ok r) :
    build others = .ok r := by
  obtain ⟨hconsistent, hholds⟩ := of_build_eq_ok hbuild
  obtain ⟨other, hother⟩ := exists_build_eq_ok (hconsistent.perm hperm)
  rw [hother, (of_build_eq_ok hother).2.unique (hholds.perm hperm)]

/-- Building a registry is exact. It succeeds if and only if the registrations are consistent; what is built
    then holds exactly the registered definitions under their names; and the order of registration decides
    neither whether there is a registry nor which one it is. -/
theorem build_exact_in_any_order (registrations : List Registration) :
    ((∃ r, build registrations = .ok r) ↔ Consistent registrations) ∧
    (∀ r, build registrations = .ok r → r.Holds registrations) ∧
    (∀ others, registrations.Perm others → ∀ r, build registrations = .ok r ↔ build others = .ok r) := by
  refine ⟨⟨?_, exists_build_eq_ok⟩, fun r hbuild => (of_build_eq_ok hbuild).2, fun others hperm r => ?_⟩
  · rintro ⟨r, hbuild⟩
    exact (of_build_eq_ok hbuild).1
  · exact ⟨build_of_perm hperm, build_of_perm hperm.symm⟩

/-- A group that comes before its members, which come before the state machine they ask for. -/
def postDefinitions : List Registration :=
  [.group ⟨"Sealed", ["Stamped", "Letter"]⟩,
    .modifier ⟨"Stamped", .empty, none, none, .empty, none⟩,
    .concept ⟨"Letter", .ofList [("to", .str)], .empty, some "Route"⟩] ++
  (match Machine.ofEntries? "Route" ["written", "sent"] [("written", ["sent"])] with
    | .ok route => [.machine route]
    | .error _ => [])

theorem build_exact_in_any_order_post : ∃ r, build postDefinitions = .ok r ∧ r.Holds postDefinitions ∧
    build postDefinitions.reverse = .ok r ∧
    (r.groups.get? "Sealed").map Group.members = some ["Stamped", "Letter"] := by
  obtain ⟨_, hholds, horder⟩ := build_exact_in_any_order postDefinitions
  exact ⟨_, rfl, hholds _ rfl, (horder _ (List.reverse_perm _).symm _).1 rfl, rfl⟩

end Registry

end CapabilityArena
