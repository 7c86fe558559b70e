import CapabilityArena.Proofs.Expr.Reparsing
import CapabilityArena.Proofs.Realm.Creation

/-!
Asking entities for registered names. A registry takes every name that is not blank, but the text of a question
is an expression: only a name of the characters of names is read as itself, and no other text is about the
capability that it names.
-/

namespace CapabilityArena

namespace Expr

variable {e : Expr} {terms : List Expr} {least : Nat} {has has' : String → Bool}

theorem evalAll_congr (hterms : ∀ term ∈ terms, eval has term = eval has' term) :
    evalAll has terms = evalAll has' terms := by
  induction terms with
  | nil => rfl
  | cons term terms ih =>
    obtain ⟨hterm, hterms⟩ := List.forall_mem_cons.1 hterms
    rw [evalAll, evalAll, hterm, ih hterms]

theorem evalAny_congr (hterms : ∀ term ∈ terms, eval has term = eval has' term) :
    evalAny has terms = evalAny has' terms := by
  induction terms with
  | nil => rfl
  | cons term terms ih =>
    obtain ⟨hterm, hterms⟩ := List.forall_mem_cons.1 hterms
    rw [evalAny, evalAny, hterm, ih hterms]

/-- What was parsed asks for readable names only. -/
theorem Writable.eval_congr (hwritable : Writable least e) (hagree : ∀ n, IsName n → has n = has' n) :
    e.eval has = e.eval has' := by
  induction hwritable with
  | name hname => exact hagree _ hname
  | all _ _ ih => rw [eval, eval, evalAll_congr ih]
  | any _ _ ih => rw [eval, eval, evalAny_congr ih]
  | not _ ih => rw [eval, eval, ih]

end Expr

namespace Realm

variable {r r' : Realm} {address address' : Address} {e e' : Entity} {name : String}

theorem hasExpr_of_entity (hentity : r.heap.entity address = .ok e) (tree : Expr) :
    r.hasExpr address tree = .ok (tree.eval e.hasActive) := by
  rw [hasExpr, hentity]
  rfl

theorem has_of_isName (hentity : r.heap.entity address = .ok e) (hname : Expr.IsName name) :
    r.has address name = .ok (e.hasActive name) := by
  rw [has_of_parse (Expr.parse_eq_name_iff.2 hname), hasExpr_of_entity hentity, Expr.eval]

/-- Asked for a name that cannot be read, entities do not differ in whether it is active. -/
theorem has_congr_of_not_isName (hentity : r.heap.entity address = .ok e)
    (hentity' : r'.heap.entity address' = .ok e') (hname : ¬Expr.IsName name)
    (hagree : ∀ other, other ≠ name → e.hasActive other = e'.hasActive other) :
    r.has address name = r'.has address' name := by
  cases hparse : Expr.parse name with
  | error problem => rw [has_eq_error hparse, has_eq_error hparse]
  | ok tree =>
    have hvalue : tree.eval e.hasActive = tree.eval e'.hasActive := by
      apply (Expr.writable_of_parse hparse).eval_congr
      intro n hn
      apply hagree
      rintro rfl
      exact hname hn
    rw [has_of_parse hparse, has_of_parse hparse, hasExpr_of_entity hentity, hasExpr_of_entity hentity', hvalue]

end Realm

/-- Every live entity of every realm over the registry can be asked for the name. -/
def Registry.Answers (registry : Registry) (name : String) : Prop :=
  ∀ maxSlots maxContexts calls address e,
    ((Realm.empty registry maxSlots maxContexts).run calls).heap.entity address = .ok e →
    ((Realm.empty registry maxSlots maxContexts).run calls).has address name = .ok (e.hasActive name)

/-- Nothing but a concept of this name, which asks for nothing. -/
def Registration.lone (name : String) : List Registration := [.concept ⟨name, .empty, .empty, none⟩]

namespace Registration

variable {name : String} {registry : Registry}

theorem consistent_lone (hblank : ∃ c ∈ name.toList, Text.isBlank c = false) : Consistent (lone name) where
  not_blank := by simpa [lone, names, name?] using hblank
  names_nodup := by simp [lone, names, name?]
  machineNames_nodup := List.nodup_nil
  members_ne_nil := by simp [lone]
  members_nodup := by simp [lone]
  members_known := by simp [lone]
  machines_known := by simp [lone, brings?]

theorem get?_of_lone (hbuild : Registry.build (lone name) = .ok registry) :
    registry.concepts.get? name = some ⟨name, .empty, .empty, none⟩ := by
  obtain ⟨_, hholds⟩ := Registry.of_build_eq_ok hbuild
  exact (hholds.concepts _ _).2 ⟨List.mem_cons_self, rfl⟩

end Registration

namespace Realm

variable {name : String} {registry : Registry} {names : List String}

/-- The contract of an entity without fields with the lone concept. -/
theorem contract_of_lone (hconcept : registry.concepts.get? name = some ⟨name, .empty, .empty, none⟩)
    (hnodup : names.Nodup) (hnames : ∀ n ∈ names, n = name) (id : EntityId) :
    Surroundings.Contract ⟨registry, .empty 0, ⟨1⟩⟩ id .empty names where
  registered := fun n hn => by rw [hnames n hn, Dictionary.contains, hconcept]; rfl
  nodup := hnodup
  permitted := fun _ _ => rfl
  methods_disjoint := fun first hfirst second hsecond hne =>
    absurd ((hnames first hfirst).trans (hnames second hsecond).symm) hne
  machine_unique := fun first hfirst second hsecond hne =>
    absurd ((hnames first hfirst).trans (hnames second hsecond).symm) hne
  shapes := by
    intro n hn c hc key shape hshape
    rw [hnames n hn, hconcept] at hc
    cases hc
    cases hshape
  storable := nofun

/-- An entity with the lone concept can be made, and one without. -/
theorem exists_entity_of_lone (hbuild : Registry.build (Registration.lone name) = .ok registry)
    (hnodup : names.Nodup) (hnames : ∀ n ∈ names, n = name) : ∃ calls address e,
      ((empty registry 1 0).run calls).heap.entity address = .ok e ∧ e.active = names := by
  have hconcept := Registration.get?_of_lone hbuild
  have hnamed := Registry.machinesNamed_of_build hbuild
  have hdefined := Registry.machinesDefined_of_build hbuild
  have hkinds := Registry.kindsApart_of_build hbuild
  have hhidden : registry.HidesMachines names := by
    intro n hn c key m hc hkey
    rw [hnames n hn, hconcept] at hc
    cases hc
    cases hkey
  let r := (empty registry 1 0).run [.heap .createArena]
  have hsound : r.heap.Sound := sound_run (Heap.sound_empty 1) _
  have hroom : r.heap.HasRoom ⟨1⟩ := ⟨_, rfl, Nat.one_pos, by simp [Arena.opened]⟩
  have himplement := (Surroundings.exists_implement_iff hnamed hdefined hhidden).2
    (contract_of_lone hconcept hnodup hnames ⟨r.nextEntity⟩)
  obtain ⟨address, r', hcreate⟩ := (RealmOp.exists_createEntity_iff hsound).2 ⟨hroom, himplement⟩
  obtain ⟨e, hmade, hread⟩ := RealmOp.entity_createEntity hsound hcreate
  obtain ⟨_, _, hconcepts, hmodifiers, _⟩ :=
    Surroundings.made_of_implement hkinds hnamed hdefined hhidden hmade
  refine ⟨[.heap .createArena, .createEntity ⟨1⟩ .empty names], address, e, ?_, ?_⟩
  · change (after (silently (RealmOp.createEntity ⟨1⟩ .empty names)) r).heap.entity address = .ok e
    rwa [after_silently, after_eq_of_ok hcreate]
  · rw [Entity.active, hconcepts, hmodifiers, List.append_nil]

end Realm

/-- Over a registry with nothing but a concept whose name cannot be read, some question is answered wrong. -/
theorem Registry.not_answers_lone {name : String} {registry : Registry}
    (hbuild : Registry.build (Registration.lone name) = .ok registry) (hname : ¬Expr.IsName name) :
    ¬registry.Answers name := by
  intro hanswers
  obtain ⟨calls, address, e, hentity, hactive⟩ :=
    Realm.exists_entity_of_lone hbuild (List.nodup_singleton name) (by simp)
  obtain ⟨calls', address', e', hentity', hactive'⟩ :=
    Realm.exists_entity_of_lone hbuild List.nodup_nil (by simp)
  have hagree : ∀ other, other ≠ name → e.hasActive other = e'.hasActive other := by
    intro other hne
    simp [Entity.hasActive, hactive, hactive', hne]
  have hsame := Realm.has_congr_of_not_isName hentity hentity' hname hagree
  rw [hanswers _ _ _ _ _ hentity, hanswers _ _ _ _ _ hentity'] at hsame
  simp [Entity.hasActive, hactive, hactive'] at hsame

namespace Realm

/-- Whether a registered name is active can be asked in text exactly if the name can be read. Then every live
    entity of every realm is answered about, over every registry that has the name; otherwise some registry has
    it and a realm over that registry gives a wrong answer, as the answer does not depend on whether the name is
    active. As an expression that was not parsed, every name can be asked for. -/
theorem answers_iff_isName_of_build {registrations : List Registration} {registry : Registry}
    (hbuild : Registry.build registrations = .ok registry) {name : String}
    (hknown : registry.isKnown name = true) :
    ((∀ others other, Registry.build others = .ok other → other.isKnown name = true → other.Answers name) ↔
      Expr.IsName name) ∧
    (¬Expr.IsName name → ∀ (r r' : Realm) address address' e e', r.heap.entity address = .ok e →
      r'.heap.entity address' = .ok e' → (∀ other, other ≠ name → e.hasActive other = e'.hasActive other) →
      r.has address name = r'.has address' name) ∧
    ∀ (r : Realm) address e, r.heap.entity address = .ok e →
      r.hasExpr address (.name name) = .ok (e.hasActive name) := by
  refine ⟨⟨fun hanswers => ?readable, ?answered⟩, ?blind, ?unparsed⟩
  case readable =>
    by_contra hname
    have hblank := Registry.not_blank_of_isKnown hbuild hknown
    obtain ⟨lone, hlone⟩ := Registry.exists_build_eq_ok (Registration.consistent_lone hblank)
    have hfound := Registry.capability?_of_concept (Registration.get?_of_lone hlone)
    apply Registry.not_answers_lone hlone hname
    exact hanswers _ lone hlone (by rw [Registry.isKnown, hfound, Option.isSome_some])
  case answered =>
    intro hname _ _ _ _ maxSlots maxContexts calls address e hentity
    exact has_of_isName hentity hname
  case blind =>
    intro hname r r' address address' e e' hentity hentity' hagree
    exact has_congr_of_not_isName hentity hentity' hname hagree
  case unparsed =>
    intro r address e hentity
    rw [hasExpr_of_entity hentity, Expr.eval]

/-- Three concepts; there is a blank in one of the names and an operator in another. -/
def planDefinitions : List Registration :=
  ["Gold Plan", "Guest", "Read+Write"].map fun name => .concept ⟨name, .empty, .empty, none⟩

def plans : Registry :=
  match Registry.build planDefinitions with
  | .ok registry => registry
  | .error _ => .empty

def subscriber : List RealmCall :=
  [.heap .createArena, .createEntity ⟨1⟩ .empty ["Gold Plan", "Guest", "Read+Write"]]

theorem answers_iff_isName_of_build_plans : Registry.build planDefinitions = .ok plans ∧
    plans.Answers "Guest" ∧
    (¬∀ others other, Registry.build others = .ok other → other.isKnown "Gold Plan" = true →
      other.Answers "Gold Plan") ∧
    ((empty plans 8 8).run subscriber).hasExpr (.ofParts ⟨1⟩ 0) (.name "Gold Plan") = .ok true := by
  have hbuild : Registry.build planDefinitions = .ok plans := rfl
  have hknown : plans.isKnown "Guest" = true ∧ plans.isKnown "Gold Plan" = true := ⟨rfl, rfl⟩
  have hguest : Expr.IsName "Guest" := Expr.parse_eq_name_iff.1 (by decide +kernel)
  have hgold : ¬Expr.IsName "Gold Plan" := mt Expr.parse_eq_name_iff.2 (by decide +kernel)
  obtain ⟨hasked, _⟩ := answers_iff_isName_of_build hbuild hknown.1
  obtain ⟨hunread, _, htree⟩ := answers_iff_isName_of_build hbuild hknown.2
  let r := (empty plans 8 8).run subscriber
  obtain ⟨e, hentity, hactive⟩ : ∃ e, r.heap.entity (.ofParts ⟨1⟩ 0) = .ok e ∧
    e.hasActive "Gold Plan" = true := ⟨_, rfl, rfl⟩
  refine ⟨hbuild, hasked.2 hguest _ plans hbuild hknown.1, mt hunread.1 hgold, ?_⟩
  rw [htree r (.ofParts ⟨1⟩ 0) e hentity, hactive]

/-- Both names are registered and active; one is refused, and the answer about the other is no. -/
theorem active_names_denied : ∃ e, Registry.build planDefinitions = .ok plans ∧
    plans.isKnown "Gold Plan" = true ∧ plans.isKnown "Read+Write" = true ∧
    ((empty plans 8 8).run subscriber).heap.entity (.ofParts ⟨1⟩ 0) = .ok e ∧
    e.hasActive "Gold Plan" = true ∧ e.hasActive "Read+Write" = true ∧
    ((empty plans 8 8).run subscriber).has (.ofParts ⟨1⟩ 0) "Gold Plan" =
      .error (.invalidExpression (.unexpectedToken (.name "Plan") "Gold Plan")) ∧
    ((empty plans 8 8).run subscriber).has (.ofParts ⟨1⟩ 0) "Read+Write" = .ok false := by
  have hgold : Expr.parse "Gold Plan" = .error (.unexpectedToken (.name "Plan") "Gold Plan") := by
    decide +kernel
  have hsum : Expr.parse "Read+Write" = .ok (.all [.name "Read", .name "Write"]) := by decide +kernel
  refine ⟨_, rfl, rfl, rfl, rfl, rfl, rfl, has_eq_error hgold _ _, ?_⟩
  rw [has_of_parse hsum]
  rfl

end Realm

end CapabilityArena
