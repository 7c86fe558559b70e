import CapabilityArena.Proofs.Context.Guards

/-!
The permission algebra of nested contexts. Each context turns the answer of the contexts around it into
its own (`permits_cons`); the laws about order, narrowing and other entities all come from what a single
context can do to an answer.
-/

namespace CapabilityArena

/-- Grants alone can turn a denial into a permission. -/
def ContextPolicy.grants : ContextPolicy → Bool
  | .grant _ => true
  | _ => false

namespace Context

variable {c : Context} {entity : EntityId} {names : KeySet String}

/-- The answer with a context, given the answer of the contexts around it. -/
def answer (c : Context) (entity : EntityId) (name : String) (outside : Bool) : Bool :=
  match c.verdict entity name with
  | .silent => outside
  | .permit => true
  | .deny => false

theorem verdict_of_other (hother : c.governs entity = false) (name : String) :
    c.verdict entity name = .silent := by
  simp only [verdict, hother, Bool.false_eq_true, ↓reduceIte]

theorem answer_of_other (hother : c.governs entity = false) (name : String) (outside : Bool) :
    c.answer entity name outside = outside := by
  simp only [answer, verdict_of_other hother]

theorem answer_of_allow (hgoverns : c.governs entity = true) (hpolicy : c.policy = .allow names)
    (name : String) (outside : Bool) :
    c.answer entity name outside = (outside && names.contains name) := by
  cases hlisted : names.contains name <;>
    simp [answer, verdict, hgoverns, hpolicy, ContextPolicy.verdict, hlisted]

theorem answer_of_deny (hgoverns : c.governs entity = true) (hpolicy : c.policy = .deny names)
    (name : String) (outside : Bool) :
    c.answer entity name outside = (outside && !names.contains name) := by
  cases hlisted : names.contains name <;>
    simp [answer, verdict, hgoverns, hpolicy, ContextPolicy.verdict, hlisted]

theorem answer_of_grant (hgoverns : c.governs entity = true) (hpolicy : c.policy = .grant names)
    (name : String) (outside : Bool) :
    c.answer entity name outside = (outside || names.contains name) := by
  cases hlisted : names.contains name <;>
    simp [answer, verdict, hgoverns, hpolicy, ContextPolicy.verdict, hlisted]

theorem answer_mono (c : Context) (entity : EntityId) (name : String) {less more : Bool}
    (hle : less = true → more = true) (hless : c.answer entity name less = true) :
    c.answer entity name more = true := by
  unfold answer at hless ⊢
  cases hverdict : c.verdict entity name with
  | silent => exact hle (by simpa [hverdict] using hless)
  | permit => rfl
  | deny => simp [hverdict] at hless

/-- A context that does not grant gives its own answer, in conjunction with what is around it. -/
theorem answer_of_not_grants (hgrants : c.policy.grants = false) (entity : EntityId) (name : String)
    (outside : Bool) :
    c.answer entity name outside = (c.answer entity name true && outside) := by
  cases hgoverns : c.governs entity with
  | false => simp [answer_of_other hgoverns]
  | true =>
    cases hpolicy : c.policy with
    | allow names => simp [answer_of_allow hgoverns hpolicy, Bool.and_comm]
    | deny names => simp [answer_of_deny hgoverns hpolicy, Bool.and_comm]
    | grant names =>
      rw [hpolicy] at hgrants
      cases hgrants

end Context

namespace ContextStack

variable {s : ContextStack} {c : Context} {inner outer contexts : List Context} {maxDepth : Nat}
  {entity : EntityId} {name : String}

theorem permits_cons (c : Context) (contexts : List Context) (maxDepth : Nat) (entity : EntityId)
    (name : String) :
    (ContextStack.mk (c :: contexts) maxDepth).permits entity name =
      c.answer entity name ((ContextStack.mk contexts maxDepth).permits entity name) := by
  simp only [permits, check, checkFrom, Context.answer]
  cases c.verdict entity name <;> rfl

/-- A larger answer of the contexts outside is a larger answer of all of them. -/
theorem permits_append_mono {less more : List Context}
    (hle : (ContextStack.mk less maxDepth).permits entity name = true →
      (ContextStack.mk more maxDepth).permits entity name = true) :
    (ContextStack.mk (inner ++ less) maxDepth).permits entity name = true →
      (ContextStack.mk (inner ++ more) maxDepth).permits entity name = true := by
  induction inner with
  | nil => exact hle
  | cons d inner ih =>
    rw [List.cons_append, List.cons_append, permits_cons, permits_cons]
    exact d.answer_mono entity name ih

/-- Wherever a context that does not grant is put, it permits nothing that was denied without it. -/
theorem permits_of_insert (hgrants : c.policy.grants = false)
    (hpermits : (ContextStack.mk (inner ++ c :: outer) maxDepth).permits entity name = true) :
    (ContextStack.mk (inner ++ outer) maxDepth).permits entity name = true := by
  refine permits_append_mono (fun hwith => ?_) hpermits
  rw [permits_cons, Context.answer_of_not_grants hgrants, Bool.and_eq_true] at hwith
  exact hwith.2

/-- Without grants, a name is permitted if each context by itself permits it. -/
theorem permits_eq_all (hgrants : ∀ c ∈ contexts, c.policy.grants = false) :
    (ContextStack.mk contexts maxDepth).permits entity name =
      contexts.all fun c => c.answer entity name true := by
  induction contexts with
  | nil => rfl
  | cons c contexts ih =>
    obtain ⟨hfirst, hrest⟩ := List.forall_mem_cons.1 hgrants
    rw [permits_cons, List.all_cons, Context.answer_of_not_grants hfirst, ih hrest]

/-- Contexts that are silent may be left out. -/
theorem checkFrom_filter {keep : Context → Bool}
    (hsilent : ∀ c ∈ contexts, keep c = false → c.verdict entity name = .silent) :
    checkFrom entity name (contexts.filter keep) = checkFrom entity name contexts := by
  induction contexts with
  | nil => rfl
  | cons c contexts ih =>
    obtain ⟨hfirst, hrest⟩ := List.forall_mem_cons.1 hsilent
    cases hkeep : keep c with
    | false => rw [List.filter_cons_of_neg (by simp [hkeep]), ih hrest, checkFrom, hfirst hkeep]
    | true => rw [List.filter_cons_of_pos hkeep, checkFrom, checkFrom, ih hrest]

/-- A check fails because of the innermost context that is not silent, and names it. -/
theorem checkFrom_eq_error_iff {failure : Failure} :
    checkFrom entity name contexts = .error failure ↔
      ∃ inner c outer, contexts = inner ++ c :: outer ∧
        (∀ d ∈ inner, d.verdict entity name = .silent) ∧ c.verdict entity name = .deny ∧
        failure = .permissionDenied name (.context c.label c.id) := by
  induction contexts with
  | nil => simp [checkFrom]
  | cons c contexts ih =>
    rw [checkFrom]
    constructor
    · intro hfails
      split at hfails
      next hsilent =>
        obtain ⟨inner, decisive, outer, rfl, hinner, hrest⟩ := ih.1 hfails
        exact ⟨c :: inner, decisive, outer, rfl, List.forall_mem_cons.2 ⟨hsilent, hinner⟩, hrest⟩
      next => cases hfails
      next hdeny =>
        cases hfails
        exact ⟨[], c, contexts, rfl, List.forall_mem_nil _, hdeny, rfl⟩
    · rintro ⟨inner, decisive, outer, hcontexts, hinner, hdeny, hnamed⟩
      cases inner with
      | nil =>
        cases hcontexts
        rw [hdeny, hnamed]
      | cons d inner =>
        cases hcontexts
        obtain ⟨hfirst, hrest⟩ := List.forall_mem_cons.1 hinner
        rw [hfirst]
        exact ih.2 ⟨inner, decisive, outer, rfl, hrest, hdeny, hnamed⟩

/-- The permission algebra. A context that is entered leaves entities alone that it does not govern; for
    the others, an allow list is a conjunction with the answer before, a deny list one with the names that
    are not listed, and a grant a disjunction; without contexts everything is permitted. So without grants
    the order of the contexts does not matter; an allow or deny list narrows, wherever it is put; contexts
    that govern only other entities may be left out; and a failure names the innermost context that is not
    silent. -/
theorem permission_algebra (s : ContextStack) (entity : EntityId) (name : String) :
    (∀ c guard pushed, (enter c).run s = .ok guard pushed →
      (c.governs entity = false → pushed.permits entity name = s.permits entity name) ∧
      (c.governs entity = true → ∀ names,
        (c.policy = .allow names →
          pushed.permits entity name = (s.permits entity name && names.contains name)) ∧
        (c.policy = .deny names →
          pushed.permits entity name = (s.permits entity name && !names.contains name)) ∧
        (c.policy = .grant names →
          pushed.permits entity name = (s.permits entity name || names.contains name)))) ∧
    (s.contexts = [] → s.permits entity name = true) ∧
    ((∀ c ∈ s.contexts, c.policy.grants = false) → ∀ contexts, contexts.Perm s.contexts →
      { s with contexts := contexts }.permits entity name = s.permits entity name) ∧
    (∀ inner c outer, s.contexts = inner ++ c :: outer → c.policy.grants = false →
      s.permits entity name = true →
        { s with contexts := inner ++ outer }.permits entity name = true) ∧
    (∀ keep : Context → Bool, (∀ c ∈ s.contexts, keep c = false → c.governs entity = false) →
      { s with contexts := s.contexts.filter keep }.check entity name = s.check entity name) ∧
    ∀ failure, s.check entity name = .error failure ↔
      ∃ inner c outer, s.contexts = inner ++ c :: outer ∧
        (∀ d ∈ inner, d.verdict entity name = .silent) ∧ c.verdict entity name = .deny ∧
        failure = .permissionDenied name (.context c.label c.id) := by
  obtain ⟨contexts, maxDepth⟩ := s
  refine ⟨fun c guard pushed henter => ?push, fun hnone => ?empty, fun hgrants reordered hperm => ?order,
    fun inner c outer hcontexts hgrants => ?narrow, fun keep hother => ?others,
    fun failure => checkFrom_eq_error_iff⟩
  case push =>
    obtain ⟨_, rfl⟩ := enter_eq_ok henter
    rw [permits_cons]
    exact ⟨fun hother => Context.answer_of_other hother name _, fun hgoverns names =>
      ⟨fun hpolicy => Context.answer_of_allow hgoverns hpolicy name _,
        fun hpolicy => Context.answer_of_deny hgoverns hpolicy name _,
        fun hpolicy => Context.answer_of_grant hgoverns hpolicy name _⟩⟩
  case empty =>
    cases hnone
    rfl
  case order =>
    have hreordered : ∀ c ∈ reordered, c.policy.grants = false :=
      fun c hmem => hgrants c (hperm.mem_iff.1 hmem)
    rw [permits_eq_all hgrants, permits_eq_all hreordered]
    exact hperm.all_eq
  case narrow =>
    cases hcontexts
    exact permits_of_insert hgrants
  case others =>
    exact checkFrom_filter fun c hmem hleft => Context.verdict_of_other (hother c hmem hleft) name

def elsewhere : Context := ⟨⟨4⟩, "elsewhere", .deny (.ofList ["Admin"]), .entity ⟨7⟩⟩

def escalation : Context := ⟨⟨5⟩, "escalation", .grant (.ofList ["Admin"]), .everyone⟩

/-- Three lists, of which the innermost is about another entity. -/
def lists : ContextStack :=
  ⟨[elsewhere, ContextSession.sandbox, ContextSession.review], 4⟩

/-- The sandbox denies what it does not list, wherever it stands, until it is granted inside. -/
theorem permission_algebra_lists : ∃ unaffected narrowed without granted,
    (enter elsewhere).run lists = .ok ⟨⟨4⟩, 3⟩ unaffected ∧
    unaffected.permits ⟨1⟩ "Admin" = lists.permits ⟨1⟩ "Admin" ∧
    (enter ContextSession.sandbox).run lists = .ok ⟨⟨2⟩, 3⟩ narrowed ∧
    narrowed.permits ⟨1⟩ "Admin" = (lists.permits ⟨1⟩ "Admin" && false) ∧
    (enter ContextSession.maintenance).run lists = .ok ⟨⟨1⟩, 3⟩ without ∧
    without.permits ⟨1⟩ "Admin" = (lists.permits ⟨1⟩ "Admin" && true) ∧
    (enter escalation).run lists = .ok ⟨⟨5⟩, 3⟩ granted ∧
    granted.permits ⟨1⟩ "Admin" = (lists.permits ⟨1⟩ "Admin" || true) ∧
    (empty 4).permits ⟨1⟩ "Admin" = true ∧
    (∀ c ∈ lists.contexts, c.policy.grants = false) ∧
    { lists with contexts := lists.contexts.reverse }.permits ⟨1⟩ "Admin" =
      lists.permits ⟨1⟩ "Admin" ∧
    lists.permits ⟨1⟩ "Assignable" = true ∧
    { lists with contexts := [elsewhere, ContextSession.review] }.permits ⟨1⟩ "Assignable" = true ∧
    { lists with contexts := lists.contexts.filter (·.governs ⟨1⟩) }.check ⟨1⟩ "Admin" =
      lists.check ⟨1⟩ "Admin" ∧
    lists.check ⟨1⟩ "Admin" = .error (.permissionDenied "Admin" (.context "sandbox" ⟨2⟩)) := by
  have hlists : ∀ c ∈ lists.contexts, c.policy.grants = false := by
    simp [lists, elsewhere, ContextSession.sandbox, ContextSession.review, ContextPolicy.grants]
  obtain ⟨hpush, _, horder, _, hothers, hfails⟩ := permission_algebra lists ⟨1⟩ "Admin"
  obtain ⟨_, _, _, hnarrow, _⟩ := permission_algebra lists ⟨1⟩ "Assignable"
  obtain ⟨_, hempty, _⟩ := permission_algebra (empty 4) ⟨1⟩ "Admin"
  refine ⟨_, _, _, _, rfl, (hpush elsewhere _ _ rfl).1 rfl,
    rfl, (((hpush ContextSession.sandbox _ _ rfl).2 rfl _).1 rfl),
    rfl, (((hpush ContextSession.maintenance _ _ rfl).2 rfl _).2.1 rfl),
    rfl, (((hpush escalation _ _ rfl).2 rfl _).2.2 rfl), hempty rfl, hlists,
    horder hlists _ (List.reverse_perm _), rfl,
    hnarrow [elsewhere] ContextSession.sandbox [ContextSession.review] rfl rfl rfl, ?_, ?_⟩
  · exact hothers _ fun c _ hleft => hleft
  · exact (hfails _).2 ⟨[elsewhere], ContextSession.sandbox, [ContextSession.review], rfl,
      List.forall_mem_singleton.2 (Context.verdict_of_other rfl _), rfl, rfl⟩

end ContextStack

end CapabilityArena
