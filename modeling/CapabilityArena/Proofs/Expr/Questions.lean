import Mathlib.Data.List.Basic
import CapabilityArena.Expr.Basic

/-!
What an expression asks for. Terms are asked from left to right until one of them decides, so the questions are
some of the leaves in their order, and they are all that the answer depends on: a set of names that agrees on
what was asked is asked the same and gets the same answer.
-/

namespace CapabilityArena.Expr

/-- The names asked for, in order and with repeats. -/
def asked (has : String → Bool) (e : Expr) : List String := (ask has e).2

/-- The value of an expression without regard to order: a conjunction, a disjunction or a negation. -/
inductive HasValue (has : String → Bool) : Expr → Bool → Prop where
  | name (n : String) : HasValue has (.name n) (has n)
  | all_true {terms : List Expr} (hterms : ∀ term ∈ terms, HasValue has term true) :
    HasValue has (.all terms) true
  | all_false {terms : List Expr} {term : Expr} (hterm : term ∈ terms) (hvalue : HasValue has term false) :
    HasValue has (.all terms) false
  | any_true {terms : List Expr} {term : Expr} (hterm : term ∈ terms) (hvalue : HasValue has term true) :
    HasValue has (.any terms) true
  | any_false {terms : List Expr} (hterms : ∀ term ∈ terms, HasValue has term false) :
    HasValue has (.any terms) false
  | not {term : Expr} {value : Bool} (hterm : HasValue has term value) : HasValue has (.not term) (!value)

/-- The value together with the questions that lead to it. A conjunction asks its terms up to the first that is
    false, a disjunction up to the first that is true, and the terms after that one are not asked at all. -/
inductive Answers (has : String → Bool) : Expr → Bool → List String → Prop where
  | name (n : String) : Answers has (.name n) (has n) [n]
  | all_true {terms : List Expr} {questions : Expr → List String}
    (hterms : ∀ term ∈ terms, Answers has term true (questions term)) :
    Answers has (.all terms) true (terms.flatMap questions)
  | all_false {before : List Expr} {term : Expr} {after : List Expr} {questions : Expr → List String}
    (hbefore : ∀ term ∈ before, Answers has term true (questions term))
    (hterm : Answers has term false (questions term)) :
    Answers has (.all (before ++ term :: after)) false (before.flatMap questions ++ questions term)
  | any_true {before : List Expr} {term : Expr} {after : List Expr} {questions : Expr → List String}
    (hbefore : ∀ term ∈ before, Answers has term false (questions term))
    (hterm : Answers has term true (questions term)) :
    Answers has (.any (before ++ term :: after)) true (before.flatMap questions ++ questions term)
  | any_false {terms : List Expr} {questions : Expr → List String}
    (hterms : ∀ term ∈ terms, Answers has term false (questions term)) :
    Answers has (.any terms) false (terms.flatMap questions)
  | not {term : Expr} {value : Bool} {questions : List String} (hterm : Answers has term value questions) :
    Answers has (.not term) (!value) questions

variable {has other : String → Bool} {name : String} {e term : Expr} {terms before after : List Expr}
  {value decided : Bool} {questions : List String}

/-- Induction on an expression, with all terms of a list at once. -/
@[elab_as_elim]
theorem inductionOn {motive : Expr → Prop} (e : Expr) (name : ∀ n, motive (.name n))
    (all : ∀ terms, (∀ term ∈ terms, motive term) → motive (.all terms))
    (any : ∀ terms, (∀ term ∈ terms, motive term) → motive (.any terms))
    (not : ∀ term, motive term → motive (.not term)) : motive e := by
  cases e with
  | name n => exact name n
  | all terms => exact all terms fun term _ => inductionOn term name all any not
  | any terms => exact any terms fun term _ => inductionOn term name all any not
  | not term => exact not term (inductionOn term name all any not)

/-! ### The names of an expression -/

theorem termLeaves_eq (terms : List Expr) : termLeaves terms = terms.flatMap leaves := by
  induction terms with
  | nil => rfl
  | cons term terms ih => rw [termLeaves, ih, List.flatMap_cons]

theorem collectTerms_eq (terms : List Expr) (found : KeySet String) :
    collectTerms terms found = terms.foldl (fun found term => collect term found) found := by
  induction terms generalizing found with
  | nil => rfl
  | cons term terms ih => rw [collectTerms, ih, List.foldl_cons]

/-- Collecting adds the leaves one after the other. -/
theorem collect_eq (e : Expr) : ∀ found, collect e found = e.leaves.foldl KeySet.add found := by
  have hlist : ∀ terms : List Expr,
      (∀ term ∈ terms, ∀ found, collect term found = term.leaves.foldl KeySet.add found) →
      ∀ found, collectTerms terms found = (termLeaves terms).foldl KeySet.add found := by
    intro terms hterms found
    rw [collectTerms_eq, termLeaves_eq, List.foldl_flatMap]
    exact List.foldl_ext _ _ _ fun found term hterm => hterms term hterm found
  induction e using inductionOn with
  | name n => exact fun _ => rfl
  | all terms ih => exact hlist terms ih
  | any terms ih => exact hlist terms ih
  | not term ih => exact ih

/-- The names are the leaves. -/
theorem contains_names : e.names.contains name = true ↔ name ∈ e.leaves := by
  rw [names, collect_eq]
  exact KeySet.contains_ofList e.leaves name

/-! ### Lists of terms -/

/-- Asks terms until one has the value that decides. -/
def askUntil (has : String → Bool) (decided : Bool) : List Expr → Bool × List String
  | [] => (!decided, [])
  | term :: terms =>
    let later := askUntil has decided terms
    if (ask has term).1 = decided then ask has term else (later.1, (ask has term).2 ++ later.2)

theorem ask_all (has : String → Bool) (terms : List Expr) :
    ask has (.all terms) = askUntil has false terms := by
  rw [ask]
  induction terms with
  | nil => rfl
  | cons term terms ih =>
    rw [askAll, askUntil, ih]
    rcases ask has term with ⟨_ | _, questions⟩ <;> rfl

theorem ask_any (has : String → Bool) (terms : List Expr) :
    ask has (.any terms) = askUntil has true terms := by
  rw [ask]
  induction terms with
  | nil => rfl
  | cons term terms ih =>
    rw [askAny, askUntil, ih]
    rcases ask has term with ⟨_ | _, questions⟩ <;> rfl

section Lists

variable {asks : Expr → List String}

/-- Terms that do not decide are asked, and then those that come after them. -/
theorem askUntil_append (hbefore : ∀ term ∈ before, ask has term = (!decided, asks term)) :
    askUntil has decided (before ++ after) =
      ((askUntil has decided after).1, before.flatMap asks ++ (askUntil has decided after).2) := by
  induction before with
  | nil => rfl
  | cons term before ih =>
    obtain ⟨hterm, hbefore⟩ := List.forall_mem_cons.1 hbefore
    rw [List.cons_append, askUntil, hterm, if_neg (by simp), ih hbefore, List.flatMap_cons, List.append_assoc]

theorem askUntil_eq_undecided (hterms : ∀ term ∈ terms, ask has term = (!decided, asks term)) :
    askUntil has decided terms = (!decided, terms.flatMap asks) := by
  have happend : askUntil has decided (terms ++ []) = _ := askUntil_append hterms
  rwa [List.append_nil, askUntil, List.append_nil] at happend

theorem askUntil_eq_decided (hbefore : ∀ term ∈ before, ask has term = (!decided, asks term))
    (hterm : ask has term = (decided, asks term)) :
    askUntil has decided (before ++ term :: after) = (decided, before.flatMap asks ++ asks term) := by
  rw [askUntil_append hbefore, askUntil, hterm, if_pos rfl]

end Lists

/-- Either no term decides, or there is a first one that does. -/
theorem undecided_or_split (has : String → Bool) (decided : Bool) (terms : List Expr) :
    (∀ term ∈ terms, ask has term = (!decided, asked has term)) ∨
    ∃ before term after, terms = before ++ term :: after ∧
      (∀ term ∈ before, ask has term = (!decided, asked has term)) ∧
      ask has term = (decided, asked has term) := by
  have hundecided : ∀ term, ¬(ask has term).1 = decided → ask has term = (!decided, asked has term) :=
    fun term hne => Prod.ext (Bool.eq_not_of_ne hne) rfl
  cases hfind : terms.find? fun term => (ask has term).1 == decided with
  | none =>
    refine .inl fun term hterm => hundecided term ?_
    simpa using List.find?_eq_none.1 hfind term hterm
  | some term =>
    obtain ⟨hterm, before, after, hterms, hbefore⟩ := List.find?_eq_some_iff_append.1 hfind
    refine .inr ⟨before, term, after, hterms, fun term hmem => hundecided term ?_, Prod.ext ?_ rfl⟩
    · simpa using hbefore term hmem
    · simpa using hterm

theorem flatMap_sublist_termLeaves {asks : Expr → List String}
    (hterms : ∀ term ∈ terms, (asks term).Sublist term.leaves) :
    (terms.flatMap asks).Sublist (termLeaves terms) := by
  induction terms with
  | nil => exact .slnil
  | cons term terms ih =>
    obtain ⟨hterm, hterms⟩ := List.forall_mem_cons.1 hterms
    exact hterm.append (ih hterms)

theorem append_sublist_termLeaves {asks : Expr → List String}
    (hbefore : ∀ term ∈ before, (asks term).Sublist term.leaves) (hterm : (asks term).Sublist term.leaves) :
    (before.flatMap asks ++ asks term).Sublist (termLeaves (before ++ term :: after)) := by
  have hfront := flatMap_sublist_termLeaves hbefore
  rw [termLeaves_eq] at hfront ⊢
  rw [List.flatMap_append, List.flatMap_cons]
  exact hfront.append (hterm.trans (List.sublist_append_left ..))

theorem evalAll_eq (has : String → Bool) (terms : List Expr) : evalAll has terms = terms.all (eval has) := by
  induction terms with
  | nil => rfl
  | cons term terms ih => rw [evalAll, ih, List.all_cons]

theorem evalAny_eq (has : String → Bool) (terms : List Expr) : evalAny has terms = terms.any (eval has) := by
  induction terms with
  | nil => rfl
  | cons term terms ih => rw [evalAny, ih, List.any_cons]

/-! ### What is asked, and what it decides -/

/-- The value and the questions are those of the relation. -/
theorem answers_ask (has : String → Bool) (e : Expr) : Answers has e (ask has e).1 (asked has e) := by
  have hknown : ∀ {term value}, Answers has term (ask has term).1 (asked has term) →
      ask has term = (value, asked has term) → Answers has term value (asked has term) :=
    fun hterm hvalue => by rwa [hvalue] at hterm
  induction e using inductionOn with
  | name n => exact .name n
  | all terms ih =>
    rw [asked, ask_all]
    rcases undecided_or_split has false terms with htrue | ⟨before, term, after, rfl, htrue, hfalse⟩
    · rw [askUntil_eq_undecided htrue]
      exact .all_true fun term hterm => hknown (ih term hterm) (htrue term hterm)
    · rw [askUntil_eq_decided htrue hfalse]
      refine .all_false (fun term hterm => ?_) (hknown (ih term (by simp)) hfalse)
      exact hknown (ih term (by simp [hterm])) (htrue term hterm)
  | any terms ih =>
    rw [asked, ask_any]
    rcases undecided_or_split has true terms with hfalse | ⟨before, term, after, rfl, hfalse, htrue⟩
    · rw [askUntil_eq_undecided hfalse]
      exact .any_false fun term hterm => hknown (ih term hterm) (hfalse term hterm)
    · rw [askUntil_eq_decided hfalse htrue]
      refine .any_true (fun term hterm => ?_) (hknown (ih term (by simp)) htrue)
      exact hknown (ih term (by simp [hterm])) (hfalse term hterm)
  | not term ih => exact .not ih

namespace Answers

/-- There is only one value, and one way to get it. -/
theorem ask_eq (hanswers : Answers has e value questions) : ask has e = (value, questions) := by
  induction hanswers with
  | name n => rfl
  | all_true _ ih => rw [ask_all, askUntil_eq_undecided ih, Bool.not_false]
  | all_false _ _ ihbefore ihterm => rw [ask_all, askUntil_eq_decided ihbefore ihterm]
  | any_true _ _ ihbefore ihterm => rw [ask_any, askUntil_eq_decided ihbefore ihterm]
  | any_false _ ih => rw [ask_any, askUntil_eq_undecided ih, Bool.not_true]
  | not _ ih => rw [ask, ih]

theorem hasValue (hanswers : Answers has e value questions) : HasValue has e value := by
  induction hanswers with
  | name n => exact .name n
  | all_true _ ih => exact .all_true ih
  | all_false _ _ _ ihterm => exact .all_false (by simp) ihterm
  | any_true _ _ _ ihterm => exact .any_true (by simp) ihterm
  | any_false _ ih => exact .any_false ih
  | not _ ih => exact .not ih

/-- The questions are leaves, in the order of the leaves. -/
theorem sublist_leaves (hanswers : Answers has e value questions) : questions.Sublist e.leaves := by
  induction hanswers with
  | name n => exact .refl _
  | all_true _ ih => exact flatMap_sublist_termLeaves ih
  | all_false _ _ ihbefore ihterm => exact append_sublist_termLeaves ihbefore ihterm
  | any_true _ _ ihbefore ihterm => exact append_sublist_termLeaves ihbefore ihterm
  | any_false _ ih => exact flatMap_sublist_termLeaves ih
  | not _ ih => exact ih

/-- Whoever gives the same answers to the questions is asked the same and told the same. -/
theorem congr (hanswers : Answers has e value questions) (hagree : ∀ name ∈ questions, other name = has name) :
    Answers other e value questions := by
  induction hanswers with
  | name n =>
    rw [← hagree n List.mem_cons_self]
    exact .name n
  | all_true _ ih =>
    refine .all_true fun term hterm => ih term hterm fun name hname => hagree name ?_
    exact List.mem_flatMap.2 ⟨term, hterm, hname⟩
  | all_false _ _ ihbefore ihterm =>
    obtain ⟨hbefore, hterm⟩ := List.forall_mem_append.1 hagree
    refine .all_false (fun term hmem => ihbefore term hmem fun name hname => hbefore name ?_) (ihterm hterm)
    exact List.mem_flatMap.2 ⟨term, hmem, hname⟩
  | any_true _ _ ihbefore ihterm =>
    obtain ⟨hbefore, hterm⟩ := List.forall_mem_append.1 hagree
    refine .any_true (fun term hmem => ihbefore term hmem fun name hname => hbefore name ?_) (ihterm hterm)
    exact List.mem_flatMap.2 ⟨term, hmem, hname⟩
  | any_false _ ih =>
    refine .any_false fun term hterm => ih term hterm fun name hname => hagree name ?_
    exact List.mem_flatMap.2 ⟨term, hterm, hname⟩
  | not _ ih => exact .not (ih hagree)

end Answers

theorem answers_iff : Answers has e value questions ↔ value = eval has e ∧ questions = asked has e := by
  constructor
  · intro hanswers
    rw [← ask_fst, asked, hanswers.ask_eq]
    exact ⟨rfl, rfl⟩
  · rintro ⟨rfl, rfl⟩
    rw [← ask_fst]
    exact answers_ask has e

/-- Evaluation finds the value of the expression. -/
theorem eval_eq_iff : eval has e = value ↔ HasValue has e value := by
  constructor
  · rintro rfl
    exact (answers_iff.2 ⟨rfl, rfl⟩).hasValue
  · intro hvalue
    induction hvalue with
    | name n => rfl
    | all_true _ ih => rw [eval, evalAll_eq, List.all_eq_true.2 ih]
    | all_false hterm _ ih => rw [eval, evalAll_eq, List.all_eq_false.2 ⟨_, hterm, by simp [ih]⟩]
    | any_true hterm _ ih => rw [eval, evalAny_eq, List.any_eq_true.2 ⟨_, hterm, ih⟩]
    | any_false _ ih => rw [eval, evalAny_eq, List.any_eq_false.2 fun term hterm => by simp [ih term hterm]]
    | not _ ih => rw [eval, ih]

/-- An expression has its Boolean value; it asks only until the value is decided, and so it asks for some of its
    leaves, from left to right, all of which are among its names; and nothing but the answers to these questions
    decides the value and the questions. In particular two sets of names that agree on the names of the
    expression are asked the same and told the same. -/
theorem asked_until_decided (has : String → Bool) (e : Expr) :
    (∀ value, eval has e = value ↔ HasValue has e value) ∧
    (∀ value questions, Answers has e value questions ↔ value = eval has e ∧ questions = asked has e) ∧
    (asked has e).Sublist e.leaves ∧
    (∀ name ∈ asked has e, e.names.contains name = true) ∧
    (∀ other, (∀ name ∈ asked has e, other name = has name) →
      eval other e = eval has e ∧ asked other e = asked has e) ∧
    (∀ other, (∀ name, e.names.contains name = true → other name = has name) →
      eval other e = eval has e ∧ asked other e = asked has e) := by
  have hanswers : Answers has e (eval has e) (asked has e) := answers_iff.2 ⟨rfl, rfl⟩
  have hnames : ∀ name ∈ asked has e, e.names.contains name = true :=
    fun name hname => contains_names.2 (hanswers.sublist_leaves.subset hname)
  have hcongr : ∀ other, (∀ name ∈ asked has e, other name = has name) →
      eval other e = eval has e ∧ asked other e = asked has e := by
    intro other hagree
    obtain ⟨hvalue, hquestions⟩ := answers_iff.1 (hanswers.congr hagree)
    exact ⟨hvalue.symm, hquestions.symm⟩
  refine ⟨fun _ => eval_eq_iff, fun _ _ => answers_iff, hanswers.sublist_leaves, hnames, hcongr, ?_⟩
  intro other hagree
  exact hcongr other fun name hname => hagree name (hnames name hname)

/-- Lists inside lists, an empty one and one of a single term among them. -/
def nested : Expr :=
  .all [.any [.not (.all [.name "Guest", .name "Banned"]), .name "Admin"], .any [.all [.name "Gold"]],
    .any [], .name "Late"]

theorem asked_until_decided_nested :
    eval (· == "Gold") nested = false ∧ asked (· == "Gold") nested = ["Guest", "Gold"] ∧
    asked (fun name => name == "Gold" || name == "Late") nested = ["Guest", "Gold"] ∧
    eval (fun name => name == "Gold" || name == "Silver") nested = false ∧
    ¬HasValue (· == "Gold") nested true := by
  obtain ⟨hvalue, _, _, _, hasked, hnamed⟩ := asked_until_decided (· == "Gold") nested
  have hquestions : asked (· == "Gold") nested = ["Guest", "Gold"] := by decide
  refine ⟨by decide, hquestions, ?_, ?_, fun htrue => ?_⟩
  · rw [(hasked _ (by rw [hquestions]; decide)).2, hquestions]
  · have hagree : ∀ name ∈ nested.leaves, (name == "Gold" || name == "Silver") = (name == "Gold") := by decide
    rw [(hnamed _ fun name hname => hagree name (contains_names.1 hname)).1]
    decide
  · cases ((hvalue true).2 htrue : eval (· == "Gold") nested = true)

end CapabilityArena.Expr
