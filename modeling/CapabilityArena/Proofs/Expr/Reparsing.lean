import CapabilityArena.Proofs.Expr.Printing
import CapabilityArena.Realm.Capabilities

/-!
Printing an expression and parsing it back. Every list is printed in parentheses, so a tree comes back as long
as no path through it passes too many lists and negations. A list of one term comes back as the term, which has
the same value for every set of names.
-/

namespace CapabilityArena

namespace Expr

variable {name : String} {e term : Expr} {terms : List Expr}

/-- A path from the root to a leaf, by the number of lists and negations that it passes. -/
inductive Reaches : Expr → Nat → Prop where
  | name (n : String) : Reaches (.name n) 0
  | all {terms : List Expr} {term : Expr} {passed : Nat} (hterm : term ∈ terms)
    (hpath : Reaches term passed) : Reaches (.all terms) (passed + 1)
  | any {terms : List Expr} {term : Expr} {passed : Nat} (hterm : term ∈ terms)
    (hpath : Reaches term passed) : Reaches (.any terms) (passed + 1)
  | not {term : Expr} {passed : Nat} (hpath : Reaches term passed) : Reaches (.not term) (passed + 1)

theorem nesting_le_deepest (hterm : term ∈ terms) : term.nesting ≤ deepest terms :=
  deepest_le_iff.1 (Nat.le_refl _) term hterm

theorem Reaches.le_nesting {passed : Nat} (hpath : e.Reaches passed) : passed ≤ e.nesting := by
  induction hpath with
  | name => exact Nat.le_refl 0
  | all hterm _ ih => exact Nat.succ_le_succ (Nat.le_trans ih (nesting_le_deepest hterm))
  | any hterm _ ih => exact Nat.succ_le_succ (Nat.le_trans ih (nesting_le_deepest hterm))
  | not _ ih => exact Nat.succ_le_succ ih

theorem exists_deepest (hsome : 1 ≤ terms.length) : ∃ term ∈ terms, term.nesting = deepest terms := by
  obtain ⟨first, rest, rfl⟩ := List.exists_cons_of_length_pos hsome
  cases hdepth : deepest (first :: rest) with
  | zero => exact ⟨first, List.mem_cons_self, Nat.le_zero.1 (hdepth ▸ nesting_le_deepest List.mem_cons_self)⟩
  | succ room =>
    have hroom : room < deepest (first :: rest) := by omega
    obtain ⟨term, hterm, hdeep⟩ := exists_deep hroom
    exact ⟨term, hterm, Nat.le_antisymm (hdepth ▸ nesting_le_deepest hterm) hdeep⟩

/-- Where every list has a term, some path is as long as the tree is deep. -/
theorem Writable.reaches_nesting (hwritable : Writable 1 e) : e.Reaches e.nesting := by
  induction hwritable with
  | name => exact .name _
  | all hlength _ ih =>
    obtain ⟨term, hterm, hdeepest⟩ := exists_deepest hlength
    rw [nesting, ← hdeepest]
    exact .all hterm (ih term hterm)
  | any hlength _ ih =>
    obtain ⟨term, hterm, hdeepest⟩ := exists_deepest hlength
    rw [nesting, ← hdeepest]
    exact .any hterm (ih term hterm)
  | not _ ih => exact .not ih

theorem Writable.nesting_le_iff (hwritable : Writable 1 e) {room : Nat} :
    e.nesting ≤ room ↔ ∀ passed, e.Reaches passed → passed ≤ room :=
  ⟨fun hroom _ hpath => Nat.le_trans hpath.le_nesting hroom, fun hpaths => hpaths _ hwritable.reaches_nesting⟩

/-- The texts that are read as names are the readable names. -/
theorem parse_eq_name_iff : parse name = .ok (.name name) ↔ IsName name := by
  constructor
  · intro hparse
    cases writable_of_parse hparse with
    | name hname => exact hname
  · intro hname
    have hparse := parse_text (Writable.name hname : Writable 1 (.name name))
    rwa [nesting, if_pos (Nat.zero_le _), collapsed, text, chars, String.ofList_toList] at hparse

theorem eval_joined_all (has : String → Bool) (terms : List Expr) :
    eval has (joined .all terms) = evalAll has terms := by
  unfold joined
  split
  next term => simp [evalAll]
  next => rfl

theorem eval_joined_any (has : String → Bool) (terms : List Expr) :
    eval has (joined .any terms) = evalAny has terms := by
  unfold joined
  split
  next term => simp [evalAny]
  next => rfl

mutual

/-- A list of one term has the value of the term. -/
theorem eval_collapsed (has : String → Bool) : ∀ e : Expr, eval has e.collapsed = eval has e
  | .name _ => rfl
  | .all terms => by rw [collapsed, eval_joined_all, evalAll_collapsed has terms, eval]
  | .any terms => by rw [collapsed, eval_joined_any, evalAny_collapsed has terms, eval]
  | .not term => by rw [collapsed, eval, eval, eval_collapsed has term]

theorem evalAll_collapsed (has : String → Bool) :
    ∀ terms : List Expr, evalAll has (collapsedTerms terms) = evalAll has terms
  | [] => rfl
  | term :: terms => by
    rw [collapsedTerms, evalAll, evalAll, eval_collapsed has term, evalAll_collapsed has terms]

theorem evalAny_collapsed (has : String → Bool) :
    ∀ terms : List Expr, evalAny has (collapsedTerms terms) = evalAny has terms
  | [] => rfl
  | term :: terms => by
    rw [collapsedTerms, evalAny, evalAny, eval_collapsed has term, evalAny_collapsed has terms]

end

end Expr

/-- An expression that was parsed from text and one that was not are asked alike. -/
theorem Realm.has_of_parse {source : String} {tree : Expr} (hparse : Expr.parse source = .ok tree) (r : Realm)
    (address : Address) : r.has address source = r.hasExpr address tree := by
  rw [has, hparse]

theorem Realm.has_eq_error {source : String} {problem : Expr.Problem}
    (hparse : Expr.parse source = .error problem) (r : Realm) (address : Address) :
    r.has address source = .error (.invalidExpression problem) := by
  rw [has, hparse]

namespace Expr

/-- Printing and parsing, for every tree of readable names in which no list is empty. The printed form is read
    back if and only if no path from the root to a leaf passes more than 128 lists and negations; if one does,
    it is refused as an invalid expression. What is read back is the tree with the term in place of every list
    of one term, and so the tree itself if there is none; it has the same value for all sets of names, and
    so the text and the tree get the same answer about every entity. -/
theorem parse_text_iff_paths {e : Expr} (hwritable : Writable 1 e) :
    ((∃ tree, parse e.text = .ok tree) ↔ ∀ passed, e.Reaches passed → passed ≤ 128) ∧
    (∀ tree, parse e.text = .ok tree → tree = e.collapsed ∧ ∀ has, tree.eval has = e.eval has) ∧
    (Writable 2 e → e.collapsed = e) ∧
    (∀ passed, e.Reaches passed → 128 < passed → parse e.text = .error .tooDeep) ∧
    ∀ (r : Realm) address, r.has address e.text =
      if e.nesting ≤ 128 then r.hasExpr address e else .error (.invalidExpression .tooDeep) := by
  have hparse : parse e.text = if e.nesting ≤ 128 then .ok e.collapsed else .error .tooDeep :=
    parse_text hwritable
  refine ⟨?_, fun tree htree => ?_, Writable.collapsed_eq, fun passed hpath hlong => ?_, fun r address => ?_⟩
  · rw [← hwritable.nesting_le_iff, hparse]
    by_cases hfits : e.nesting ≤ 128
    · simp [hfits]
    · simp [hfits]
  · rw [hparse] at htree
    by_cases hfits : e.nesting ≤ 128
    · rw [if_pos hfits] at htree
      cases htree
      exact ⟨rfl, fun has => eval_collapsed has e⟩
    · rw [if_neg hfits] at htree
      cases htree
  · have hdeep := Nat.lt_of_lt_of_le hlong hpath.le_nesting
    rw [hparse, if_neg (Nat.not_le.2 hdeep)]
  · by_cases hfits : e.nesting ≤ 128
    · rw [if_pos hfits] at hparse ⊢
      rw [Realm.has_of_parse hparse, Realm.hasExpr, Realm.hasExpr]
      simp only [eval_collapsed]
    · rw [if_neg hfits] at hparse ⊢
      exact Realm.has_eq_error hparse r address

theorem Writable.negated {least : Nat} (hwritable : Writable least e) (count : Nat) :
    Writable least (negated count e) := by
  induction count with
  | zero => exact hwritable
  | succ count ih => exact .not ih

/-- A list with a list of one list of one name, and a negated name. -/
def singles : Expr := .any [.all [.any [.name "Gold"]], .not (.name "Guest")]

theorem writable_singles : Writable 1 singles := by
  have hgold : IsName "Gold" := parse_eq_name_iff.1 (by decide +kernel)
  have hguest : IsName "Guest" := parse_eq_name_iff.1 (by decide +kernel)
  have hlists : Writable 1 (.all [.any [.name "Gold"]]) :=
    .all (by simp) (by simpa using .any (by simp) (by simpa using .name hgold))
  exact .any (by simp) (by simpa using ⟨hlists, .not (.name hguest)⟩)

theorem parse_text_iff_paths_singles :
    parse singles.text = .ok (.any [.name "Gold", .not (.name "Guest")]) ∧
    parse (negated 126 singles).text = .error .tooDeep := by
  obtain ⟨hread, htree, _⟩ := parse_text_iff_paths writable_singles
  obtain ⟨_, _, _, hdeep, _⟩ := parse_text_iff_paths (writable_singles.negated 126)
  obtain ⟨tree, hparse⟩ := hread.2 fun passed hpath => Nat.le_trans hpath.le_nesting (by decide)
  have hcollapsed : tree = .any [.name "Gold", .not (.name "Guest")] := (htree tree hparse).1
  exact ⟨hcollapsed ▸ hparse, hdeep 129 (writable_singles.negated 126).reaches_nesting (by decide)⟩

end Expr

end CapabilityArena
