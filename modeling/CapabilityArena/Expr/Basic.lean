import CapabilityArena.Dictionary.Basic

/-!
Boolean expressions over capability names, their text and their evaluation. `eval` stops as soon as the
answer is known; `ask` also lists the names that it asked for on the way.
-/

namespace CapabilityArena

inductive Expr where
  | name (name : String)
  | all (terms : List Expr)
  | any (terms : List Expr)
  | not (term : Expr)

namespace Expr

instance : Inhabited Expr := ⟨.name ""⟩

mutual

def same : Expr → Expr → Bool
  | .name a, .name b => a == b
  | .all a, .all b => sameTerms a b
  | .any a, .any b => sameTerms a b
  | .not a, .not b => same a b
  | _, _ => false

def sameTerms : List Expr → List Expr → Bool
  | [], [] => true
  | a :: as, b :: bs => same a b && sameTerms as bs
  | _, _ => false

end

mutual

theorem same_iff : ∀ a b : Expr, same a b = true ↔ a = b
  | .name a, .name b => by simp [same]
  | .all a, .all b => by simp [same, sameTerms_iff a b]
  | .any a, .any b => by simp [same, sameTerms_iff a b]
  | .not a, .not b => by simp [same, same_iff a b]
  | .name _, .all _ => by simp [same]
  | .name _, .any _ => by simp [same]
  | .name _, .not _ => by simp [same]
  | .all _, .name _ => by simp [same]
  | .all _, .any _ => by simp [same]
  | .all _, .not _ => by simp [same]
  | .any _, .name _ => by simp [same]
  | .any _, .all _ => by simp [same]
  | .any _, .not _ => by simp [same]
  | .not _, .name _ => by simp [same]
  | .not _, .all _ => by simp [same]
  | .not _, .any _ => by simp [same]

theorem sameTerms_iff : ∀ as bs : List Expr, sameTerms as bs = true ↔ as = bs
  | [], [] => by simp [sameTerms]
  | [], _ :: _ => by simp [sameTerms]
  | _ :: _, [] => by simp [sameTerms]
  | a :: as, b :: bs => by simp [sameTerms, same_iff a b, sameTerms_iff as bs]

end

instance : DecidableEq Expr := fun a b => decidable_of_iff _ (same_iff a b)

mutual

/-- A list of terms stands in parentheses, with the operator between blanks. -/
def chars : Expr → List Char
  | .name n => n.toList
  | .all terms => '(' :: termChars '+' terms ++ [')']
  | .any terms => '(' :: termChars '|' terms ++ [')']
  | .not term => '!' :: chars term

def termChars (operator : Char) : List Expr → List Char
  | [] => []
  | term :: terms => chars term ++ moreChars operator terms

/-- The terms after the first, each with the operator before it. -/
def moreChars (operator : Char) : List Expr → List Char
  | [] => []
  | term :: terms => ' ' :: operator :: ' ' :: chars term ++ moreChars operator terms

end

def text (e : Expr) : String := String.ofList e.chars

mutual

/-- Whether the expression holds of a set of names. -/
def eval (has : String → Bool) : Expr → Bool
  | .name n => has n
  | .all terms => evalAll has terms
  | .any terms => evalAny has terms
  | .not term => !eval has term

def evalAll (has : String → Bool) : List Expr → Bool
  | [] => true
  | term :: terms => eval has term && evalAll has terms

def evalAny (has : String → Bool) : List Expr → Bool
  | [] => false
  | term :: terms => eval has term || evalAny has terms

end

mutual

/-- The value of the expression and the names asked for to find it, in order. -/
def ask (has : String → Bool) : Expr → Bool × List String
  | .name n => (has n, [n])
  | .all terms => askAll has terms
  | .any terms => askAny has terms
  | .not term =>
    let answer := ask has term
    (!answer.1, answer.2)

/-- No term is asked after one that is false. -/
def askAll (has : String → Bool) : List Expr → Bool × List String
  | [] => (true, [])
  | term :: terms =>
    match ask has term with
    | (false, asked) => (false, asked)
    | (true, asked) =>
      let later := askAll has terms
      (later.1, asked ++ later.2)

/-- No term is asked after one that is true. -/
def askAny (has : String → Bool) : List Expr → Bool × List String
  | [] => (false, [])
  | term :: terms =>
    match ask has term with
    | (true, asked) => (true, asked)
    | (false, asked) =>
      let later := askAny has terms
      (later.1, asked ++ later.2)

end

mutual

/-- The names in the expression from left to right, repeats included. -/
def leaves : Expr → List String
  | .name n => [n]
  | .all terms => termLeaves terms
  | .any terms => termLeaves terms
  | .not term => leaves term

def termLeaves : List Expr → List String
  | [] => []
  | term :: terms => leaves term ++ termLeaves terms

end

mutual

/-- Adds the names in the expression to a set. -/
def collect : Expr → KeySet String → KeySet String
  | .name n, found => found.add n
  | .all terms, found => collectTerms terms found
  | .any terms, found => collectTerms terms found
  | .not term, found => collect term found

def collectTerms : List Expr → KeySet String → KeySet String
  | [], found => found
  | term :: terms, found => collectTerms terms (collect term found)

end

/-- The names in the expression, each of them once. -/
def names (e : Expr) : KeySet String := e.collect .empty

mutual

theorem ask_fst (has : String → Bool) : ∀ e : Expr, (ask has e).1 = eval has e
  | .name _ => rfl
  | .all terms => by simp [ask, eval, askAll_fst has terms]
  | .any terms => by simp [ask, eval, askAny_fst has terms]
  | .not term => by simp [ask, eval, ask_fst has term]

theorem askAll_fst (has : String → Bool) : ∀ terms, (askAll has terms).1 = evalAll has terms
  | [] => rfl
  | term :: terms => by
    rw [askAll, evalAll, ← ask_fst has term, ← askAll_fst has terms]
    split <;> simp_all

theorem askAny_fst (has : String → Bool) : ∀ terms, (askAny has terms).1 = evalAny has terms
  | [] => rfl
  | term :: terms => by
    rw [askAny, evalAny, ← ask_fst has term, ← askAny_fst has terms]
    split <;> simp_all

end

end Expr

end CapabilityArena
