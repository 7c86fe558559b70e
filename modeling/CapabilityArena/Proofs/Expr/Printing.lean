import CapabilityArena.Proofs.Expr.Grammar
import Mathlib.Control.Monad.Basic

/-!
The printed form of an expression and what it is parsed back to. Every list is printed in parentheses, so
what counts against the nesting limit is the lists and negations of the tree, however its source was
written.
-/

namespace CapabilityArena.Expr

variable {room fuel least : Nat} {e term : Expr} {terms : List Expr} {cs : List Char}
  {tokens us rest : List Token} {problem : Problem} {separator : Token}
  {parts : List (List Token × Expr)} {item : Reader}

mutual

/-- How many lists and negations lie inside each other. -/
def nesting : Expr → Nat
  | .name _ => 0
  | .all terms => deepest terms + 1
  | .any terms => deepest terms + 1
  | .not term => nesting term + 1

def deepest : List Expr → Nat
  | [] => 0
  | term :: terms => max (nesting term) (deepest terms)

end

mutual

/-- The tokens of the printed form. -/
def spelling : Expr → List Token
  | .name n => [.name n]
  | .all terms => .opening :: [Token.plus].intercalate (spellings terms) ++ [.closing]
  | .any terms => .opening :: [Token.pipe].intercalate (spellings terms) ++ [.closing]
  | .not term => .bang :: spelling term

def spellings : List Expr → List (List Token)
  | [] => []
  | term :: terms => spelling term :: spellings terms

end

mutual

/-- The expression with each list of one term replaced by the term. -/
def collapsed : Expr → Expr
  | .name n => .name n
  | .all terms => joined .all (collapsedTerms terms)
  | .any terms => joined .any (collapsedTerms terms)
  | .not term => .not (collapsed term)

def collapsedTerms : List Expr → List Expr
  | [] => []
  | term :: terms => collapsed term :: collapsedTerms terms

end

/-- Every name can be read back, and every list has at least so many terms. -/
inductive Writable (least : Nat) : Expr → Prop where
  | name {n : String} (hname : IsName n) : Writable least (.name n)
  | all {terms : List Expr} (hlength : least ≤ terms.length) (hterms : ∀ term ∈ terms, Writable least term) :
    Writable least (.all terms)
  | any {terms : List Expr} (hlength : least ≤ terms.length) (hterms : ∀ term ∈ terms, Writable least term) :
    Writable least (.any terms)
  | not {term : Expr} (hterm : Writable least term) : Writable least (.not term)

theorem deepest_le_iff : deepest terms ≤ room ↔ ∀ term ∈ terms, term.nesting ≤ room := by
  induction terms with
  | nil => simp [deepest]
  | cons term terms ih => rw [deepest, Nat.max_le, ih, List.forall_mem_cons]

theorem exists_deep (hdeep : room < deepest terms) : ∃ term ∈ terms, room < term.nesting := by
  have hnot := mt deepest_le_iff.2 (Nat.not_le.2 hdeep)
  simpa using hnot

/-- The terms of a list as the grammar sees them. -/
def writtenParts (terms : List Expr) : List (List Token × Expr) :=
  terms.map fun term => (term.spelling, term.collapsed)

theorem intercalate_spellings (separator : Token) (terms : List Expr) :
    [separator].intercalate (spellings terms) = separated separator (writtenParts terms) := by
  have hspellings : spellings terms = (writtenParts terms).map Prod.fst := by
    induction terms with
    | nil => rfl
    | cons term terms ih => rw [spellings, ih]; rfl
  rw [hspellings, separated]

theorem collapsedTerms_eq (terms : List Expr) : collapsedTerms terms = (writtenParts terms).map Prod.snd := by
  induction terms with
  | nil => rfl
  | cons term terms ih => rw [collapsedTerms, ih]; rfl

/-- An expression without a list of one term stays as it is. -/
theorem Writable.collapsed_eq (hwritable : Writable 2 e) : e.collapsed = e := by
  have hterms : ∀ {terms : List Expr}, (∀ term ∈ terms, term.collapsed = term) →
      collapsedTerms terms = terms := by
    intro terms hterms
    rw [collapsedTerms_eq, writtenParts, List.map_map]
    exact (List.map_congr_left hterms).trans (List.map_id' terms)
  induction hwritable with
  | name => rfl
  | all hlength _ ih => rw [collapsed, hterms ih, joined_eq .all hlength]
  | any hlength _ ih => rw [collapsed, hterms ih, joined_eq .any hlength]
  | not _ ih => rw [collapsed, ih]

/-! ### The printed form has the spelling for its tokens -/

theorem termChars_cons_cons (operator : Char) (first next : Expr) (terms : List Expr) :
    termChars operator (first :: next :: terms) =
      first.chars ++ ' ' :: operator :: ' ' :: termChars operator (next :: terms) := by
  simp [termChars, moreChars]

/-- Before a text that does not continue a name, the printed form splits into the spelling. -/
def Prints (e : Expr) : Prop :=
  ∀ cs us, (∀ c ∈ cs.head?, isNameChar c = false) → Splits cs us →
    Splits (e.chars ++ cs) (e.spelling ++ us)

theorem splits_terms {operator : Char} (hoperator : IsOperator operator separator)
    (hterms : ∀ term ∈ terms, term.Prints) (hends : ∀ c ∈ cs.head?, isNameChar c = false)
    (hrest : Splits cs us) :
    Splits (termChars operator terms ++ cs) ([separator].intercalate (spellings terms) ++ us) := by
  induction terms with
  | nil => exact hrest
  | cons first terms ih =>
    obtain ⟨hfirst, hterms⟩ := List.forall_mem_cons.1 hterms
    cases terms with
    | nil => simpa [termChars, moreChars, spellings] using hfirst cs us hends hrest
    | cons next terms =>
      have hblank : Text.isBlank ' ' = true := by decide
      have hspace : isNameChar ' ' = false := isNameChar_of_isBlank hblank
      have hafter := Splits.blank hblank (.operator hoperator (.blank hblank (ih hterms)))
      have hsplits := hfirst _ _ (by simpa using hspace) hafter
      simpa [termChars_cons_cons, spellings, List.intercalate_cons_cons] using hsplits

/-- A list in its parentheses is printed as soon as its terms are. -/
theorem splits_list {operator : Char} (hoperator : IsOperator operator separator)
    (hterms : ∀ term ∈ terms, term.Prints) (hrest : Splits cs us) :
    Splits ('(' :: termChars operator terms ++ [')'] ++ cs)
      (.opening :: [separator].intercalate (spellings terms) ++ [.closing] ++ us) := by
  have hclose : Splits (')' :: cs) (.closing :: us) := .operator .closing hrest
  have hends : isNameChar ')' = false := by decide
  have hlist := splits_terms hoperator hterms (by simpa using hends) hclose
  simpa using Splits.operator .opening hlist

theorem Writable.prints (hwritable : Writable least e) : e.Prints := by
  induction hwritable with
  | name hname => exact fun cs us hends hrest => .name hname hends hrest
  | all _ _ ih => exact fun cs us _ hrest => splits_list .plus ih hrest
  | any _ _ ih => exact fun cs us _ hrest => splits_list .pipe ih hrest
  | not _ ih => exact fun cs us hends hrest => .operator .bang (ih cs us hends hrest)

theorem Writable.splits_text (hwritable : Writable least e) : Splits e.text.toList e.spelling := by
  rw [text, String.toList_ofList]
  simpa using hwritable.prints [] [] (by simp) .nil

/-! ### Printed forms that are read back -/

theorem writtenParts_ne_nil (hlength : 1 ≤ terms.length) : writtenParts terms ≠ [] := by
  intro heq
  rw [writtenParts, List.map_eq_nil_iff] at heq
  rw [heq] at hlength
  exact absurd hlength (Nat.not_succ_le_zero 0)

theorem Writable.derives (hwritable : Writable 1 e) (hroom : e.nesting ≤ room) :
    Derives room .unary e.spelling e.collapsed := by
  induction hwritable generalizing room with
  | name => exact .atom (.name room _)
  | @all terms hlength _ ih =>
    cases room with
    | zero => simp [nesting] at hroom
    | succ room =>
      have hdeepest := deepest_le_iff.1 (Nat.le_of_succ_le_succ hroom)
      have hparts : ∀ part ∈ writtenParts terms, Derives room .unary part.1 part.2 := by
        simpa [writtenParts] using fun term hterm => ih term hterm (hdeepest term hterm)
      rw [spelling, collapsed, intercalate_spellings, collapsedTerms_eq]
      exact .atom (.parens (.single_all (derives_joined .single_unary .all (writtenParts_ne_nil hlength) hparts)))
  | @any terms hlength _ ih =>
    cases room with
    | zero => simp [nesting] at hroom
    | succ room =>
      have hdeepest := deepest_le_iff.1 (Nat.le_of_succ_le_succ hroom)
      have hparts : ∀ part ∈ writtenParts terms, Derives room .all part.1 part.2 := by
        simpa [writtenParts] using fun term hterm => (ih term hterm (hdeepest term hterm)).single_unary
      rw [spelling, collapsed, intercalate_spellings, collapsedTerms_eq]
      exact .atom (.parens (derives_joined .single_all .any (writtenParts_ne_nil hlength) hparts))
  | not _ ih =>
    cases room with
    | zero => simp [nesting] at hroom
    | succ room => exact .bang (ih (Nat.le_of_succ_le_succ hroom))

/-! ### Printed forms that are nested too deeply -/

theorem conditions_error (hitem : item tokens = .error problem) : conditions item tokens = .error problem := by
  rw [conditions, chain_error hitem]
  rfl

theorem alternatives_error (hitem : conditions item tokens = .error problem) :
    alternatives item tokens = .error problem := by
  rw [alternatives, chain_error hitem]
  rfl

theorem exists_after_first (separator : Token) (first : List Token × Expr)
    (parts : List (List Token × Expr)) (rest : List Token) :
    ∃ after, separated separator (first :: parts) ++ rest = first.1 ++ after := by
  cases parts with
  | nil => exact ⟨rest, by rw [separated_singleton]⟩
  | cons next parts => exact ⟨_, by rw [separated_cons_cons, List.append_assoc]⟩

/-- Where some part fails and every other part is read or fails as well, the chain fails. -/
theorem chain_separated_error (Ends : List Token → Prop)
    (hitem : ∀ part ∈ parts, (∀ rest, Ends rest → item (part.1 ++ rest) = .ok (part.2, rest)) ∨
      ∀ rest, item (part.1 ++ rest) = .error problem)
    (hseparator : ∀ rest, Ends (separator :: rest))
    (hfails : ∃ part ∈ parts, ∀ rest, item (part.1 ++ rest) = .error problem)
    (hfuel : parts.length ≤ fuel + 1) (rest : List Token) :
    chain separator item fuel (separated separator parts ++ rest) = .error problem := by
  obtain ⟨bad, hmember, hbad⟩ := hfails
  induction parts generalizing fuel with
  | nil => cases hmember
  | cons first parts ih =>
    obtain ⟨hfirst, hparts⟩ := List.forall_mem_cons.1 hitem
    rcases hfirst with hread | hfirst
    · rcases List.mem_cons.1 hmember with rfl | hmember
      · cases (hread _ (hseparator [])).symm.trans (hbad _)
      · obtain ⟨next, parts, rfl⟩ := List.exists_cons_of_ne_nil (List.ne_nil_of_mem hmember)
        cases fuel with
        | zero => simp at hfuel
        | succ fuel =>
          have hlater := ih hparts (Nat.le_of_succ_le_succ hfuel) hmember
          rw [separated_cons_cons, List.append_assoc, List.cons_append,
            chain_more (hread _ (hseparator _)), hlater]
          rfl
    · obtain ⟨after, htokens⟩ := exists_after_first separator first parts rest
      rw [htokens]
      exact chain_error (hfirst after) fuel

theorem Writable.condition_eq (hwritable : Writable 1 e) (hroom : e.nesting ≤ room) (rest : List Token) :
    condition room (e.spelling ++ rest) = .ok (e.collapsed, rest) :=
  (hwritable.derives hroom).reader_eq (by simp)

/-- Terms that are read when they fit and fail when they do not: one that is too deep ends the chain. -/
theorem chain_terms_tooDeep (Ends : List Token → Prop)
    (hread : ∀ term ∈ terms, term.nesting ≤ room → ∀ rest, Ends rest →
      item (term.spelling ++ rest) = .ok (term.collapsed, rest))
    (hfail : ∀ term ∈ terms, room < term.nesting → ∀ rest, item (term.spelling ++ rest) = .error .tooDeep)
    (hseparator : ∀ rest, Ends (separator :: rest)) (hdeep : room < deepest terms) (rest : List Token) :
    chain separator item (separated separator (writtenParts terms) ++ rest).length
      (separated separator (writtenParts terms) ++ rest) = .error .tooDeep := by
  refine chain_separated_error Ends ?_ hseparator ?_ (length_le_separated _ _ _) rest
  · intro part hpart
    obtain ⟨term, hmember, rfl⟩ := List.mem_map.1 hpart
    rcases Nat.lt_or_ge room term.nesting with hterm | hterm
    · exact .inr (hfail term hmember hterm)
    · exact .inl (hread term hmember hterm)
  · obtain ⟨term, hmember, hterm⟩ := exists_deep hdeep
    exact ⟨_, List.mem_map_of_mem hmember, hfail term hmember hterm⟩

/-- With less room than the tree needs the limit is met, whatever follows: by induction on the tree, the
    first term that is too deep ends the reading. -/
theorem Writable.condition_tooDeep (hwritable : Writable 1 e) (hdeep : room < e.nesting) (rest : List Token) :
    condition room (e.spelling ++ rest) = .error .tooDeep := by
  induction hwritable generalizing room rest with
  | name => exact absurd hdeep (Nat.not_lt_zero room)
  | @all terms _ hterms ih =>
    cases room with
    | zero => rfl
    | succ room =>
      have hconditions : conditions (condition room)
          (separated .plus (writtenParts terms) ++ .closing :: rest) = .error .tooDeep := by
        rw [conditions, chain_terms_tooDeep (fun _ => True)
          (fun term hmember hfits rest _ => (hterms term hmember).condition_eq hfits rest)
          (fun term hmember hterm rest => ih term hmember hterm rest) (fun _ => trivial)
          (Nat.lt_of_succ_lt_succ hdeep)]
        rfl
      rw [spelling, intercalate_spellings, List.append_assoc, List.cons_append, condition,
        List.singleton_append, alternatives_error hconditions]
      rfl
  | @any terms _ hterms ih =>
    cases room with
    | zero => rfl
    | succ room =>
      have hread : ∀ term ∈ terms, term.nesting ≤ room → ∀ rest : List Token, rest.head? ≠ some .plus →
          conditions (condition room) (term.spelling ++ rest) = .ok (term.collapsed, rest) :=
        fun term hmember hfits rest hrest =>
          ((hterms term hmember).derives hfits).single_unary.reader_eq
            (by simpa using hrest)
      have halternatives : alternatives (condition room)
          (separated .pipe (writtenParts terms) ++ .closing :: rest) = .error .tooDeep := by
        rw [alternatives, chain_terms_tooDeep (·.head? ≠ some .plus) hread
          (fun term hmember hterm rest => conditions_error (ih term hmember hterm rest)) (by simp)
          (Nat.lt_of_succ_lt_succ hdeep)]
        rfl
      rw [spelling, intercalate_spellings, List.append_assoc, List.cons_append, condition,
        List.singleton_append, halternatives]
      rfl
  | @not term _ ih =>
    cases room with
    | zero => rfl
    | succ room =>
      rw [spelling, List.cons_append, condition, ih (Nat.lt_of_succ_lt_succ hdeep)]
      rfl

theorem parse_text (hwritable : Writable 1 e) :
    parse e.text = if e.nesting ≤ maxNesting then .ok e.collapsed else .error .tooDeep := by
  have hsplits := hwritable.splits_text
  split
  next hfits =>
    exact parse_eq_ok_iff.2 ⟨_, hsplits, (hwritable.derives hfits).single_unary.single_all⟩
  next hdeep =>
    have hcondition := hwritable.condition_tooDeep (Nat.lt_of_not_le hdeep) []
    rw [List.append_nil] at hcondition
    rw [parse, tokens_eq_ok_iff.2 hsplits]
    simp only [alternatives_error (conditions_error hcondition)]
    rfl

/-! ### Parsed expressions -/

theorem Writable.mono {fewer : Nat} (hwritable : Writable least e) (hfewer : fewer ≤ least) :
    Writable fewer e := by
  induction hwritable with
  | name hname => exact .name hname
  | all hlength _ ih => exact .all (Nat.le_trans hfewer hlength) ih
  | any hlength _ ih => exact .any (Nat.le_trans hfewer hlength) ih
  | not _ ih => exact .not ih

theorem mem_separated {part : List Token × Expr} {token : Token} (hmember : part ∈ parts)
    (htoken : token ∈ part.1) : token ∈ separated separator parts := by
  induction parts with
  | nil => cases hmember
  | cons first parts ih =>
    cases parts with
    | nil =>
      cases List.mem_singleton.1 hmember
      rwa [separated_singleton]
    | cons next parts =>
      rw [separated_cons_cons, List.mem_append, List.mem_cons]
      rcases List.mem_cons.1 hmember with rfl | hmember
      · exact .inl htoken
      · exact .inr (.inr (ih hmember))

/-- The tree of a derivation has the names of its tokens, and no list of one term. -/
theorem Derives.writable {symbol : Symbol} (hderives : Derives room symbol tokens e)
    (hnames : ∀ n, .name n ∈ tokens → IsName n) : Writable 2 e := by
  have hpart : ∀ {separator : Token} {parts : List (List Token × Expr)},
      (∀ n, .name n ∈ separated separator parts → IsName n) →
      (∀ part ∈ parts, (∀ n, .name n ∈ part.1 → IsName n) → Writable 2 part.2) →
      ∀ term ∈ parts.map Prod.snd, Writable 2 term := by
    intro separator parts hnames hparts term hterm
    obtain ⟨part, hmember, rfl⟩ := List.mem_map.1 hterm
    exact hparts part hmember fun n hn => hnames n (mem_separated hmember hn)
  induction hderives with
  | name room n => exact .name (hnames n List.mem_cons_self)
  | parens _ ih => exact ih fun n hmember => hnames n (by simp [hmember])
  | atom _ ih => exact ih hnames
  | bang _ ih => exact .not (ih fun n hmember => hnames n (List.mem_cons_of_mem _ hmember))
  | single_unary _ ih | single_all _ ih => exact ih hnames
  | all hseveral _ ih => exact .all (by rwa [List.length_map]) (hpart hnames ih)
  | any hseveral _ ih => exact .any (by rwa [List.length_map]) (hpart hnames ih)

theorem writable_of_parse {source : String} (hparse : parse source = .ok e) : Writable 2 e := by
  obtain ⟨ts, hsplits, hderives⟩ := parse_eq_ok_iff.1 hparse
  exact hderives.writable fun n hmember => hsplits.isName hmember

/-- A parsed expression is parsed back from its printed form up to the nesting limit. Printing can add to
    the nesting, as it puts every list into parentheses; beyond the limit its form is refused. -/
theorem parse_text_of_parse {source : String} (hparse : parse source = .ok e) :
    parse e.text = if e.nesting ≤ maxNesting then .ok e else .error .tooDeep := by
  have hwritable := writable_of_parse hparse
  rw [parse_text (hwritable.mono (Nat.le_succ 1)), hwritable.collapsed_eq]

def mixed : Expr := .any [.all [.name "A", .not (.name "B")], .name "C"]

theorem parse_text_of_parse_mixed : parse "A + !B | C" = .ok mixed ∧ parse mixed.text = .ok mixed := by
  have hparse : parse "A + !B | C" = .ok mixed := by decide +kernel
  exact ⟨hparse, (parse_text_of_parse hparse).trans (if_pos (by decide))⟩

def negated : (count : Nat) → Expr → Expr
  | 0, e => e
  | count + 1, e => .not (negated count e)

/-- As many negations as may be nested, on one term of a list that stands without parentheses. -/
def crowded : String := String.ofList (List.replicate maxNesting '!' ++ "A + B".toList)

def crowdedTree : Expr := .all [negated maxNesting (.name "A"), .name "B"]

theorem printed_form_refused :
    parse crowded = .ok crowdedTree ∧ parse crowdedTree.text ≠ .ok crowdedTree := by
  have hparse : parse crowded = .ok crowdedTree := by decide +kernel
  have hwritable := (writable_of_parse hparse).mono (Nat.le_succ 1)
  refine ⟨hparse, ?_⟩
  rw [parse_text hwritable, if_neg (by decide +kernel)]
  exact nofun

end CapabilityArena.Expr
