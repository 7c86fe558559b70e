import CapabilityArena.Expr.Token
import CapabilityArena.Proofs.Reading

/-!
The tokens of a text. A text has at most one list of tokens: blanks separate and are dropped, an operator
is a token by itself, and a name takes every name character up to the next character that is none.
-/

namespace CapabilityArena.Expr

variable {c : Char} {cs run : List Char} {t : Token} {ts : List Token}

/-- A text of name characters, and at least one of them. -/
def IsName (n : String) : Prop := n.toList ≠ [] ∧ ∀ c ∈ n.toList, isNameChar c = true

/-- The characters that are tokens by themselves. -/
inductive IsOperator : Char → Token → Prop where
  | plus : IsOperator '+' .plus
  | pipe : IsOperator '|' .pipe
  | bang : IsOperator '!' .bang
  | opening : IsOperator '(' .opening
  | closing : IsOperator ')' .closing

/-- The text is the tokens in their order with nothing but blanks between them. A name is a run of name
    characters that the text does not continue. -/
inductive Splits : List Char → List Token → Prop where
  | nil : Splits [] []
  | blank {c : Char} {cs : List Char} {ts : List Token} (hblank : Text.isBlank c = true)
    (hrest : Splits cs ts) : Splits (c :: cs) ts
  | operator {c : Char} {t : Token} {cs : List Char} {ts : List Token} (hoperator : IsOperator c t)
    (hrest : Splits cs ts) : Splits (c :: cs) (t :: ts)
  | name {n : String} {cs : List Char} {ts : List Token} (hname : IsName n)
    (hends : ∀ c ∈ cs.head?, isNameChar c = false) (hrest : Splits cs ts) :
    Splits (n.toList ++ cs) (.name n :: ts)

theorem isName_ofList (hsome : run ≠ []) (hrun : ∀ c ∈ run, isNameChar c = true) :
    IsName (String.ofList run) := by
  rw [IsName, String.toList_ofList]
  exact ⟨hsome, hrun⟩

/-- No blank is a letter, a number or one of the marks; the table of blanks is short enough to look at
    each of them. -/
theorem isNameChar_of_isBlank (hblank : Text.isBlank c = true) : isNameChar c = false := by
  have hnone : ∀ range ∈ Text.blankRanges, ∀ n ∈ List.range' range.1 (range.2 + 1 - range.1),
      isNameChar (Char.ofNat n) = false := by decide +kernel
  obtain ⟨range, hrange, hlow, hhigh⟩ := Text.inRanges_iff.1 hblank
  have hmember : c.toNat ∈ List.range' range.1 (range.2 + 1 - range.1) := by
    rw [List.mem_range'_1]
    omega
  rw [← Char.ofNat_toNat c]
  exact hnone range hrange c.toNat hmember

theorem operator?_eq_some_iff : operator? c = some t ↔ IsOperator c t := by
  constructor
  · intro hoperator
    unfold operator? at hoperator
    repeat' split at hoperator
    all_goals cases hoperator
    all_goals subst c
    exacts [.plus, .pipe, .bang, .opening, .closing]
  · rintro (_ | _ | _ | _ | _) <;> rfl

/-- An operator is no blank and no part of a name. -/
theorem not_blank_or_name_of_operator (hoperator : IsOperator c t) :
    Text.isBlank c = false ∧ isNameChar c = false ∧ ∀ n, t ≠ .name n := by
  cases hoperator <;> exact ⟨by decide, by decide, nofun⟩

theorem prependNameChar_alone (hends : ∀ next ∈ cs.head?, isNameChar next = false) (ts : List Token) :
    prependNameChar c cs ts = .name (String.ofList [c]) :: ts := by
  unfold prependNameChar
  split
  next next n rest hhead =>
    have hnext := hends next hhead
    rw [if_neg (by simp [hnext])]
  next => rfl

theorem prependNameChar_name {next : Char} (hhead : cs.head? = some next) (hname : isNameChar next = true)
    (n : String) (ts : List Token) :
    prependNameChar c cs (.name n :: ts) = .name (String.ofList (c :: n.toList)) :: ts := by
  simp [prependNameChar, hhead, hname]

/-- The first character of a name, or of a longer one, is a name character. -/
theorem IsName.head? {n : String} (hname : IsName n) (cs : List Char) :
    ∃ d, (n.toList ++ cs).head? = some d ∧ isNameChar d = true := by
  obtain ⟨d, ds, hd⟩ := List.exists_cons_of_ne_nil hname.1
  exact ⟨d, by rw [hd]; rfl, hname.2 d (hd ▸ List.mem_cons_self)⟩

/-- A name character before a text lengthens the name that the text begins with, or is a new name. -/
theorem Splits.prepend (hname : isNameChar c = true) (hrest : Splits cs ts) :
    Splits (c :: cs) (prependNameChar c cs ts) := by
  by_cases hends : ∀ next ∈ cs.head?, isNameChar next = false
  · have hc := isName_ofList (List.cons_ne_nil c []) (by simpa using hname)
    rw [prependNameChar_alone hends]
    simpa using Splits.name hc hends hrest
  · cases hrest with
    | nil => exact absurd (by simp) hends
    | blank hblank _ => exact absurd (by simpa using isNameChar_of_isBlank hblank) hends
    | operator hoperator _ =>
      exact absurd (by simpa using (not_blank_or_name_of_operator hoperator).2.1) hends
    | name hn hstops hrest =>
      obtain ⟨d, hhead, hd⟩ := hn.head? _
      have hlonger := isName_ofList (List.cons_ne_nil c _) (List.forall_mem_cons.2 ⟨hname, hn.2⟩)
      rw [prependNameChar_name hhead hd]
      simpa using Splits.name hlonger hstops hrest

theorem tokens_nameChar (hname : isNameChar c = true) :
    tokens (c :: cs) = (tokens cs).map (prependNameChar c cs) := by
  have hblank : Text.isBlank c = false := by
    cases hblank : Text.isBlank c with
    | false => rfl
    | true => simp [isNameChar_of_isBlank hblank] at hname
  have hoperator : operator? c = none := by
    cases hoperator : operator? c with
    | none => rfl
    | some t => simp [(not_blank_or_name_of_operator (operator?_eq_some_iff.1 hoperator)).2.1] at hname
  simp [tokens, hblank, hoperator, hname]

/-- A whole run of name characters becomes one token. -/
theorem tokens_run (htokens : tokens cs = .ok ts) (hends : ∀ c ∈ cs.head?, isNameChar c = false)
    (hsome : run ≠ []) (hrun : ∀ c ∈ run, isNameChar c = true) :
    tokens (run ++ cs) = .ok (.name (String.ofList run) :: ts) := by
  induction run with
  | nil => exact absurd rfl hsome
  | cons c run ih =>
    obtain ⟨hc, hrun⟩ := List.forall_mem_cons.1 hrun
    rw [List.cons_append, tokens_nameChar hc]
    cases run with
    | nil => rw [List.nil_append, htokens, Except.map, prependNameChar_alone hends]
    | cons d run =>
      have hhead : (d :: run ++ cs).head? = some d := rfl
      rw [ih (List.cons_ne_nil d run) hrun, Except.map,
        prependNameChar_name hhead (hrun d List.mem_cons_self), String.toList_ofList]

/-- The tokens of a text are the one list that it splits into. -/
theorem tokens_eq_ok_iff : tokens cs = .ok ts ↔ Splits cs ts := by
  constructor
  · intro htokens
    induction cs generalizing ts with
    | nil =>
      cases htokens
      exact .nil
    | cons c cs ih =>
      rw [tokens] at htokens
      split at htokens
      next hblank => exact .blank hblank (ih htokens)
      split at htokens
      next hoperator =>
        obtain ⟨us, hrest, rfl⟩ := read_map_eq_ok.1 htokens
        exact .operator (operator?_eq_some_iff.1 hoperator) (ih hrest)
      split at htokens
      next hname =>
        obtain ⟨us, hrest, rfl⟩ := read_map_eq_ok.1 htokens
        exact (ih hrest).prepend hname
      next => cases htokens
  · intro hsplits
    induction hsplits with
    | nil => rfl
    | blank hblank _ ih => rw [tokens, if_pos hblank, ih]
    | operator hoperator _ ih =>
      have hblank := (not_blank_or_name_of_operator hoperator).1
      simp [tokens, hblank, operator?_eq_some_iff.2 hoperator, ih, Except.map]
    | name hname hends _ ih => simpa using tokens_run ih hends hname.1 hname.2

/-- Every name among the tokens is one. -/
theorem Splits.isName {n : String} (hsplits : Splits cs ts) (hmember : .name n ∈ ts) : IsName n := by
  induction hsplits with
  | nil => cases hmember
  | blank _ _ ih => exact ih hmember
  | operator hoperator _ ih =>
    rcases List.mem_cons.1 hmember with heq | hmember
    · exact absurd heq.symm ((not_blank_or_name_of_operator hoperator).2.2 n)
    · exact ih hmember
  | name hname _ _ ih =>
    rcases List.mem_cons.1 hmember with heq | hmember
    · cases heq
      exact hname
    · exact ih hmember

end CapabilityArena.Expr
