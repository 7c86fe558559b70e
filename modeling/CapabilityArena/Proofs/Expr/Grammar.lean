import CapabilityArena.Expr.Grammar
import CapabilityArena.Proofs.Expr.Lexing
import CapabilityArena.Realm.Capabilities

/-!
The grammar of expressions and its parser. A derivation is kept apart from the way it is found: parsing
succeeds with a tree exactly when the tokens are derived with that tree.
-/

namespace CapabilityArena.Expr

variable {room fuel : Nat} {e term : Expr} {terms : List Expr} {tokens ts rest : List Token}
  {problem : Problem} {separator : Token} {parts : List (List Token × Expr)}

abbrev Reader : Type := List Token → Except Problem (Expr × List Token)

variable {item : Reader}

inductive Symbol where
  | any
  | all
  | unary
  | atom

/-- The tokens of all the parts, with the separator between one and the next. -/
def separated (separator : Token) (parts : List (List Token × Expr)) : List Token :=
  [separator].intercalate (parts.map Prod.fst)

/-- What the grammar derives from a symbol, with the tree of the derivation, where no token lies under more
    than `room` open `!` and `(`.

    - `any := all ('|' all)*` and `all := unary ('+' unary)*`, where several terms are the terms of one tree and a
      single term is its own tree;
    - `unary := '!' unary | atom` and `atom := NAME | '(' any ')'`. -/
inductive Derives : (room : Nat) → Symbol → List Token → Expr → Prop where
  | name (room : Nat) (n : String) : Derives room .atom [.name n] (.name n)
  | parens {room : Nat} {ts : List Token} {e : Expr} (hinner : Derives room .any ts e) :
    Derives (room + 1) .atom (.opening :: ts ++ [.closing]) e
  | atom {room : Nat} {ts : List Token} {e : Expr} (hatom : Derives room .atom ts e) :
    Derives room .unary ts e
  | bang {room : Nat} {ts : List Token} {e : Expr} (hunary : Derives room .unary ts e) :
    Derives (room + 1) .unary (.bang :: ts) (.not e)
  | single_unary {room : Nat} {ts : List Token} {e : Expr} (hunary : Derives room .unary ts e) :
    Derives room .all ts e
  | all {room : Nat} {parts : List (List Token × Expr)} (hseveral : 2 ≤ parts.length)
    (hparts : ∀ part ∈ parts, Derives room .unary part.1 part.2) :
    Derives room .all (separated .plus parts) (.all (parts.map Prod.snd))
  | single_all {room : Nat} {ts : List Token} {e : Expr} (hall : Derives room .all ts e) :
    Derives room .any ts e
  | any {room : Nat} {parts : List (List Token × Expr)} (hseveral : 2 ≤ parts.length)
    (hparts : ∀ part ∈ parts, Derives room .all part.1 part.2) :
    Derives room .any (separated .pipe parts) (.any (parts.map Prod.snd))

theorem separated_singleton (separator : Token) (part : List Token × Expr) :
    separated separator [part] = part.1 := by
  simp [separated]

theorem separated_cons_cons (separator : Token) (first next : List Token × Expr)
    (parts : List (List Token × Expr)) :
    separated separator (first :: next :: parts) =
      first.1 ++ separator :: separated separator (next :: parts) := by
  simp [separated, List.intercalate_cons_cons]

theorem joined_eq (wrap : List Expr → Expr) (hseveral : 2 ≤ terms.length) : joined wrap terms = wrap terms := by
  unfold joined
  split
  next => simp at hseveral
  next => rfl

/-- Where single terms and several terms are derived, so is what they are joined to. -/
theorem derives_joined {inner symbol : Symbol} {wrap : List Expr → Expr}
    (hsingle : ∀ {ts e}, Derives room inner ts e → Derives room symbol ts e)
    (hwrap : ∀ {parts}, 2 ≤ parts.length → (∀ part ∈ parts, Derives room inner part.1 part.2) →
      Derives room symbol (separated separator parts) (wrap (parts.map Prod.snd)))
    (hsome : parts ≠ []) (hparts : ∀ part ∈ parts, Derives room inner part.1 part.2) :
    Derives room symbol (separated separator parts) (joined wrap (parts.map Prod.snd)) := by
  obtain ⟨first, parts, rfl⟩ := List.exists_cons_of_ne_nil hsome
  cases parts with
  | nil =>
    rw [separated_singleton]
    exact hsingle (hparts first List.mem_cons_self)
  | cons next parts =>
    have hseveral : 2 ≤ (first :: next :: parts).length := Nat.le_add_left 2 _
    rw [joined_eq wrap (by rwa [List.length_map])]
    exact hwrap hseveral hparts

/-- There is a separator between any two parts. -/
theorem length_le_separated (separator : Token) (parts : List (List Token × Expr)) (rest : List Token) :
    parts.length ≤ (separated separator parts ++ rest).length + 1 := by
  rw [List.length_append]
  induction parts with
  | nil => exact Nat.zero_le _
  | cons first parts ih =>
    cases parts with
    | nil => exact Nat.le_add_left _ _
    | cons next parts =>
      simp only [separated_cons_cons, List.length_append, List.length_cons] at ih ⊢
      omega

/-! ### One item after the other -/

theorem chain_last (hitem : item tokens = .ok (term, rest)) (hrest : rest.head? ≠ some separator)
    (fuel : Nat) : chain separator item fuel tokens = .ok ([term], rest) := by
  cases fuel with
  | zero => rw [chain, hitem, Except.map]
  | succ fuel =>
    rw [chain, hitem]
    cases rest with
    | nil => rfl
    | cons token after =>
      have hother : token ≠ separator := fun heq => hrest (congrArg some heq)
      exact if_neg hother

theorem chain_more (hitem : item tokens = .ok (term, separator :: rest)) (fuel : Nat) :
    chain separator item (fuel + 1) tokens =
      (chain separator item fuel rest).map fun (terms, rest) => (term :: terms, rest) := by
  rw [chain, hitem]
  cases hchain : chain separator item fuel rest <;> simp [bind, Except.bind, Except.map, hchain]

theorem chain_error (hitem : item tokens = .error problem) (fuel : Nat) :
    chain separator item fuel tokens = .error problem := by
  cases fuel <;> rw [chain, hitem] <;> rfl

/-- Every part is read up to the separator after it, and the last one up to the rest. -/
theorem chain_separated (Ends : List Token → Prop) (hsome : parts ≠ [])
    (hitem : ∀ part ∈ parts, ∀ rest, Ends rest → item (part.1 ++ rest) = .ok (part.2, rest))
    (hseparator : ∀ rest, Ends (separator :: rest)) (hrest : Ends rest)
    (hhead : rest.head? ≠ some separator) (hfuel : parts.length ≤ fuel + 1) :
    chain separator item fuel (separated separator parts ++ rest) = .ok (parts.map Prod.snd, rest) := by
  induction parts generalizing fuel with
  | nil => exact absurd rfl hsome
  | cons first parts ih =>
    obtain ⟨hfirst, hparts⟩ := List.forall_mem_cons.1 hitem
    cases parts with
    | nil =>
      rw [separated_singleton]
      exact chain_last (hfirst rest hrest) hhead fuel
    | cons next parts =>
      cases fuel with
      | zero => simp at hfuel
      | succ fuel =>
        have hlater := ih (List.cons_ne_nil next parts) hparts (Nat.le_of_succ_le_succ hfuel)
        rw [separated_cons_cons, List.append_assoc, List.cons_append,
          chain_more (hfirst _ (hseparator _)), hlater]
        rfl

/-- A chain ends after its first item, or goes on after a separator. -/
theorem chain_eq_ok (hchain : chain separator item fuel tokens = .ok (terms, rest)) :
    (∃ term, item tokens = .ok (term, rest) ∧ terms = [term]) ∨
    (∃ less term after later, item tokens = .ok (term, separator :: after) ∧ fuel = less + 1 ∧
      chain separator item less after = .ok (later, rest) ∧ terms = term :: later) := by
  cases fuel with
  | zero =>
    obtain ⟨⟨term, rest⟩, hitem, heq⟩ := read_map_eq_ok.1 hchain
    cases heq
    exact .inl ⟨term, hitem, rfl⟩
  | succ fuel =>
    obtain ⟨⟨term, between⟩, hitem, hnext⟩ := read_bind_eq_ok.1 hchain
    cases between with
    | nil =>
      cases hnext
      exact .inl ⟨term, hitem, rfl⟩
    | cons token after =>
      simp only at hnext
      split at hnext
      next heq =>
        obtain ⟨⟨later, rest⟩, hlater, hterms⟩ := read_bind_eq_ok.1 hnext
        cases hterms
        exact .inr ⟨fuel, term, after, later, heq ▸ hitem, rfl, hlater, rfl⟩
      next =>
        cases hnext
        exact .inl ⟨term, hitem, rfl⟩

/-- What the reader accepts is derived from the symbol. -/
def Reads (room : Nat) (symbol : Symbol) (item : Reader) : Prop :=
  ∀ tokens e rest, item tokens = .ok (e, rest) → ∃ ts, tokens = ts ++ rest ∧ Derives room symbol ts e

theorem Reads.chain {symbol : Symbol} (hreads : Reads room symbol item)
    (hchain : chain separator item fuel tokens = .ok (terms, rest)) :
    ∃ parts, parts ≠ [] ∧ (∀ part ∈ parts, Derives room symbol part.1 part.2) ∧
      tokens = separated separator parts ++ rest ∧ terms = parts.map Prod.snd := by
  induction fuel using Nat.strongRecOn generalizing tokens terms with
  | ind fuel ih =>
    rcases chain_eq_ok hchain with ⟨term, hitem, rfl⟩ | ⟨less, term, after, later, hitem, rfl, hlater, rfl⟩
    · obtain ⟨ts, htokens, hderives⟩ := hreads _ _ _ hitem
      refine ⟨[(ts, term)], List.cons_ne_nil _ _, by simpa using hderives, ?_, rfl⟩
      rw [separated_singleton, htokens]
    · obtain ⟨ts, htokens, hderives⟩ := hreads _ _ _ hitem
      obtain ⟨parts, hsome, hparts, hafter, hterms⟩ := ih less (Nat.lt_succ_self less) hlater
      obtain ⟨next, parts, rfl⟩ := List.exists_cons_of_ne_nil hsome
      refine ⟨(ts, term) :: next :: parts, List.cons_ne_nil _ _,
        List.forall_mem_cons.2 ⟨hderives, hparts⟩, ?_, by rw [hterms]; rfl⟩
      rw [separated_cons_cons, htokens, hafter, List.append_assoc, List.cons_append]

theorem Reads.conditions (hreads : Reads room .unary item) : Reads room .all (conditions item) := by
  intro tokens e rest hread
  obtain ⟨⟨terms, rest⟩, hchain, heq⟩ := read_map_eq_ok.1 hread
  obtain ⟨parts, hsome, hparts, htokens, rfl⟩ := hreads.chain hchain
  cases heq
  exact ⟨_, htokens, derives_joined .single_unary .all hsome hparts⟩

theorem Reads.alternatives (hreads : Reads room .unary item) : Reads room .any (alternatives item) := by
  intro tokens e rest hread
  obtain ⟨⟨terms, rest⟩, hchain, heq⟩ := read_map_eq_ok.1 hread
  obtain ⟨parts, hsome, hparts, htokens, rfl⟩ := hreads.conditions.chain hchain
  cases heq
  exact ⟨_, htokens, derives_joined .single_all .any hsome hparts⟩

/-- What the parser takes for a condition is one: soundness, by induction on the room that is left. -/
theorem reads_condition (room : Nat) : Reads room .unary (condition room) := by
  induction room with
  | zero =>
    intro tokens e rest hread
    cases tokens with
    | nil => cases hread
    | cons token tokens =>
      cases token <;> cases hread
      exact ⟨[_], rfl, .atom (.name 0 _)⟩
  | succ room ih =>
    intro tokens e rest hread
    cases tokens with
    | nil => cases hread
    | cons token tokens =>
      cases token with
      | name n =>
        cases hread
        exact ⟨[.name n], rfl, .atom (.name (room + 1) n)⟩
      | bang =>
        obtain ⟨⟨term, rest⟩, hterm, heq⟩ := read_map_eq_ok.1 hread
        obtain ⟨ts, rfl, hderives⟩ := ih _ _ _ hterm
        cases heq
        exact ⟨.bang :: ts, rfl, .bang hderives⟩
      | opening =>
        obtain ⟨⟨inner, after⟩, hinner, hclose⟩ := read_bind_eq_ok.1 hread
        obtain ⟨ts, rfl, hderives⟩ := ih.alternatives _ _ _ hinner
        simp only at hclose
        split at hclose
        next =>
          cases hclose
          exact ⟨.opening :: ts ++ [.closing], by simp, .atom (.parens hderives)⟩
        next => cases hclose
      | plus => cases hread
      | pipe => cases hread
      | closing => cases hread

/-! ### Every derivation is found -/

/-- The part of the parser that reads what comes from a symbol. -/
def reader (room : Nat) : Symbol → Reader
  | .any => alternatives (condition room)
  | .all => conditions (condition room)
  | .unary | .atom => condition room

/-- The tokens by which a text from the symbol could be longer. -/
@[simp] def Symbol.continuing : Symbol → List Token
  | .any => [.plus, .pipe]
  | .all => [.plus]
  | .unary | .atom => []

/-- Completeness, by induction on the derivation: where the text is not continued, its tree is found. -/
theorem Derives.reader_eq {symbol : Symbol} (hderives : Derives room symbol ts e)
    (hends : ∀ token ∈ symbol.continuing, rest.head? ≠ some token) :
    reader room symbol (ts ++ rest) = .ok (e, rest) := by
  induction hderives generalizing rest with
  | name room n => cases room <;> rfl
  | @parens room ts e _ ih =>
    have hinner : alternatives (condition room) (ts ++ .closing :: rest) = .ok (e, .closing :: rest) :=
      ih (by simp)
    rw [reader, List.append_assoc, List.cons_append, condition, List.singleton_append, hinner]
    rfl
  | atom _ ih => exact ih (by simp)
  | @bang room ts e _ ih =>
    have hterm : condition room (ts ++ rest) = .ok (e, rest) := ih (by simp)
    rw [reader, List.cons_append, condition, hterm]
    rfl
  | @single_unary room ts e _ ih =>
    have hitem : condition room (ts ++ rest) = .ok (e, rest) := ih (by simp)
    rw [reader, conditions, chain_last hitem (hends .plus (by simp))]
    rfl
  | @all room parts hseveral _ ih =>
    have hsome : parts ≠ [] := List.ne_nil_of_length_pos (Nat.zero_lt_of_lt hseveral)
    have hitem : ∀ part ∈ parts, ∀ rest, True → condition room (part.1 ++ rest) = .ok (part.2, rest) :=
      fun part hpart rest _ => ih part hpart (by simp)
    have hchain := chain_separated (fun _ => True) hsome hitem (fun _ => trivial) trivial
      (hends .plus (by simp)) (length_le_separated .plus parts rest)
    have htree := joined_eq .all (show 2 ≤ (parts.map Prod.snd).length by rwa [List.length_map])
    rw [reader, conditions, hchain, ← htree]
    rfl
  | @single_all room ts e _ ih =>
    have hitem : conditions (condition room) (ts ++ rest) = .ok (e, rest) :=
      ih (by simpa using hends .plus (by simp))
    rw [reader, alternatives, chain_last hitem (hends .pipe (by simp))]
    rfl
  | @any room parts hseveral _ ih =>
    have hsome : parts ≠ [] := List.ne_nil_of_length_pos (Nat.zero_lt_of_lt hseveral)
    have hitem : ∀ part ∈ parts, ∀ rest : List Token, rest.head? ≠ some .plus →
        conditions (condition room) (part.1 ++ rest) = .ok (part.2, rest) :=
      fun part hpart rest hrest => ih part hpart (by simpa using hrest)
    have hchain := chain_separated (·.head? ≠ some .plus) hsome hitem (by simp)
      (hends .plus (by simp)) (hends .pipe (by simp))
      (length_le_separated .pipe parts rest)
    have htree := joined_eq .any (show 2 ≤ (parts.map Prod.snd).length by rwa [List.length_map])
    rw [reader, alternatives, hchain, ← htree]
    rfl

/-- The grammar is unambiguous: tokens have one tree, since the parser finds every tree that they have. -/
theorem Derives.unique {symbol : Symbol} {e' : Expr} (hderives : Derives room symbol ts e)
    (hother : Derives room symbol ts e') : e = e' := by
  have hfirst : reader room symbol (ts ++ []) = .ok (e, []) := hderives.reader_eq (by simp)
  cases hfirst.symm.trans (hother.reader_eq (by simp))
  rfl

theorem parse_eq_ok_iff {source : String} :
    parse source = .ok e ↔ ∃ ts, Splits source.toList ts ∧ Derives maxNesting .any ts e := by
  unfold parse
  constructor
  · intro hparse
    split at hparse
    next => cases hparse
    next ts htokens =>
      obtain ⟨⟨tree, rest⟩, hread, hend⟩ := read_bind_eq_ok.1 hparse
      obtain ⟨us, rfl, hderives⟩ := (reads_condition maxNesting).alternatives _ _ _ hread
      cases rest with
      | nil =>
        cases hend
        exact ⟨us, by simpa using tokens_eq_ok_iff.1 htokens, hderives⟩
      | cons => cases hend
  · rintro ⟨ts, hsplits, hderives⟩
    have hread : alternatives (condition maxNesting) (ts ++ []) = .ok (e, []) :=
      hderives.reader_eq (by simp)
    rw [List.append_nil] at hread
    rw [tokens_eq_ok_iff.2 hsplits]
    simp only [hread]
    rfl

/-- The tree that a text is parsed to is the tree of its derivation, and a text without one is refused. -/
theorem parse_recognizes_grammar (source : String) :
    (∀ e, parse source = .ok e ↔ ∃ ts, Splits source.toList ts ∧ Derives maxNesting .any ts e) ∧
    ((∃ e ts, Splits source.toList ts ∧ Derives maxNesting .any ts e) ∨
      ∃ problem, parse source = .error problem ∧ ∀ (r : Realm) (address : Address),
        r.has address source = .error (.invalidExpression problem)) := by
  refine ⟨fun e => parse_eq_ok_iff, ?_⟩
  cases hparse : parse source with
  | ok e =>
    obtain ⟨ts, hsplits, hderives⟩ := parse_eq_ok_iff.1 hparse
    exact .inl ⟨e, ts, hsplits, hderives⟩
  | error problem => exact .inr ⟨problem, rfl, fun r address => by rw [Realm.has, hparse]⟩

end CapabilityArena.Expr
