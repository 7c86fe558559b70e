import CapabilityArena.Proofs.Json.RoundTrip

/-!
How deep a document nests. In a text this is the largest number of brackets and braces that are open at once,
leaving out what stands between quotation marks; in a tree it is the largest number of arrays and objects that
lie inside one another. The text of a document nests as deep as the document.
-/

namespace CapabilityArena.Json

mutual

/-- Arrays and objects inside one another, this document included. -/
def nesting : Json → Nat
  | .arr items => itemsNesting items + 1
  | .obj members => membersNesting members + 1
  | _ => 0

def itemsNesting : List Json → Nat
  | [] => 0
  | item :: items => max (nesting item) (itemsNesting items)

def membersNesting : List (String × Json) → Nat
  | [] => 0
  | (_, value) :: members => max (nesting value) (membersNesting members)

end

/-- Where a character of a text stands. -/
inductive Place where
  | outside
  | quoted
  /-- Behind a backslash between quotation marks. -/
  | escaped

/-- The largest number of brackets and braces that are open at once from here on, where `opened` are open here. -/
def nestingFrom : Place → (opened : Nat) → List Char → Nat
  | _, opened, [] => opened
  | .escaped, opened, _ :: rest => nestingFrom .quoted opened rest
  | .quoted, opened, c :: rest =>
    if c = '\\' then nestingFrom .escaped opened rest
    else if c = '\x22' then nestingFrom .outside opened rest
    else nestingFrom .quoted opened rest
  | .outside, opened, c :: rest =>
    if c = '\x22' then nestingFrom .quoted opened rest
    else if c = '[' ∨ c = '\x7b' then nestingFrom .outside (opened + 1) rest
    else if c = ']' ∨ c = '\x7d' then max opened (nestingFrom .outside (opened - 1) rest)
    else nestingFrom .outside opened rest

def textNesting (text : String) : Nat := nestingFrom .outside 0 text.toList

/-- Neither a quotation mark nor a bracket nor a brace. -/
def IsQuiet (c : Char) : Prop :=
  c ≠ '\x22' ∧ c ≠ '[' ∧ c ≠ '\x7b' ∧ c ≠ ']' ∧ c ≠ '\x7d'

instance (c : Char) : Decidable (IsQuiet c) :=
  inferInstanceAs (Decidable (c ≠ '\x22' ∧ c ≠ '[' ∧ c ≠ '\x7b' ∧ c ≠ ']' ∧ c ≠ '\x7d'))

/-- A text that closes all it opens, up to so many at once. -/
def Nests (cs : List Char) (depth : Nat) : Prop :=
  ∀ opened rest, nestingFrom .outside opened (cs ++ rest) =
    max (opened + depth) (nestingFrom .outside opened rest)

/-- A text that closes one more than it opens. -/
def Closes (cs : List Char) (depth : Nat) : Prop :=
  ∀ opened rest, nestingFrom .outside (opened + 1) (cs ++ rest) =
    max (opened + 1 + depth) (nestingFrom .outside opened rest)

variable {c : Char} {cs ds rest : List Char} {m n opened : Nat} {j : Json}

theorem le_nestingFrom (place : Place) (opened : Nat) (cs : List Char) :
    opened ≤ nestingFrom place opened cs := by
  induction cs generalizing place opened with
  | nil => rw [nestingFrom]
  | cons c cs ih =>
    have hinside := ih .outside (opened + 1)
    cases place <;> simp only [nestingFrom]
    case escaped => exact ih .quoted opened
    case quoted =>
      split
      · exact ih .escaped opened
      · split <;> exact ih _ opened
    case outside =>
      split
      · exact ih .quoted opened
      · split
        · omega
        · split
          · omega
          · exact ih .outside opened

theorem nestingFrom_quiet (hquiet : IsQuiet c) :
    nestingFrom .outside opened (c :: rest) = nestingFrom .outside opened rest := by
  obtain ⟨hquote, hbracket, hbrace, hclosing, hlast⟩ := hquiet
  simp [nestingFrom, hquote, hbracket, hbrace, hclosing, hlast]

theorem nests_of_quiet (hquiet : ∀ c ∈ cs, IsQuiet c) : Nests cs 0 := by
  intro opened rest
  induction cs with
  | nil => exact (Nat.max_eq_right (le_nestingFrom .outside opened rest)).symm
  | cons c cs ih =>
    obtain ⟨hc, hcs⟩ := List.forall_mem_cons.1 hquiet
    rw [List.cons_append, nestingFrom_quiet hc]
    exact ih hcs

theorem nests_of_all_quiet (hquiet : (cs.all fun c => decide (IsQuiet c)) = true) : Nests cs 0 :=
  nests_of_quiet fun c hc => of_decide_eq_true (List.all_eq_true.1 hquiet c hc)

theorem Nests.closes (hcs : Nests cs m) (hds : Closes ds n) : Closes (cs ++ ds) (max m n) := by
  intro opened rest
  rw [List.append_assoc, hcs, hds]
  omega

theorem closes_of_closing (hc : c = ']' ∨ c = '\x7d') : Closes [c] 0 := by
  intro opened rest
  rcases hc with rfl | rfl <;> simp [nestingFrom]

theorem Closes.nests (hc : c = '[' ∨ c = '\x7b') (hcs : Closes cs m) : Nests (c :: cs) (m + 1) := by
  intro opened rest
  have hinside := hcs opened rest
  have hopen : nestingFrom .outside opened (c :: (cs ++ rest)) =
      nestingFrom .outside (opened + 1) (cs ++ rest) := by
    rcases hc with rfl | rfl <;> simp [nestingFrom]
  rw [List.cons_append, hopen, hinside]
  omega

theorem Closes.quiet (hquiet : IsQuiet c) (hcs : Closes cs m) : Closes (c :: cs) m := by
  intro opened rest
  rw [List.cons_append, nestingFrom_quiet hquiet]
  exact hcs opened rest

theorem ne_of_mem_padded {width n : Nat} (hc : c ∈ Text.Hex.padded width n) : c ≠ '\x22' ∧ c ≠ '\\' := by
  have hdigit : ∀ k < 16, Text.Hex.digit k ≠ '\x22' ∧ Text.Hex.digit k ≠ '\\' := by decide
  induction width generalizing n with
  | zero => cases hc
  | succ width ih =>
    rw [Text.Hex.padded, List.mem_append, List.mem_singleton] at hc
    rcases hc with hc | rfl
    · exact ih hc
    · exact hdigit (n % 16) (Nat.mod_lt n (by decide))

theorem nestingFrom_quoted (hcs : ∀ c ∈ cs, c ≠ '\x22' ∧ c ≠ '\\') :
    nestingFrom .quoted opened (cs ++ rest) = nestingFrom .quoted opened rest := by
  induction cs with
  | nil => rfl
  | cons c cs ih =>
    obtain ⟨⟨hquote, hslash⟩, hcs⟩ := List.forall_mem_cons.1 hcs
    rw [List.cons_append, nestingFrom, if_neg hslash, if_neg hquote, ih hcs]

/-- A character in its escaped form does not end the string. -/
theorem nestingFrom_escapedChar (c : Char) (opened : Nat) (rest : List Char) :
    nestingFrom .quoted opened (escapedChar c ++ rest) = nestingFrom .quoted opened rest := by
  rcases escapedChar_cases c with ⟨_, hquote, hslash, heq⟩ | ⟨e, heq, _⟩ | ⟨_, heq⟩
  · rw [heq]
    exact nestingFrom_quoted (List.forall_mem_singleton.2 ⟨hquote, hslash⟩)
  · rw [heq]
    rfl
  · have hdigits : ∀ d ∈ Text.Hex.padded 4 c.toNat, d ≠ '\x22' ∧ d ≠ '\\' :=
      fun d hd => ne_of_mem_padded hd
    rw [heq]
    change nestingFrom .quoted opened (Text.Hex.padded 4 c.toNat ++ rest) = _
    exact nestingFrom_quoted hdigits

theorem nests_stringText (s : String) : Nests (stringText s) 0 := by
  intro opened rest
  have hinside : ∀ cs : List Char, nestingFrom .quoted opened (cs.flatMap escapedChar ++ '\x22' :: rest) =
      nestingFrom .outside opened rest := by
    intro cs
    induction cs with
    | nil => rfl
    | cons c cs ih => rw [List.flatMap_cons, List.append_assoc, nestingFrom_escapedChar, ih]
  rw [stringText_append, nestingFrom, if_pos rfl, hinside]
  exact (Nat.max_eq_right (le_nestingFrom .outside opened rest)).symm

theorem isQuiet_of_isDigit (hdigit : c.isDigit = true) : IsQuiet c := by
  refine ⟨?_, ?_, ?_, ?_, ?_⟩
  all_goals
    rintro rfl
    cases hdigit

theorem nests_number {n : Decimal.Numeral} (hn : IsNumber n) : Nests n.text 0 := by
  have hwhole : ∀ c ∈ n.whole, c.isDigit = true := by
    rcases hn.whole with hzero | ⟨hdigits, _⟩
    · rw [hzero]
      exact List.forall_mem_singleton.2 rfl
    · exact hdigits.2
  have hexponent : ∀ c ∈ Decimal.exponentText n.exponent, IsQuiet c := by
    rcases hpower : n.exponent with _ | ⟨below, ds⟩
    · exact List.forall_mem_nil _
    · have hdigits := (hn.exponent below ds hpower).2
      have hsign : IsQuiet (if below then '-' else '+') := by
        cases below <;> decide
      refine List.forall_mem_cons.2 ⟨by decide, List.forall_mem_cons.2 ⟨hsign, ?_⟩⟩
      exact fun c hc => isQuiet_of_isDigit (hdigits c hc)
  apply nests_of_quiet
  intro c hc
  simp only [Decimal.Numeral.text, List.mem_append] at hc
  rcases hc with ((hc | hc) | hc) | hc
  · split at hc
    · rw [List.mem_singleton.1 hc]
      decide
    · cases hc
  · exact isQuiet_of_isDigit (hwhole c hc)
  · split at hc
    · cases hc
    · rcases List.mem_cons.1 hc with rfl | hc
      · decide
      · exact isQuiet_of_isDigit (hn.fraction c hc)
  · exact hexponent c hc

theorem closes_compactItems {items : List Json} (hall : ∀ item ∈ items, Nests item.compactChars item.nesting) :
    Closes (compactItems items) (itemsNesting items) := by
  induction items with
  | nil => exact closes_of_closing (.inl rfl)
  | cons item items ih =>
    obtain ⟨hitem, hitems⟩ := List.forall_mem_cons.1 hall
    exact .quiet (by decide) (hitem.closes (ih hitems))

/-- A name and its value, and the members behind them. -/
theorem closes_member {name : String} {value : Json} (hvalue : Nests value.compactChars value.nesting)
    (hcs : Closes cs m) :
    Closes (stringText name ++ ':' :: value.compactChars ++ cs) (max value.nesting m) := by
  have hmember := (nests_stringText name).closes (Closes.quiet (c := ':') (by decide) (hvalue.closes hcs))
  rw [Nat.zero_max] at hmember
  rw [List.append_assoc]
  exact hmember

theorem closes_compactMembers {members : List (String × Json)}
    (hall : ∀ member ∈ members, Nests member.2.compactChars member.2.nesting) :
    Closes (compactMembers members) (membersNesting members) := by
  induction members with
  | nil => exact closes_of_closing (.inr rfl)
  | cons member members ih =>
    obtain ⟨hmember, hmembers⟩ := List.forall_mem_cons.1 hall
    exact .quiet (by decide) (closes_member hmember (ih hmembers))

theorem nests_of_written (hwritten : Written j) : Nests j.compactChars j.nesting := by
  induction hwritten with
  | null => exact nests_of_all_quiet rfl
  | bool b => cases b <;> exact nests_of_all_quiet rfl
  | number hnumber => exact nests_number hnumber
  | str s => exact nests_stringText s
  | @arr items _ ih =>
    cases items with
    | nil => exact (closes_of_closing (.inl rfl)).nests (.inl rfl)
    | cons item items =>
      obtain ⟨hitem, hitems⟩ := List.forall_mem_cons.1 ih
      exact (hitem.closes (closes_compactItems hitems)).nests (.inl rfl)
  | @obj members _ ih =>
    cases members with
    | nil => exact (closes_of_closing (.inr rfl)).nests (.inr rfl)
    | cons member members =>
      obtain ⟨hmember, hmembers⟩ := List.forall_mem_cons.1 ih
      exact (closes_member hmember (closes_compactMembers hmembers)).nests (.inr rfl)

/-- A document and its text nest alike. -/
theorem textNesting_compact (hwritten : Written j) : textNesting j.compact = j.nesting := by
  have hnests := nests_of_written hwritten 0 []
  rw [List.append_nil] at hnests
  rw [textNesting, compact, String.toList_ofList, hnests, nestingFrom]
  omega

example : textNesting "\x7b\x22a[\x22:[[],1]\x7d" = 3 := by decide

end CapabilityArena.Json
