import CapabilityArena.Proofs.Json.Spacing
import CapabilityArena.Proofs.Text.Hex

/-!
JSON text is read back as the document that was written, whatever blanks were written with it. A document has
texts of its own when no part of it is unreadable and its numbers are written as numbers are; different documents
then have different texts.
-/

namespace CapabilityArena

namespace Json

variable {c : Char} {s : String} {cs rest : List Char} {j : Json} {fuel : Nat}

/-- A string is read piece by piece: this one first, and then those of the rest. -/
def readAfter (piece : Piece) (rest : List Char) : Option (List Piece × List Char) :=
  (readPieces rest).map fun (pieces, rest) => (piece :: pieces, rest)

theorem readPieces_plain (hcontrol : ¬ c.toNat < 0x20) (hquote : c ≠ '\x22') (hslash : c ≠ '\\')
    (rest : List Char) : readPieces (c :: rest) = readAfter (.char c) rest := by
  rw [readPieces.eq_def]
  split
  next heq => cases heq
  next heq => cases heq; exact absurd rfl hquote
  next heq => cases heq; exact absurd rfl hslash
  next heq => cases heq; exact absurd rfl hslash
  next heq =>
    cases heq
    rw [if_neg (by simp [hcontrol, hslash]), readAfter]
    cases readPieces rest <;> rfl

theorem readPieces_escape {e meaning : Char} (hmeaning : escapeMeaning? e = some meaning)
    (rest : List Char) : readPieces ('\\' :: e :: rest) = readAfter (.char meaning) rest := by
  rw [readPieces.eq_def]
  split
  next heq => cases heq
  next heq => cases heq
  next heq => cases heq; cases hmeaning
  next heq =>
    cases heq
    rw [hmeaning, readAfter]
    cases readPieces rest <;> rfl
  next hother heq => cases heq; exact absurd rfl (hother _ _ rfl)

theorem readPieces_unit {n : Nat} (hsmall : n < 16 ^ 4) (rest : List Char) :
    readPieces ('\\' :: 'u' :: Text.Hex.padded 4 n ++ rest) = readAfter (.unit n) rest := by
  have hvalue := Text.Hex.valueOf?_padded 4 n
  rw [Nat.mod_eq_of_lt hsmall] at hvalue
  obtain ⟨a, b, c, d, hdigits⟩ : ∃ a b c d, Text.Hex.padded 4 n = [a, b, c, d] := ⟨_, _, _, _, rfl⟩
  rw [hdigits] at hvalue ⊢
  simp only [List.cons_append, List.nil_append]
  rw [readPieces, hvalue, readAfter]
  cases readPieces rest <;> rfl

/-- The piece stands for the character, whatever pieces follow. -/
def Piece.StandsFor (piece : Piece) (c : Char) : Prop :=
  ∀ pieces, joinPieces (piece :: pieces) = (joinPieces pieces).map (c :: ·)

theorem standsFor_char (c : Char) : (Piece.char c).StandsFor c := fun _ => rfl

theorem standsFor_unit (hcontrol : c.toNat < 0x20) : (Piece.unit c.toNat).StandsFor c := by
  intro pieces
  rw [joinPieces.eq_def]
  split
  next heq => cases heq
  next heq => cases heq
  next heq =>
    cases heq
    rw [if_neg (by omega), if_neg (by omega), Char.ofNat_toNat]
  next heq =>
    cases heq
    rw [if_neg (by omega), Char.ofNat_toNat]

/-- A character is written as itself, by a letter after a backslash, or by its number. -/
theorem escapedChar_cases (c : Char) :
    (¬ c.toNat < 0x20 ∧ c ≠ '\x22' ∧ c ≠ '\\' ∧ escapedChar c = [c]) ∨
    (∃ e, escapedChar c = ['\\', e] ∧ escapeMeaning? e = some c) ∨
    (c.toNat < 0x20 ∧ escapedChar c = '\\' :: 'u' :: Text.Hex.padded 4 c.toNat) := by
  by_cases hshort : c ∈ ['\x22', '\\', '\x08', '\t', '\n', '\x0c', '\r']
  · refine .inr (.inl ?_)
    simp only [List.mem_cons, List.not_mem_nil, or_false] at hshort
    rcases hshort with rfl | rfl | rfl | rfl | rfl | rfl | rfl <;> exact ⟨_, rfl, rfl⟩
  · simp only [List.mem_cons, List.not_mem_nil, or_false, not_or] at hshort
    obtain ⟨hquote, hslash, hbackspace, htab, hline, hfeed, hreturn⟩ := hshort
    by_cases hcontrol : c.toNat < 0x20
    · exact .inr (.inr ⟨hcontrol, by simp [escapedChar, *]⟩)
    · exact .inl ⟨hcontrol, hquote, hslash, by simp [escapedChar, *]⟩

/-- Every character is read back from its escaped form. -/
theorem exists_piece (c : Char) :
    ∃ piece : Piece, piece.StandsFor c ∧
      ∀ rest, readPieces (escapedChar c ++ rest) = readAfter piece rest := by
  rcases escapedChar_cases c with ⟨hcontrol, hquote, hslash, heq⟩ | ⟨e, heq, hmeaning⟩ | ⟨hcontrol, heq⟩
  · rw [heq]
    exact ⟨.char c, standsFor_char c, readPieces_plain hcontrol hquote hslash⟩
  · rw [heq]
    exact ⟨.char c, standsFor_char c, readPieces_escape hmeaning⟩
  · rw [heq]
    exact ⟨.unit c.toNat, standsFor_unit hcontrol, readPieces_unit (by omega)⟩

theorem readPieces_escaped (cs rest : List Char) :
    ∃ pieces, joinPieces pieces = some cs ∧
      readPieces (cs.flatMap escapedChar ++ '\x22' :: rest) = some (pieces, rest) := by
  induction cs with
  | nil => exact ⟨[], rfl, by rw [List.flatMap_nil, List.nil_append, readPieces]⟩
  | cons c cs ih =>
    obtain ⟨piece, hstands, hread⟩ := exists_piece c
    obtain ⟨pieces, hjoin, hrest⟩ := ih
    refine ⟨piece :: pieces, ?_, ?_⟩
    · rw [hstands, hjoin, Option.map_some]
    · rw [List.flatMap_cons, List.append_assoc, hread, readAfter, hrest, Option.map_some]

/-- A written string is read back, and reading stops at its closing quotation mark. -/
theorem readString_escaped (s : String) (rest : List Char) :
    readString (s.toList.flatMap escapedChar ++ '\x22' :: rest) = some (some s, rest) := by
  obtain ⟨pieces, hjoin, hread⟩ := readPieces_escaped s.toList rest
  simp [readString, hread, hjoin]

theorem stringText_append (s : String) (rest : List Char) :
    stringText s ++ rest = '\x22' :: (s.toList.flatMap escapedChar ++ '\x22' :: rest) := by
  simp [stringText]

/-- What may follow a number: nothing that would be read as more of it. -/
def EndsNumber (rest : List Char) : Prop :=
  ∀ c ∈ rest.head?, c.isDigit = false ∧ c ≠ '.' ∧ c ≠ 'e' ∧ c ≠ 'E'

def Digits (ds : List Char) : Prop := ds ≠ [] ∧ ∀ c ∈ ds, c.isDigit = true

/-- A numeral whose text is a number: no zero in front, and no empty exponent. -/
structure IsNumber (n : Decimal.Numeral) : Prop where
  whole : n.whole = ['0'] ∨ Digits n.whole ∧ n.whole.head? ≠ some '0'
  fraction : ∀ c ∈ n.fraction, c.isDigit = true
  exponent : ∀ below ds, n.exponent = some (below, ds) → Digits ds

theorem readDigits_append {ds : List Char} (hdigits : Digits ds)
    (hrest : ∀ c ∈ rest.head?, c.isDigit = false) : readDigits (ds ++ rest) = some (ds, rest) := by
  obtain ⟨hsome, hall⟩ := hdigits
  have hnone : rest.takeWhile Char.isDigit = [] ∧ rest.dropWhile Char.isDigit = rest := by
    cases rest with
    | nil => exact ⟨rfl, rfl⟩
    | cons c rest =>
      have hc := hrest c rfl
      simp [hc]
  rw [readDigits, List.takeWhile_append_of_pos hall, List.dropWhile_append_of_pos hall, hnone.1,
    hnone.2, List.append_nil]
  cases ds with
  | nil => exact absurd rfl hsome
  | cons d ds => rfl

variable {n : Decimal.Numeral}

theorem readWhole_append (hwhole : n.whole = ['0'] ∨ Digits n.whole ∧ n.whole.head? ≠ some '0')
    (hrest : ∀ c ∈ rest.head?, c.isDigit = false) : readWhole (n.whole ++ rest) = some (n.whole, rest) := by
  rcases hwhole with hzero | ⟨hdigits, hhead⟩
  · rw [hzero]
    rfl
  · have hread := readDigits_append hdigits hrest
    rw [readWhole.eq_def]
    split
    next heq =>
      obtain ⟨d, ds, hwhole⟩ := List.exists_cons_of_ne_nil hdigits.1
      rw [hwhole] at heq hhead
      cases heq
      exact absurd rfl hhead
    next => exact hread

theorem readExponent_append (hexponent : ∀ below ds, n.exponent = some (below, ds) → Digits ds)
    (hends : EndsNumber rest) :
    readExponent (Decimal.exponentText n.exponent ++ rest) = some (n.exponent, rest) := by
  rcases hpower : n.exponent with _ | ⟨below, ds⟩
  · rw [Decimal.exponentText, List.nil_append, readExponent.eq_def]
    split
    next => exact absurd rfl (hends 'e' rfl).2.2.1
    next => exact absurd rfl (hends 'E' rfl).2.2.2
    next => rfl
  · have hread := readDigits_append (hexponent below ds hpower) fun c hc => (hends c hc).1
    cases below with
    | true => simp [Decimal.exponentText, readExponent, readPower, hread]
    | false => simp [Decimal.exponentText, readExponent, readPower, hread]

theorem readFraction_append (hfraction : ∀ c ∈ n.fraction, c.isDigit = true)
    (hrest : ∀ c ∈ rest.head?, c.isDigit = false ∧ c ≠ '.') :
    readFraction ((if n.fraction.isEmpty then [] else '.' :: n.fraction) ++ rest) =
      some (n.fraction, rest) := by
  cases hempty : n.fraction with
  | nil =>
    rw [List.isEmpty_nil, if_pos rfl, List.nil_append, readFraction.eq_def]
    split
    next => exact absurd rfl (hrest '.' rfl).2
    next => rfl
  | cons d ds =>
    rw [hempty] at hfraction
    exact readDigits_append ⟨List.cons_ne_nil d ds, hfraction⟩ fun c hc => (hrest c hc).1

/-- After the digits of the fraction stands the letter of the exponent, or what ends the number. -/
theorem head?_exponentText_append (exponent : Option (Bool × List Char)) (hends : EndsNumber rest) :
    ∀ c ∈ (Decimal.exponentText exponent ++ rest).head?, c.isDigit = false ∧ c ≠ '.' := by
  rcases exponent with _ | ⟨below, ds⟩
  · exact fun c hc => ⟨(hends c hc).1, (hends c hc).2.1⟩
  · rintro c ⟨⟩
    decide

theorem readUnsigned_append (hn : IsNumber n) (hends : EndsNumber rest) (negative : Bool) :
    readUnsigned negative (n.whole ++ ((if n.fraction.isEmpty then [] else '.' :: n.fraction) ++
      (Decimal.exponentText n.exponent ++ rest))) = some ({ n with negative }, rest) := by
  have hexponent := head?_exponentText_append n.exponent hends
  have hfraction : ∀ c ∈ ((if n.fraction.isEmpty then [] else '.' :: n.fraction) ++
      (Decimal.exponentText n.exponent ++ rest)).head?, c.isDigit = false := by
    cases n.fraction with
    | nil => exact fun c hc => (hexponent c hc).1
    | cons d ds =>
      rintro c ⟨⟩
      decide
  simp only [readUnsigned, readWhole_append hn.whole hfraction,
    readFraction_append hn.fraction hexponent, readExponent_append hn.exponent hends,
    Option.bind_eq_bind, Option.bind_some]

/-- A number begins with its sign or with a digit. -/
theorem exists_digit_of_isNumber (hn : IsNumber n) : ∃ d ds, n.whole = d :: ds ∧ d.isDigit = true := by
  rcases hn.whole with hzero | ⟨⟨hsome, hall⟩, _⟩
  · exact ⟨'0', [], hzero, rfl⟩
  · obtain ⟨d, ds, hwhole⟩ := List.exists_cons_of_ne_nil hsome
    exact ⟨d, ds, hwhole, hall d (hwhole ▸ List.mem_cons_self)⟩

theorem readNumeral_append (hn : IsNumber n) (hends : EndsNumber rest) :
    readNumeral (n.text ++ rest) = some (n, rest) := by
  have hread := readUnsigned_append hn hends n.negative
  simp only [Decimal.Numeral.text, List.append_assoc]
  cases hsign : n.negative with
  | true =>
    rw [hsign] at hread
    simp only [if_true, List.cons_append, List.nil_append, readNumeral, hread]
    rw [← hsign]
  | false =>
    rw [hsign] at hread
    obtain ⟨d, ds, hwhole, hdigit⟩ := exists_digit_of_isNumber hn
    simp only [Bool.false_eq_true, if_false, List.nil_append]
    rw [readNumeral.eq_def]
    split
    next heq =>
      rw [hwhole] at heq
      cases heq
      cases hdigit
    next =>
      rw [hread, ← hsign]

/-- The documents that have a text of their own: those without a part that is no text, and with numbers as
    they are written. -/
inductive Written : Json → Prop where
  | null : Written .null
  | bool (b : Bool) : Written (.bool b)
  | number {n : Decimal.Numeral} (hnumber : IsNumber n) : Written (.number n)
  | str (s : String) : Written (.str s)
  | arr {items : List Json} (hitems : ∀ item ∈ items, Written item) : Written (.arr items)
  | obj {members : List (String × Json)} (hmembers : ∀ member ∈ members, Written member.2) :
    Written (.obj members)

theorem not_isBlank_of_isDigit (hdigit : c.isDigit = true) : isBlank c = false := by
  cases hblank : isBlank c with
  | false => rfl
  | true =>
    simp only [isBlank, Bool.or_eq_true, decide_eq_true_eq] at hblank
    rcases hblank with ((rfl | rfl) | rfl) | rfl <;> cases hdigit

theorem written_strs (texts : List String) : Written (.arr (texts.map .str)) :=
  .arr (List.forall_mem_map.2 fun text _ => .str text)

variable {spacing : Spacing} {blanks : List Char}

theorem exists_spacedChars (hwritten : Written j) (spacing : Spacing) (level : Nat) :
    ∃ c cs, j.spacedChars spacing level = c :: cs ∧ isBlank c = false ∧ c ≠ ']' := by
  cases hwritten with
  | null => exact ⟨_, _, rfl, by decide, by decide⟩
  | bool b => cases b <;> exact ⟨_, _, rfl, by decide, by decide⟩
  | @number n hnumber =>
    have htext : spacedChars spacing level (.number n) = n.text := rfl
    rw [htext, Decimal.Numeral.text]
    cases n.negative with
    | true => exact ⟨'-', _, rfl, by decide, by decide⟩
    | false =>
      obtain ⟨d, ds, hwhole, hdigit⟩ := exists_digit_of_isNumber hnumber
      refine ⟨d, _, by rw [hwhole]; rfl, not_isBlank_of_isDigit hdigit, ?_⟩
      rintro rfl
      cases hdigit
  | str s => exact ⟨'\x22', _, rfl, by decide, by decide⟩
  | @arr items _ => cases items <;> exact ⟨'[', _, rfl, by decide, by decide⟩
  | @obj members _ => cases members <;> exact ⟨'\x7b', _, rfl, by decide, by decide⟩

/-! ### Blanks -/

theorem skipBlanks_append (hblanks : AllBlank blanks) (rest : List Char) :
    skipBlanks (blanks ++ rest) = skipBlanks rest :=
  List.dropWhile_append_of_pos hblanks

theorem skipBlanks_cons (hblank : isBlank c = false) (rest : List Char) :
    skipBlanks (c :: rest) = c :: rest := by
  rw [skipBlanks, List.dropWhile_cons_of_neg (by simp [hblank])]

/-- What stands behind blanks is found. -/
theorem skipBlanks_append_cons (hblanks : AllBlank blanks) (hblank : isBlank c = false) (rest : List Char) :
    skipBlanks (blanks ++ c :: rest) = c :: rest := by
  rw [skipBlanks_append hblanks, skipBlanks_cons hblank]

theorem readValue_append (hblanks : AllBlank blanks) (fuel : Nat) (rest : List Char) :
    readValue fuel (blanks ++ rest) = readValue fuel rest := by
  cases fuel with
  | zero => rw [readValue, readValue]
  | succ fuel => rw [readValue, readValue, skipBlanks_append hblanks]

theorem readItems_append (hblanks : AllBlank blanks) (fuel : Nat) (rest : List Char) :
    readItems fuel (blanks ++ rest) = readItems fuel rest := by
  cases fuel with
  | zero => rw [readItems, readItems]
  | succ fuel => rw [readItems, readItems, readValue_append hblanks]

theorem readMembers_append (hblanks : AllBlank blanks) (fuel : Nat) (rest : List Char) :
    readMembers fuel (blanks ++ rest) = readMembers fuel rest := by
  cases fuel with
  | zero => rw [readMembers, readMembers]
  | succ fuel => rw [readMembers, readMembers, skipBlanks_append hblanks]

/-- No blank is more of a number. -/
theorem endsNumber_append (hblanks : AllBlank blanks) (hends : EndsNumber rest) : EndsNumber (blanks ++ rest) := by
  cases blanks with
  | nil => exact hends
  | cons c blanks =>
    rintro c ⟨⟩
    have hblank := hblanks c List.mem_cons_self
    simp only [isBlank, Bool.or_eq_true, decide_eq_true_eq] at hblank
    rcases hblank with ((rfl | rfl) | rfl) | rfl <;> decide

/-! ### Documents and what follows them -/

/-- Reading with fuel enough for the text gives the document and what follows it. -/
def ReadsBack (spacing : Spacing) (j : Json) : Prop :=
  ∀ (level fuel : Nat) (rest : List Char), 2 * (j.spacedChars spacing level).length ≤ fuel → EndsNumber rest →
    readValue fuel (j.spacedChars spacing level ++ rest) = some (j, rest)

theorem endsNumber_spacedItems (spacing : Spacing) (level : Nat) (items : List Json) (rest : List Char) :
    EndsNumber (spacedItems spacing level items ++ rest) := by
  cases items with
  | nil =>
    rw [spacedItems, List.append_assoc]
    apply endsNumber_append (spacing.line_blank level)
    rintro c ⟨⟩
    decide
  | cons item items =>
    rintro c ⟨⟩
    decide

theorem endsNumber_spacedMembers (spacing : Spacing) (level : Nat) (members : List (String × Json))
    (rest : List Char) : EndsNumber (spacedMembers spacing level members ++ rest) := by
  cases members with
  | nil =>
    rw [spacedMembers, List.append_assoc]
    apply endsNumber_append (spacing.line_blank level)
    rintro c ⟨⟩
    decide
  | cons member members =>
    rintro c ⟨⟩
    decide

/-- Only a number is read where one begins. -/
theorem readValue_of_readNumeral (hblank : isBlank c = false)
    (hread : readNumeral (c :: cs) = some (n, rest)) :
    readValue (fuel + 1) (c :: cs) = some (.number n, rest) := by
  rw [readValue, skipBlanks_cons hblank]
  split
  case h_7 => rw [hread, Option.map_some]
  all_goals
    next heq =>
      rw [heq] at hread
      cases show none = some (n, rest) from hread

/-- A text takes fuel for at least one call. -/
theorem exists_fuel (hfuel : 2 * (c :: cs).length ≤ fuel) : ∃ k, fuel = k + 1 ∧ 2 * cs.length < k := by
  refine ⟨fuel - 1, ?_, ?_⟩ <;> rw [List.length_cons] at hfuel <;> omega

theorem readsBack_number (hn : IsNumber n) : ReadsBack spacing (.number n) := by
  intro level fuel rest hfuel hends
  have hread := readNumeral_append hn hends
  obtain ⟨c, cs, hchars, hblank, -⟩ := exists_spacedChars (.number hn) spacing level
  have htext : n.text = c :: cs := hchars
  rw [hchars] at hfuel ⊢
  obtain ⟨k, rfl, -⟩ := exists_fuel hfuel
  rw [htext, List.cons_append] at hread
  exact readValue_of_readNumeral hblank hread

theorem readsBack_str (s : String) : ReadsBack spacing (.str s) := by
  intro level fuel rest hfuel _
  change 2 * (stringText s).length ≤ fuel at hfuel
  obtain ⟨k, rfl, -⟩ := exists_fuel hfuel
  have hread := readString_escaped s rest
  change readValue (k + 1) (stringText s ++ rest) = _
  rw [stringText_append, readValue, skipBlanks_cons (by decide)]
  simp only [hread, Option.map_some]

/-- The items from one on, with the bracket that closes them. -/
theorem readItems_spaced {item : Json} {items : List Json} (level : Nat)
    (hall : ∀ j ∈ item :: items, ReadsBack spacing j) (fuel : Nat) (rest : List Char)
    (hfuel : 2 * (item.spacedChars spacing (level + 1) ++ spacedItems spacing level items).length ≤ fuel) :
    readItems fuel (item.spacedChars spacing (level + 1) ++ (spacedItems spacing level items ++ rest)) =
      some (item :: items, rest) := by
  induction items generalizing item fuel with
  | nil =>
    rw [List.length_append, spacedItems, List.length_append, List.length_singleton] at hfuel
    obtain ⟨k, rfl⟩ : ∃ k, fuel = k + 1 := ⟨fuel - 1, by omega⟩
    have hitem := hall item List.mem_cons_self (level + 1) k (spacedItems spacing level [] ++ rest) (by omega)
      (endsNumber_spacedItems spacing level [] rest)
    rw [readItems, hitem, spacedItems, List.append_assoc, List.singleton_append]
    simp only [Option.bind_eq_bind, Option.bind_some,
      skipBlanks_append_cons (spacing.line_blank level) (show isBlank ']' = false by decide)]
  | cons next items ih =>
    simp only [spacedItems, List.length_append, List.length_cons] at hfuel
    obtain ⟨k, rfl⟩ : ∃ k, fuel = k + 1 := ⟨fuel - 1, by omega⟩
    have hitem := hall item List.mem_cons_self (level + 1) k (spacedItems spacing level (next :: items) ++ rest)
      (by omega) (endsNumber_spacedItems spacing level (next :: items) rest)
    have hitems := ih (fun j hj => hall j (List.mem_cons_of_mem item hj)) k
      (by rw [List.length_append]; omega)
    rw [readItems, hitem, spacedItems]
    simp only [List.cons_append, List.append_assoc, Option.bind_eq_bind, Option.bind_some,
      skipBlanks_cons (show isBlank ',' = false by decide), readItems_append (spacing.line_blank _), hitems]

/-- A member before the closing brace. -/
theorem readMembers_last {value : Json} (name : String) (hblanks : AllBlank blanks)
    (hvalue : readValue fuel cs = some (value, blanks ++ '\x7d' :: rest)) :
    readMembers (fuel + 1) (stringText name ++ ':' :: cs) = some ([(some name, value)], rest) := by
  have hname := readString_escaped name (':' :: cs)
  rw [readMembers, stringText_append, skipBlanks_cons (by decide)]
  simp only [hname, Option.bind_eq_bind, Option.bind_some,
    skipBlanks_cons (show isBlank ':' = false by decide), hvalue,
    skipBlanks_append_cons hblanks (show isBlank '\x7d' = false by decide)]

/-- A member before a comma. -/
theorem readMembers_more {value : Json} {members : List (Option String × Json)} {after : List Char}
    (name : String) (hvalue : readValue fuel cs = some (value, ',' :: rest))
    (hmembers : readMembers fuel rest = some (members, after)) :
    readMembers (fuel + 1) (stringText name ++ ':' :: cs) =
      some ((some name, value) :: members, after) := by
  have hname := readString_escaped name (':' :: cs)
  rw [readMembers, stringText_append, skipBlanks_cons (by decide)]
  simp only [hname, Option.bind_eq_bind, Option.bind_some,
    skipBlanks_cons (show isBlank ':' = false by decide), hvalue,
    skipBlanks_cons (show isBlank ',' = false by decide), hmembers]

/-- The members from one on, with the brace that closes them. -/
theorem readMembers_spaced {name : String} {value : Json} {members : List (String × Json)} (level : Nat)
    (hall : ∀ member ∈ (name, value) :: members, ReadsBack spacing member.2) (fuel : Nat) (rest : List Char)
    (hfuel : 2 * (value.spacedChars spacing (level + 1) ++ spacedMembers spacing level members).length < fuel) :
    readMembers fuel (stringText name ++ ':' :: (spacing.gap ++ (value.spacedChars spacing (level + 1) ++
      (spacedMembers spacing level members ++ rest)))) =
      some (((name, value) :: members).map fun (name, value) => (some name, value), rest) := by
  induction members generalizing name value fuel with
  | nil =>
    obtain ⟨k, rfl⟩ : ∃ k, fuel = k + 1 := ⟨fuel - 1, by omega⟩
    rw [List.length_append] at hfuel
    have hvalue := hall (name, value) List.mem_cons_self (level + 1) k (spacedMembers spacing level [] ++ rest)
      (by simp only; omega) (endsNumber_spacedMembers spacing level [] rest)
    rw [spacedMembers, List.append_assoc] at hvalue ⊢
    exact readMembers_last name (spacing.line_blank level) ((readValue_append spacing.gap_blank k _).trans hvalue)
  | cons next members ih =>
    obtain ⟨k, rfl⟩ : ∃ k, fuel = k + 1 := ⟨fuel - 1, by omega⟩
    obtain ⟨name', value'⟩ := next
    have hvalue := hall (name, value) List.mem_cons_self (level + 1) k
      (spacedMembers spacing level ((name', value') :: members) ++ rest)
      (by rw [List.length_append] at hfuel; simp only; omega) (endsNumber_spacedMembers spacing level _ rest)
    simp only [spacedMembers, List.cons_append, List.append_assoc, List.length_append,
      List.length_cons] at hfuel hvalue ⊢
    have hmembers := ih (fun member hmember => hall member (List.mem_cons_of_mem _ hmember)) k
      (by rw [List.length_append]; omega)
    exact readMembers_more name ((readValue_append spacing.gap_blank k _).trans hvalue)
      ((readMembers_append (spacing.line_blank _) k _).trans hmembers)

theorem objectOf_some (members : List (String × Json)) :
    objectOf (members.map fun (name, value) => (some name, value)) = .obj members := by
  have hall : ∀ member : Option String × Json → Option (String × Json),
      (∀ name value, member (some name, value) = some (name, value)) →
      (members.map fun (name, value) => (some name, value)).mapM member = some members := by
    intro member hmember
    induction members with
    | nil => rfl
    | cons first members ih => simp [hmember, ih]
  rw [objectOf, hall _ fun _ _ => rfl]

/-- Behind an opening bracket, anything but the closing one begins an item. -/
theorem readValue_of_readItems {items : List Json} (hblanks : AllBlank blanks) (hblank : isBlank c = false)
    (hclosing : c ≠ ']') (hitems : readItems fuel (c :: cs) = some (items, rest)) :
    readValue (fuel + 1) ('[' :: (blanks ++ c :: cs)) = some (.arr items, rest) := by
  rw [readValue, skipBlanks_cons (by decide)]
  simp only [skipBlanks_append_cons hblanks hblank]
  split
  next heq =>
    cases heq
    exact absurd rfl hclosing
  next => rw [hitems, Option.map_some]

/-- Behind an opening brace, a quotation mark begins a member. -/
theorem readValue_of_readMembers {members : List (Option String × Json)} (hblanks : AllBlank blanks)
    (hmembers : readMembers fuel ('\x22' :: cs) = some (members, rest)) :
    readValue (fuel + 1) ('\x7b' :: (blanks ++ '\x22' :: cs)) = some (objectOf members, rest) := by
  rw [readValue, skipBlanks_cons (by decide)]
  simp only [skipBlanks_append_cons hblanks (show isBlank '\x22' = false by decide)]
  change Option.map _ (readMembers fuel ('\x22' :: cs)) = _
  rw [hmembers, Option.map_some]

theorem readsBack_arr {items : List Json} (hwritten : ∀ item ∈ items, Written item)
    (hall : ∀ item ∈ items, ReadsBack spacing item) : ReadsBack spacing (.arr items) := by
  intro level fuel rest hfuel _
  cases items with
  | nil =>
    obtain ⟨k, rfl, -⟩ := exists_fuel hfuel
    rfl
  | cons item items =>
    simp only [spacedChars, List.cons_append, List.append_assoc] at hfuel ⊢
    obtain ⟨k, rfl, hk⟩ := exists_fuel hfuel
    obtain ⟨c, cs, hchars, hblank, hclosing⟩ :=
      exists_spacedChars (hwritten item List.mem_cons_self) spacing (level + 1)
    have hitems := readItems_spaced level hall k rest (by rw [List.length_append] at hk; omega)
    rw [hchars, List.cons_append] at hitems ⊢
    exact readValue_of_readItems (spacing.line_blank _) hblank hclosing hitems

theorem readsBack_obj {members : List (String × Json)}
    (hall : ∀ member ∈ members, ReadsBack spacing member.2) : ReadsBack spacing (.obj members) := by
  intro level fuel rest hfuel _
  cases members with
  | nil =>
    obtain ⟨k, rfl, -⟩ := exists_fuel hfuel
    rfl
  | cons member members =>
    obtain ⟨name, value⟩ := member
    simp only [spacedChars, List.cons_append, List.append_assoc] at hfuel ⊢
    obtain ⟨k, rfl, hk⟩ := exists_fuel hfuel
    have hmembers := readMembers_spaced level hall k rest
      (by simp only [List.length_append, List.length_cons] at hk ⊢; omega)
    rw [stringText_append] at hmembers ⊢
    rw [readValue_of_readMembers (spacing.line_blank _) hmembers, objectOf_some]

theorem readsBack_of_written (spacing : Spacing) (hwritten : Written j) : ReadsBack spacing j := by
  induction hwritten with
  | null =>
    intro level fuel rest hfuel _
    obtain ⟨k, rfl, -⟩ := exists_fuel hfuel
    rfl
  | bool b =>
    intro level fuel rest hfuel _
    cases b <;> obtain ⟨k, rfl, -⟩ := exists_fuel hfuel <;> rfl
  | number hnumber => exact readsBack_number hnumber
  | str s => exact readsBack_str s
  | arr hitems ih => exact readsBack_arr hitems ih
  | obj _ ih => exact readsBack_obj ih

/-- Reading inverts writing, with any blanks. -/
theorem read?_spaced (spacing : Spacing) (hwritten : Written j) :
    read? (String.ofList (j.spacedChars spacing 0)) = some j := by
  have hread := readsBack_of_written spacing hwritten 0 (2 * (j.spacedChars spacing 0).length + 2) [] (by omega)
    (fun c hc => nomatch hc)
  rw [List.append_nil] at hread
  rw [read?, String.toList_ofList]
  simp only [hread]
  rfl

theorem read?_compact (hwritten : Written j) : read? j.compact = some j := by
  rw [compact, ← spacedChars_tight 0 j]
  exact read?_spaced .tight hwritten

theorem read?_pretty (hwritten : Written j) : read? j.pretty = some j := by
  rw [pretty, ← spacedChars_lined 0 j]
  exact read?_spaced .lined hwritten

theorem compact_injective {a b : Json} (ha : Written a) (hb : Written b) (heq : a.compact = b.compact) :
    a = b := by
  have hread := read?_compact ha
  rw [heq, read?_compact hb] at hread
  exact (Option.some.inj hread).symm

end Json
end CapabilityArena
