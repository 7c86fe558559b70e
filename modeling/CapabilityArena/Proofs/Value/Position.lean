import CapabilityArena.Proofs.Value.References

/-!
Where the references of a value stand. A position leads from a value down to one of its parts, to an item of a
list by its index and to the value of an entry by its key. Positions are compared by the first step in which they
differ, so everything inside one item or entry comes before everything inside a later one. The references of a
value are its addresses, each of them once and in the order of their positions, and so the check before storing
reports the first part that it refuses.
-/

namespace CapabilityArena.Value

/-- From a list to an item, or from a map to the value of an entry. -/
inductive Step where
  | item (index : Nat)
  | entry (key : String)

/-- Items follow one another by index, entries by key. -/
inductive Step.Before : Step → Step → Prop where
  | item {i j : Nat} (hindex : i < j) : Before (.item i) (.item j)
  | entry {k l : String} (hkey : k < l) : Before (.entry k) (.entry l)

instance : LT Step := ⟨Step.Before⟩

instance : Std.Asymm (fun a b : Step => a < b) where
  asymm := by
    rintro _ _ (hindex | hkey) (hback | hback)
    · exact Nat.lt_asymm hindex hback
    · exact String.lt_asymm hkey hback

/-- The way from a value to a part. -/
abbrev Position := List Step

def child? : Step → Value → Option Value
  | .item index, .list items => items[index]?
  | .entry key, .map entries => Entries.lookup key entries
  | _, _ => none

/-- The part at a position. -/
def at? : Position → Value → Option Value
  | [], v => some v
  | step :: rest, v => (v.child? step).bind (at? rest)

/-- The parts one step down, in the order of the steps. -/
def children : Value → List (Step × Value)
  | .list items => items.zipIdx.map fun (item, index) => (.item index, item)
  | .map entries => entries.map fun (key, value) => (.entry key, value)
  | _ => []

/-- A part that may not be stored in an arena, and the failure that says so: a strong address, or a weak one of
    another arena. -/
inductive Refuses (arena : ArenaId) : Value → Failure → Prop where
  | strong (address : Address) : Refuses arena (.address address) (.uncountedAlias address)
  | outside {address : Address} (houtside : address.arena ≠ arena) :
    Refuses arena (.weak address) (.crossArenaReference address arena)

/-- The references of a value with their positions, in order. -/
structure Locates (located : List (Position × Reference)) (v : Value) : Prop where
  ordered : located.Pairwise (·.1 < ·.1)
  complete : ∀ position r, (position, r) ∈ located ↔ v.at? position = some r.value
  references_eq : v.references = located.map (·.2)

variable {v part : Value} {step : Step} {arena : ArenaId} {failure : Failure}

/-- A value is a reference itself, or its references are those of its children. -/
theorem reference_or_branch (v : Value) :
    (∃ r : Reference, v = r.value) ∨
    (∀ r : Reference, v ≠ r.value) ∧ v.references = v.children.flatMap (·.2.references) := by
  have hvalue : ∀ r : Reference, r.value = .address r.address ∨ r.value = .weak r.address := by
    rintro ⟨address, _ | _⟩
    · exact .inl rfl
    · exact .inr rfl
  cases v with
  | address a => exact .inl ⟨⟨a, false⟩, rfl⟩
  | weak a => exact .inl ⟨⟨a, true⟩, rfl⟩
  | null | bool _ | int _ | float _ | str _ =>
    refine .inr ⟨fun r hr => ?_, rfl⟩
    rcases hvalue r with heq | heq <;> cases hr.trans heq
  | list items =>
    refine .inr ⟨fun r hr => ?_, ?_⟩
    · rcases hvalue r with heq | heq <;> cases hr.trans heq
    · calc itemReferences items
        _ = (items.zipIdx.map (·.1)).flatMap references := by rw [List.zipIdx_map_fst, itemReferences_eq]
        _ = (children (.list items)).flatMap (·.2.references) := by
          rw [children, List.flatMap_map, List.flatMap_map]
  | map entries =>
    refine .inr ⟨fun r hr => ?_, ?_⟩
    · rcases hvalue r with heq | heq <;> cases hr.trans heq
    · rw [references, entryReferences_eq, children, List.flatMap_map]

theorem ordered_children (hordered : v.WellFormed) : v.children.Pairwise (·.1 < ·.1) := by
  cases v with
  | null | bool _ | int _ | float _ | str _ | address _ | weak _ => exact .nil
  | list items =>
    have hindices : (items.zipIdx.map (·.2)).Pairwise (· < ·) := by
      rw [List.zipIdx_map_snd]
      exact List.pairwise_lt_range'
    exact List.pairwise_map.2 ((List.pairwise_map.1 hindices).imp .item)
  | map entries =>
    exact List.pairwise_map.2 (hordered.1.imp fun hkey => .entry (compareOfLessAndEq_eq_lt.1 hkey))

/-- The children are what single steps lead to. -/
theorem mem_children_iff (hordered : v.WellFormed) :
    (step, part) ∈ v.children ↔ v.child? step = some part := by
  cases v with
  | null | bool _ | int _ | float _ | str _ | address _ | weak _ => cases step <;> simp [children, child?]
  | list items =>
    cases step with
    | entry key => simp [children, child?]
    | item index =>
      simp only [children, child?, List.mem_map, List.mem_zipIdx_iff_getElem?, Prod.exists, Prod.mk.injEq,
        Step.item.injEq]
      grind
  | map entries =>
    cases step with
    | item index => simp [children, child?]
    | entry key =>
      have hmem : (key, part) ∈ entries ↔ Entries.lookup key entries = some part :=
        ⟨Entries.lookup_of_mem hordered.1, Entries.mem_of_lookup⟩
      simp [children, child?, hmem]

theorem mem_items_of_mem_children {items : List Value} {child : Step × Value}
    (hchild : child ∈ (list items).children) : child.2 ∈ items := by
  obtain ⟨⟨item, index⟩, hitem, rfl⟩ := List.mem_map.1 hchild
  exact List.fst_mem_of_mem_zipIdx hitem

theorem mem_entries_of_mem_children {entries : List (String × Value)} {child : Step × Value}
    (hchild : child ∈ (map entries).children) : ∃ entry ∈ entries, entry.2 = child.2 := by
  obtain ⟨entry, hentry, rfl⟩ := List.mem_map.1 hchild
  exact ⟨entry, hentry, rfl⟩

theorem wellFormed_of_mem_children (hordered : v.WellFormed) : ∀ child ∈ v.children, child.2.WellFormed := by
  intro child hchild
  cases v with
  | null | bool _ | int _ | float _ | str _ | address _ | weak _ => cases hchild
  | list items => exact wellFormed_of_mem_items hordered _ (mem_items_of_mem_children hchild)
  | map entries =>
    obtain ⟨entry, hentry, heq⟩ := mem_entries_of_mem_children hchild
    rw [← heq]
    exact wellFormed_of_mem_entries hordered.2 entry hentry

/-- Induction on a value by its children. -/
@[elab_as_elim]
theorem childInduction {motive : Value → Prop} (v : Value)
    (branch : ∀ v, (∀ child ∈ v.children, motive child.2) → motive v) : motive v := by
  induction v using inductionOn with
  | null | bool _ | int _ | float _ | str _ | address _ | weak _ => exact branch _ fun _ hchild => nomatch hchild
  | list items ih => exact branch _ fun child hchild => ih _ (mem_items_of_mem_children hchild)
  | map entries ih =>
    refine branch _ fun child hchild => ?_
    obtain ⟨entry, hentry, heq⟩ := mem_entries_of_mem_children hchild
    rw [← heq]
    exact ih entry hentry

/-- Lists for the children, put behind one another, with each position lengthened by the step to its child. -/
theorem exists_located_children {children : List (Step × Value)} (hordered : children.Pairwise (·.1 < ·.1))
    (hall : ∀ child ∈ children, ∃ located, Locates located child.2) :
    ∃ located : List (Position × Reference), located.Pairwise (·.1 < ·.1) ∧
      (∀ position r, (position, r) ∈ located ↔
        ∃ step rest part, position = step :: rest ∧ (step, part) ∈ children ∧
          part.at? rest = some r.value) ∧
      children.flatMap (·.2.references) = located.map (·.2) := by
  induction children with
  | nil => exact ⟨[], .nil, by simp, rfl⟩
  | cons child children ih =>
    obtain ⟨step, part⟩ := child
    obtain ⟨hfirst, hrest⟩ := List.pairwise_cons.1 hordered
    obtain ⟨inside, hinside⟩ := hall (step, part) List.mem_cons_self
    obtain ⟨later, hlater, hcomplete, hreferences⟩ := ih hrest fun child hchild =>
      hall child (List.mem_cons_of_mem _ hchild)
    refine ⟨inside.map (fun (position, r) => (step :: position, r)) ++ later, ?_, ?_, ?_⟩
    · refine List.pairwise_append.2 ⟨List.pairwise_map.2 (hinside.ordered.imp .cons), hlater, ?_⟩
      rintro ahead hahead ⟨position, r⟩ hbehind
      obtain ⟨⟨rest, r'⟩, _, rfl⟩ := List.mem_map.1 hahead
      obtain ⟨step', rest', part', rfl, hchild, _⟩ := (hcomplete position r).1 hbehind
      exact .rel (hfirst (step', part') hchild)
    · intro position r
      rw [List.mem_append, hcomplete]
      constructor
      · rintro (hmem | ⟨step', rest, part', rfl, hchild, hat⟩)
        · obtain ⟨⟨rest, r'⟩, hrest, heq⟩ := List.mem_map.1 hmem
          cases heq
          exact ⟨step, rest, part, rfl, List.mem_cons_self, (hinside.complete rest r).1 hrest⟩
        · exact ⟨step', rest, part', rfl, List.mem_cons_of_mem _ hchild, hat⟩
      · rintro ⟨step', rest, part', rfl, hchild, hat⟩
        rcases List.mem_cons.1 hchild with heq | hlater
        · cases heq
          exact .inl (List.mem_map.2 ⟨(rest, r), (hinside.complete rest r).2 hat, rfl⟩)
        · exact .inr ⟨step', rest, part', rfl, hlater, hat⟩
    · rw [List.flatMap_cons, hinside.references_eq, hreferences, List.map_append, List.map_map]
      rfl

/-- Every value has such a list; the order of its positions leaves no choice. -/
theorem exists_locates (v : Value) (hordered : v.WellFormed) : ∃ located, Locates located v := by
  induction v using childInduction with
  | branch v ih =>
    rcases reference_or_branch v with ⟨⟨address, weak⟩, rfl⟩ | ⟨hnone, hreferences⟩
    · refine ⟨[([], ⟨address, weak⟩)], List.pairwise_singleton _ _, ?_, ?_⟩
      · rintro (_ | ⟨step, rest⟩) ⟨address', weak'⟩
        · cases weak <;> cases weak' <;> simp [at?, Reference.value, eq_comm]
        · cases weak <;> cases step <;> simp [at?, child?, Reference.value]
      · cases weak <;> rfl
    · obtain ⟨located, hlocated, hcomplete, hinside⟩ := exists_located_children (ordered_children hordered)
        fun child hchild => ih child hchild (wellFormed_of_mem_children hordered child hchild)
      refine ⟨located, hlocated, fun position r => ?_, hreferences.trans hinside⟩
      rw [hcomplete]
      cases position with
      | nil => simpa [at?] using hnone r
      | cons step rest =>
        simp only [List.cons.injEq, at?, Option.bind_eq_some_iff, ← mem_children_iff hordered]
        grind

theorem refuses_iff :
    Refuses arena part failure ↔ ∃ r : Reference, part = r.value ∧ r.refusal? arena = some failure := by
  constructor
  · rintro (address | houtside)
    · exact ⟨⟨address, false⟩, rfl, rfl⟩
    · exact ⟨⟨_, true⟩, rfl, if_pos houtside⟩
  · rintro ⟨⟨address, _ | _⟩, rfl, hrefusal⟩
    · cases hrefusal
      exact .strong address
    · obtain ⟨houtside, hfailure⟩ := Option.ite_none_right_eq_some.1 hrefusal
      cases hfailure
      exact .outside houtside

theorem checkStorable_eq_error_iff :
    v.checkStorable arena = .error failure ↔ v.references.findSome? (·.refusal? arena) = some failure := by
  rw [checkStorable]
  cases v.references.findSome? (·.refusal? arena) <;> simp

/-- In a list in increasing order, what stands before an item is what is less. -/
theorem mem_before_iff {before after : List (Position × Reference)} {here other : Position × Reference}
    (hordered : (before ++ here :: after).Pairwise (·.1 < ·.1)) (hother : other ∈ before ++ here :: after) :
    other ∈ before ↔ other.1 < here.1 := by
  obtain ⟨_, hafter, hcross⟩ := List.pairwise_append.1 hordered
  constructor
  · exact fun hbefore => hcross other hbefore here List.mem_cons_self
  · intro hless
    rcases List.mem_append.1 hother with hbefore | hmem
    · exact hbefore
    · rcases List.mem_cons.1 hmem with rfl | hmem
      · exact absurd hless (List.lt_asymm hless)
      · exact absurd hless (List.lt_asymm ((List.pairwise_cons.1 hafter).1 other hmem))

/-- The check stops at the first reference that may not be stored. -/
theorem checkStorable_eq_error_iff_first (hordered : v.WellFormed) :
    v.checkStorable arena = .error failure ↔
      ∃ position part, v.at? position = some part ∧ Refuses arena part failure ∧
        ∀ earlier < position, ∀ other, v.at? earlier = some other → ∀ f, ¬ Refuses arena other f := by
  obtain ⟨located, hlocated, hcomplete, hreferences⟩ := exists_locates v hordered
  rw [checkStorable_eq_error_iff, hreferences, List.findSome?_map, List.findSome?_eq_some_iff]
  constructor
  · rintro ⟨before, ⟨position, r⟩, after, rfl, hrefusal, hnone⟩
    have hat := (hcomplete position r).1 (List.mem_append_right before List.mem_cons_self)
    refine ⟨position, r.value, hat, refuses_iff.2 ⟨r, rfl, hrefusal⟩, ?_⟩
    intro earlier hearlier other hother f hrefuses
    obtain ⟨r', rfl, hrefusal'⟩ := refuses_iff.1 hrefuses
    have hmem := (hcomplete earlier r').2 hother
    have hbefore := (mem_before_iff hlocated hmem).2 hearlier
    cases (hnone (earlier, r') hbefore).symm.trans hrefusal'
  · rintro ⟨position, part, hat, hrefuses, hfirst⟩
    obtain ⟨r, rfl, hrefusal⟩ := refuses_iff.1 hrefuses
    obtain ⟨before, after, rfl⟩ := List.append_of_mem ((hcomplete position r).2 hat)
    refine ⟨before, (position, r), after, rfl, hrefusal, ?_⟩
    rintro ⟨earlier, r'⟩ hbefore
    have hmem : (earlier, r') ∈ before ++ (position, r) :: after := List.mem_append_left _ hbefore
    have hearlier := (mem_before_iff hlocated hmem).1 hbefore
    apply Option.eq_none_iff_forall_ne_some.2
    intro f hrefusal'
    have hother := (hcomplete earlier r').1 hmem
    exact hfirst earlier hearlier r'.value hother f (refuses_iff.2 ⟨r', rfl, hrefusal'⟩)

/-- The check before storing accepts exactly the values without strong addresses and with weak ones of the arena
    alone; of any other value it reports the first part that it refuses, as what that part is. And the references
    of a value are its addresses, each once for every position at which it stands, in the order of positions. -/
theorem checkStorable_exact (arena : ArenaId) (hordered : v.WellFormed) :
    (v.checkStorable arena = .ok () ↔ v.HomeIn arena) ∧
    (∀ failure, v.checkStorable arena = .error failure ↔
      ∃ position part, v.at? position = some part ∧ Refuses arena part failure ∧
        ∀ earlier < position, ∀ other, v.at? earlier = some other → ∀ f, ¬ Refuses arena other f) ∧
    ∃ located : List (Position × Reference), v.references = located.map (·.2) ∧
      located.Pairwise (·.1 < ·.1) ∧
      ∀ position r, (position, r) ∈ located ↔ v.at? position = some r.value := by
  obtain ⟨located, hlocated⟩ := exists_locates v hordered
  exact ⟨checkStorable_eq_ok_iff, fun _ => checkStorable_eq_error_iff_first hordered, located,
    hlocated.references_eq, hlocated.ordered, hlocated.complete⟩

/-- A list and an entry with one fault each; that of the list comes first, since `box` is less than `owner`. -/
def crate : Value :=
  .map [("box", .list [.weak (.ofParts ⟨1⟩ 0), .list [], .weak (.ofParts ⟨2⟩ 7)]),
    ("owner", .address (.ofParts ⟨1⟩ 3))]

theorem checkStorable_exact_crate : crate.WellFormed ∧ ¬ crate.HomeIn ⟨1⟩ ∧
    ∃ position part, crate.at? position = some part ∧
      Refuses ⟨1⟩ part (.crossArenaReference (.ofParts ⟨2⟩ 7) ⟨1⟩) ∧
      ∀ earlier < position, ∀ other, crate.at? earlier = some other → ∀ f, ¬ Refuses ⟨1⟩ other f := by
  have hordered : crate.WellFormed :=
    ⟨by decide, ⟨trivial, ⟨trivial, trivial, trivial⟩⟩, trivial, trivial⟩
  have hchecked : crate.checkStorable ⟨1⟩ = .error (.crossArenaReference (.ofParts ⟨2⟩ 7) ⟨1⟩) := rfl
  obtain ⟨hok, herror, _⟩ := checkStorable_exact ⟨1⟩ hordered
  refine ⟨hordered, fun hhome => ?_, (herror _).1 hchecked⟩
  cases hchecked.symm.trans (hok.2 hhome)

end CapabilityArena.Value
