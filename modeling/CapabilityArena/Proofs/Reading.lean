import Mathlib.Data.List.Forall2

/-!
Operations that only read: a value or a failure, and no state. Success of a whole is success of its parts.
-/

namespace CapabilityArena

variable {ε α β : Type}

/-- A sequence that only reads succeeds when its parts do, one after the other. -/
theorem read_bind_eq_ok {first : Except ε β} {next : β → Except ε α} {a : α} :
    (first >>= next) = .ok a ↔ ∃ b, first = .ok b ∧ next b = .ok a := by
  cases first with
  | error e => simp [bind, Except.bind]
  | ok b => simp [bind, Except.bind]

/-- A sequence that only reads fails in its first part, or after the first part has succeeded. -/
theorem read_bind_eq_error {first : Except ε β} {next : β → Except ε α} {e : ε} :
    (first >>= next) = .error e ↔ first = .error e ∨ ∃ b, first = .ok b ∧ next b = .error e := by
  cases first with
  | error e => simp [bind, Except.bind]
  | ok b => simp [bind, Except.bind]

/-- What is done with a result in the end cannot fail. -/
theorem exists_read_bind_pure_iff {first : Except ε β} {f : β → α} :
    (∃ a, (first >>= fun b => pure (f b)) = .ok a) ↔ ∃ b, first = .ok b := by
  cases first with
  | error e => simp [bind, Except.bind]
  | ok b => simp [bind, Except.bind, pure, Except.pure]

theorem read_map_eq_ok {first : Except ε β} {f : β → α} {a : α} :
    first.map f = .ok a ↔ ∃ b, first = .ok b ∧ f b = a := by
  cases first with
  | error e => simp [Except.map]
  | ok b => simp [Except.map]

section Related

variable {related : α → β → Prop} {as : List α} {bs : List β}

theorem exists_forall₂ (hsome : ∀ a ∈ as, ∃ b, related a b) : ∃ bs, List.Forall₂ related as bs := by
  induction as with
  | nil => exact ⟨[], .nil⟩
  | cons a as ih =>
    obtain ⟨⟨b, hb⟩, hsome⟩ := List.forall_mem_cons.1 hsome
    obtain ⟨bs, hbs⟩ := ih hsome
    exact ⟨b :: bs, .cons hb hbs⟩

theorem exists_of_forall₂ (hrelated : List.Forall₂ related as bs) : ∀ a ∈ as, ∃ b ∈ bs, related a b := by
  induction hrelated with
  | nil => exact List.forall_mem_nil _
  | cons hfirst _ ih =>
    refine List.forall_mem_cons.2 ⟨⟨_, List.mem_cons_self, hfirst⟩, fun a ha => ?_⟩
    obtain ⟨b, hb, hab⟩ := ih a ha
    exact ⟨b, List.mem_cons_of_mem _ hb, hab⟩

theorem map_eq_of_forall₂ {γ : Type} {f : α → γ} {g : β → γ} (hrelated : List.Forall₂ related as bs)
    (hsame : ∀ a b, related a b → g b = f a) : bs.map g = as.map f := by
  induction hrelated with
  | nil => rfl
  | cons hfirst _ ih => rw [List.map_cons, List.map_cons, hsame _ _ hfirst, ih]

end Related

section Lists

variable {f : α → Except ε β} {items : List α} {results : List β}

theorem read_mapM_cons_eq_ok {item : α} : (item :: items).mapM f = .ok results ↔
    ∃ first rest, f item = .ok first ∧ items.mapM f = .ok rest ∧ first :: rest = results := by
  simp only [List.mapM_cons, read_bind_eq_ok, pure, Except.pure, Except.ok.injEq]
  grind

/-- Every item has its result. -/
theorem read_mapM_eq_ok_iff :
    items.mapM f = .ok results ↔ List.Forall₂ (fun item result => f item = .ok result) items results := by
  induction items generalizing results with
  | nil => simp [pure, Except.pure, eq_comm]
  | cons item items ih =>
    rw [read_mapM_cons_eq_ok, List.forall₂_cons_left_iff]
    simp only [ih]
    grind

theorem exists_read_mapM_iff :
    (∃ results, items.mapM f = .ok results) ↔ ∀ item ∈ items, ∃ result, f item = .ok result := by
  simp only [read_mapM_eq_ok_iff]
  refine ⟨?_, exists_forall₂⟩
  rintro ⟨results, hresults⟩ item hitem
  obtain ⟨result, _, hresult⟩ := exists_of_forall₂ hresults item hitem
  exact ⟨result, hresult⟩

/-- What comes out of a list comes from its items. -/
theorem mem_read_mapM_iff (hresults : items.mapM f = .ok results) {result : β} :
    result ∈ results ↔ ∃ item ∈ items, f item = .ok result := by
  induction items generalizing results with
  | nil =>
    cases hresults
    simp
  | cons item items ih =>
    obtain ⟨first, rest, hfirst, hrest, rfl⟩ := read_mapM_cons_eq_ok.1 hresults
    simp [ih hrest, hfirst, eq_comm]

theorem exists_of_read_mapM (hresults : items.mapM f = .ok results) {item : α} (hmem : item ∈ items) :
    ∃ result, f item = .ok result :=
  exists_read_mapM_iff.1 ⟨results, hresults⟩ item hmem

/-- And it comes in the order of the items. -/
theorem map_read_mapM {γ : Type} {read : β → γ} {given : α → γ}
    (hsame : ∀ item result, f item = .ok result → read result = given item)
    (hresults : items.mapM f = .ok results) : results.map read = items.map given :=
  map_eq_of_forall₂ (read_mapM_eq_ok_iff.1 hresults) hsame

end Lists

end CapabilityArena
