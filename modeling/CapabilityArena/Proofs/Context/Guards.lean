import Mathlib.Data.List.Infix
import CapabilityArena.Context.Stack

/-!
Guards over runs: contexts are entered, and their guards are dropped in any order. What stands on the stack
has been entered there and was never given up since, with the same contexts around it (`suffix_run_iff`).
So a guard revokes its own context, with everything inside, and a guard that comes too late finds nothing
to revoke, unless a context with the same number has been entered again in the same place.
-/

namespace CapabilityArena

namespace ContextStack

variable {s : ContextStack} {c : Context} {around : List Context} {guard : ContextGuard}

/-- There is only one reason why a context cannot be entered, and then nothing changes. -/
theorem run_enter (c : Context) (s : ContextStack) :
    (enter c).run s =
      if s.depth < s.maxDepth then .ok ⟨c.id, s.depth⟩ { s with contexts := c :: s.contexts }
      else .error (.contextDepthExceeded s.maxDepth) s := by
  simp only [enter, EStateM.run_bind, EStateM.run_get]
  by_cases hroom : s.depth < s.maxDepth
  · simp only [Nat.not_le.2 hroom, hroom, ↓reduceIte]
    rfl
  · simp only [Nat.not_lt.1 hroom, hroom, ↓reduceIte]
    rfl

theorem enter_eq_ok {entered : ContextStack} (henter : (enter c).run s = .ok guard entered) :
    guard = ⟨c.id, s.depth⟩ ∧ entered = { s with contexts := c :: s.contexts } := by
  rw [run_enter] at henter
  split at henter
  · cases henter
    exact ⟨rfl, rfl⟩
  · cases henter

/-- Whatever is on the stack stands on the contexts around it. -/
theorem at?_eq_some_iff {position : Nat} :
    s.at? position = some c ↔ ∃ around, c :: around <:+ s.contexts ∧ around.length = position := by
  unfold at? depth
  constructor
  · intro hat
    split at hat
    next hinside =>
      obtain ⟨hindex, hfound⟩ := List.getElem?_eq_some_iff.1 hat
      refine ⟨s.contexts.drop (s.contexts.length - 1 - position + 1), ?_, ?_⟩
      · rw [← hfound, ← List.drop_eq_getElem_cons hindex]
        exact List.drop_suffix _ _
      · rw [List.length_drop]
        omega
    next => cases hat
  · rintro ⟨around, ⟨inner, hcontexts⟩, rfl⟩
    have hlength : s.contexts.length = inner.length + (around.length + 1) := by
      rw [← hcontexts, List.length_append, List.length_cons]
    have hindex : s.contexts.length - 1 - around.length = inner.length := by omega
    rw [if_pos (by omega), hindex, ← hcontexts, List.getElem?_append_right (Nat.le_refl _),
      Nat.sub_self, List.getElem?_cons_zero]

/-- Dropping the guard of a context that stands leaves the contexts around it. -/
theorem dropGuard_of_suffix (hsuffix : c :: around <:+ s.contexts) :
    s.dropGuard ⟨c.id, around.length⟩ = { s with contexts := around } := by
  have hat : s.at? around.length = some c := at?_eq_some_iff.2 ⟨around, hsuffix, rfl⟩
  obtain ⟨inner, hcontexts⟩ := hsuffix
  have hdrop : s.contexts.drop (s.depth - around.length) = around := by
    have hlength : s.depth - around.length = (inner ++ [c]).length := by
      rw [depth, ← hcontexts]
      simp only [List.length_append, List.length_cons, List.length_nil]
      omega
    rw [hlength, ← hcontexts, List.append_cons inner c around, List.drop_left]
  simp only [dropGuard, hat, ↓reduceIte, hdrop]

theorem dropGuard_eq_self
    (hother : ∀ c around, c :: around <:+ s.contexts → around.length = guard.position → c.id ≠ guard.id) :
    s.dropGuard guard = s := by
  unfold dropGuard
  split
  next c hat =>
    obtain ⟨around, hsuffix, hposition⟩ := at?_eq_some_iff.1 hat
    rw [if_neg (hother c around hsuffix hposition)]
  next => rfl

/-- Dropping a guard changes nothing, or revokes a context with the number of the guard. -/
theorem dropGuard_cases (s : ContextStack) (guard : ContextGuard) :
    s.dropGuard guard = s ∨ ∃ c around, c :: around <:+ s.contexts ∧ guard = ⟨c.id, around.length⟩ ∧
      s.dropGuard guard = { s with contexts := around } := by
  by_cases hown : ∃ c around, c :: around <:+ s.contexts ∧ guard = ⟨c.id, around.length⟩
  · obtain ⟨c, around, hsuffix, rfl⟩ := hown
    exact .inr ⟨c, around, hsuffix, rfl, dropGuard_of_suffix hsuffix⟩
  · refine .inl (dropGuard_eq_self fun c around hsuffix hposition hid => hown ⟨c, around, hsuffix, ?_⟩)
    rw [hposition, hid]

theorem suffix_dropGuard (s : ContextStack) (guard : ContextGuard) :
    (s.dropGuard guard).contexts <:+ s.contexts := by
  rcases s.dropGuard_cases guard with hsame | ⟨c, around, hsuffix, _, hdropped⟩
  · rw [hsame]
  · rw [hdropped]
    exact (List.suffix_cons c around).trans hsuffix

theorem maxDepth_dropGuard (s : ContextStack) (guard : ContextGuard) :
    (s.dropGuard guard).maxDepth = s.maxDepth := by
  rcases s.dropGuard_cases guard with hsame | ⟨_, _, _, _, hdropped⟩
  · rw [hsame]
  · rw [hdropped]

end ContextStack

/-- What is done with a stack of contexts. Entries that succeed are numbered from zero, and the number of an
    entry tells which guard is dropped. -/
inductive ContextCall where
  | enter (context : Context)
  | drop (entry : Nat)

/-- A stack of contexts with the guards that it has given, each until it is dropped. -/
structure ContextSession where
  stack : ContextStack
  /-- In the order of the entries. -/
  guards : List (Option ContextGuard)

/-- A guard can be dropped once; later there is none any more. -/
def ContextCall.perform : ContextCall → ContextSession → ContextSession
  | .enter context, s =>
    match (ContextStack.enter context).run s.stack with
    | .ok guard stack => ⟨stack, s.guards ++ [some guard]⟩
    | .error _ stack => { s with stack := stack }
  | .drop entry, s =>
    match s.guards[entry]? with
    | some (some guard) => ⟨s.stack.dropGuard guard, s.guards.set entry none⟩
    | _ => s

/-- The number of the context that a call brings. -/
def ContextCall.id? : ContextCall → Option ContextId
  | .enter context => some context.id
  | .drop _ => none

namespace ContextSession

def start (maxDepth : Nat) : ContextSession := ⟨.empty maxDepth, []⟩

def run (calls : List ContextCall) (s : ContextSession) : ContextSession :=
  calls.foldl (fun s call => call.perform s) s

/-- What was entered at a position is not revoked by any of the calls: the stack stays deeper. -/
def Stands (position : Nat) : List ContextCall → ContextSession → Prop
  | [], s => position < s.stack.depth
  | call :: calls, s => position < s.stack.depth ∧ Stands position calls (call.perform s)

instance decidableStands (position : Nat) :
    (calls : List ContextCall) → (s : ContextSession) → Decidable (s.Stands position calls)
  | [], s => inferInstanceAs (Decidable (position < s.stack.depth))
  | call :: calls, s =>
    have := decidableStands position calls (call.perform s)
    inferInstanceAs (Decidable (position < s.stack.depth ∧ Stands position calls (call.perform s)))

variable {s : ContextSession} {c : Context} {around : List Context} {call : ContextCall}
  {calls : List ContextCall}

theorem perform_enter (hroom : s.stack.depth < s.stack.maxDepth) (c : Context) :
    (ContextCall.enter c).perform s = ⟨{ s.stack with contexts := c :: s.stack.contexts },
      s.guards ++ [some ⟨c.id, s.stack.depth⟩]⟩ := by
  simp only [ContextCall.perform, ContextStack.run_enter, hroom, ↓reduceIte]

theorem perform_enter_of_full (hfull : ¬ s.stack.depth < s.stack.maxDepth) (c : Context) :
    (ContextCall.enter c).perform s = s := by
  simp only [ContextCall.perform, ContextStack.run_enter, hfull, ↓reduceIte]

/-- What a call can do: a context is entered and gives a guard, or a guard is dropped and is gone, or
    nothing happens. -/
theorem perform_cases (call : ContextCall) (s : ContextSession) :
    (∃ context, call = .enter context ∧ s.stack.depth < s.stack.maxDepth ∧
      call.perform s = ⟨{ s.stack with contexts := context :: s.stack.contexts },
        s.guards ++ [some ⟨context.id, s.stack.depth⟩]⟩) ∨
    (∃ entry guard, s.guards[entry]? = some (some guard) ∧
      call.perform s = ⟨s.stack.dropGuard guard, s.guards.set entry none⟩) ∨
    call.perform s = s := by
  cases call with
  | enter context =>
    by_cases hroom : s.stack.depth < s.stack.maxDepth
    · exact .inl ⟨context, rfl, hroom, perform_enter hroom context⟩
    · exact .inr (.inr (perform_enter_of_full hroom context))
  | drop entry =>
    simp only [ContextCall.perform]
    split
    next guard hguard => exact .inr (.inl ⟨entry, guard, hguard, rfl⟩)
    next => exact .inr (.inr rfl)

/-- A call puts at most one context on the stack, on top of what was there. -/
theorem suffix_perform (hsuffix : c :: around <:+ (call.perform s).stack.contexts) :
    c :: around <:+ s.stack.contexts ∨ call = .enter c ∧ s.stack.contexts = around := by
  rcases perform_cases call s with ⟨context, rfl, _, hdone⟩ | ⟨_, guard, _, hdone⟩ | hsame
  · rw [hdone] at hsuffix
    rcases List.suffix_cons_iff.1 hsuffix with hnew | hold
    · cases hnew
      exact .inr ⟨rfl, rfl⟩
    · exact .inl hold
  · rw [hdone] at hsuffix
    exact .inl (hsuffix.trans (s.stack.suffix_dropGuard guard))
  · exact .inl (hsame ▸ hsuffix)

/-- What is on the stack stays there as long as the stack is deeper. -/
theorem suffix_perform_of_deep (hsuffix : c :: around <:+ s.stack.contexts)
    (hdeep : around.length < (call.perform s).stack.depth) :
    c :: around <:+ (call.perform s).stack.contexts := by
  rcases perform_cases call s with ⟨context, _, _, hdone⟩ | ⟨_, guard, _, hdone⟩ | hsame
  · rw [hdone]
    exact hsuffix.trans (List.suffix_cons context _)
  · rw [hdone] at hdeep ⊢
    exact List.suffix_of_suffix_length_le hsuffix (s.stack.suffix_dropGuard guard) hdeep
  · rwa [hsame]

theorem Stands.deep {position : Nat} (hstands : s.Stands position calls) :
    position < s.stack.depth := by
  cases calls with
  | nil => exact hstands
  | cons call calls => exact hstands.1

/-- An entry after which the stack is deeper has succeeded. -/
theorem suffix_of_entered (hstands : ((ContextCall.enter c).perform s).Stands around.length calls)
    (haround : s.stack.contexts = around) :
    c :: around <:+ ((ContextCall.enter c).perform s).stack.contexts := by
  have hdeep := hstands.deep
  by_cases hroom : s.stack.depth < s.stack.maxDepth
  · rw [perform_enter hroom, haround]
  · rw [perform_enter_of_full hroom, ← haround] at hdeep
    exact absurd hdeep (Nat.lt_irrefl _)

/-- What stands on the stack after a run stood there all along, or has been entered in the run with the same
    contexts around it and has stood there since. -/
theorem suffix_run_iff : c :: around <:+ (s.run calls).stack.contexts ↔
    (c :: around <:+ s.stack.contexts ∧ s.Stands around.length calls) ∨
    ∃ first last, calls = first ++ .enter c :: last ∧ (s.run first).stack.contexts = around ∧
      ((ContextCall.enter c).perform (s.run first)).Stands around.length last := by
  induction calls generalizing s with
  | nil =>
    refine ⟨fun hsuffix => .inl ⟨hsuffix, hsuffix.length_le⟩, ?_⟩
    rintro (⟨hsuffix, _⟩ | ⟨first, last, hnone, _⟩)
    · exact hsuffix
    · exact absurd hnone (by simp)
  | cons call calls ih =>
    change c :: around <:+ ((call.perform s).run calls).stack.contexts ↔ _
    rw [ih]
    constructor
    · rintro (⟨hsuffix, hstands⟩ | ⟨first, last, rfl, haround, hstands⟩)
      · rcases suffix_perform hsuffix with hold | ⟨rfl, haround⟩
        · exact .inl ⟨hold, hold.length_le, hstands⟩
        · exact .inr ⟨[], calls, rfl, haround, hstands⟩
      · exact .inr ⟨call :: first, last, rfl, haround, hstands⟩
    · rintro (⟨hsuffix, _, hstands⟩ | ⟨first, last, hcalls, haround, hstands⟩)
      · exact .inl ⟨suffix_perform_of_deep hsuffix hstands.deep, hstands⟩
      · cases first with
        | nil =>
          cases hcalls
          exact .inl ⟨suffix_of_entered hstands haround, hstands⟩
        | cons other first =>
          cases hcalls
          exact .inr ⟨first, last, rfl, haround, hstands⟩

/-- A property that every call preserves holds at the end of every run. -/
theorem run_induction {P : ContextSession → Prop}
    (hstep : ∀ (call : ContextCall) s, P s → P (call.perform s))
    (hstart : P s) (calls : List ContextCall) : P (s.run calls) := by
  induction calls generalizing s with
  | nil => exact hstart
  | cons call calls ih => exact ih (hstep call s hstart)

/-- What holds of a stack and its guards after every run. -/
structure Sound (maxDepth : Nat) (s : ContextSession) : Prop where
  maxDepth_eq : s.stack.maxDepth = maxDepth
  depth_le : s.stack.depth ≤ maxDepth
  /-- Every context on the stack has a guard that has not been dropped. -/
  guarded : ∀ c around, c :: around <:+ s.stack.contexts →
    ∃ entry : Nat, s.guards[entry]? = some (some ⟨c.id, around.length⟩)

theorem sound_start (maxDepth : Nat) : (start maxDepth).Sound maxDepth where
  maxDepth_eq := rfl
  depth_le := Nat.zero_le _
  guarded := by
    intro c around hsuffix
    exact absurd hsuffix.length_le (Nat.not_succ_le_zero _)

namespace Sound

variable {maxDepth : Nat}

/-- The guard of a context that stands is not dropped without revoking the context. -/
theorem guarded_drop (hsound : s.Sound maxDepth) {entry : Nat} {guard : ContextGuard}
    (hguard : s.guards[entry]? = some (some guard))
    (hsuffix : c :: around <:+ (s.stack.dropGuard guard).contexts) :
    ∃ other : Nat, (s.guards.set entry none)[other]? = some (some ⟨c.id, around.length⟩) := by
  have hbefore := hsuffix.trans (s.stack.suffix_dropGuard guard)
  obtain ⟨other, hother⟩ := hsound.guarded c around hbefore
  refine ⟨other, ?_⟩
  by_cases hsame : entry = other
  · rw [← hsame, hguard, Option.some.injEq, Option.some.injEq] at hother
    rw [hother, ContextStack.dropGuard_of_suffix hbefore] at hsuffix
    exact absurd hsuffix.length_le (Nat.not_succ_le_self _)
  · rw [List.getElem?_set_ne hsame, hother]

theorem perform (hsound : s.Sound maxDepth) (call : ContextCall) :
    (call.perform s).Sound maxDepth := by
  rcases perform_cases call s with ⟨context, _, hroom, hdone⟩ | ⟨entry, guard, hguard, hdone⟩ | hsame
  · rw [hdone]
    refine ⟨hsound.maxDepth_eq, hsound.maxDepth_eq ▸ hroom, fun c around hsuffix => ?_⟩
    rcases List.suffix_cons_iff.1 hsuffix with hnew | hold
    · cases hnew
      exact ⟨s.guards.length, List.getElem?_concat_length⟩
    · obtain ⟨entry, hguard⟩ := hsound.guarded c around hold
      refine ⟨entry, ?_⟩
      rw [List.getElem?_append_left (List.getElem?_eq_some_iff.1 hguard).1, hguard]
  · rw [hdone]
    refine ⟨?_, ?_, fun c around hsuffix => hsound.guarded_drop hguard hsuffix⟩
    · rw [ContextStack.maxDepth_dropGuard, hsound.maxDepth_eq]
    · exact (s.stack.suffix_dropGuard guard).length_le.trans hsound.depth_le
  · rwa [hsame]

end Sound

theorem sound_run (maxDepth : Nat) (calls : List ContextCall) :
    ((start maxDepth).run calls).Sound maxDepth :=
  run_induction (fun call _ hsound => hsound.perform call) (sound_start maxDepth) calls

/-! Contexts with numbers of their own. -/

section Fresh

variable {first last : List ContextCall} {d : Context}

theorem id_ne_of_later (hfresh : ((first ++ .enter c :: last).filterMap (·.id?)).Nodup)
    (hlater : .enter d ∈ last) : d.id ≠ c.id := by
  intro hid
  rw [List.filterMap_append, List.nodup_append] at hfresh
  have hnew : c.id ∉ last.filterMap (·.id?) := (List.nodup_cons.1 hfresh.2.1).1
  exact hnew (List.mem_filterMap.2 ⟨.enter d, hlater, congrArg some hid⟩)

/-- A context is entered once, so it stands where it was entered then. -/
theorem entry_unique {first' last' : List ContextCall}
    (hfresh : ((first ++ .enter c :: last).filterMap (·.id?)).Nodup)
    (hsame : first ++ .enter c :: last = first' ++ .enter d :: last') (hid : d.id = c.id) :
    d = c ∧ first' = first := by
  rcases List.append_eq_append_iff.1 hsame with ⟨between, hfirst, hrest⟩ | ⟨between, hfirst, hrest⟩
  · cases between with
    | nil =>
      cases hrest
      exact ⟨rfl, by simpa using hfirst⟩
    | cons call between =>
      cases hrest
      exact absurd hid (id_ne_of_later hfresh (by simp))
  · cases between with
    | nil =>
      cases hrest
      exact ⟨rfl, by simpa using hfirst.symm⟩
    | cons call between =>
      cases hrest
      rw [hsame] at hfresh
      exact absurd hid.symm (id_ne_of_later hfresh (by simp))

/-- Whatever has the number of a context stands with the contexts around it that were there when the
    context was entered. -/
theorem around_of_suffix_run {maxDepth : Nat}
    (hfresh : ((first ++ .enter c :: last).filterMap (·.id?)).Nodup)
    (hsuffix : d :: around <:+ ((start maxDepth).run (first ++ .enter c :: last)).stack.contexts)
    (hid : d.id = c.id) : d = c ∧ around = ((start maxDepth).run first).stack.contexts := by
  rcases suffix_run_iff.1 hsuffix with ⟨hnone, _⟩ | ⟨entered, since, hcalls, haround, _⟩
  · exact absurd hnone.length_le (Nat.not_succ_le_zero _)
  · obtain ⟨hsame, rfl⟩ := entry_unique hfresh hcalls hid
    exact ⟨hsame, haround.symm⟩

end Fresh

/-- Guards revoke exactly what they should, whatever contexts are entered, each under a number of its own,
    and in whatever order guards are dropped. The depth stays within its limit; entering fails at the limit
    only, and then changes nothing. Dropping the guard of a context that is on the stack leaves the stack
    into which the context was entered; dropping the guard of any other context changes nothing, whatever
    stands in its place by now. What is on the stack has a guard that has not been dropped, so without such
    guards the stack is empty. -/
theorem guards_revoke_own_of_run (maxDepth : Nat) (calls : List ContextCall)
    (hfresh : (calls.filterMap (·.id?)).Nodup) :
    let s := (start maxDepth).run calls
    s.stack.depth ≤ maxDepth ∧
    (∀ c, (∃ failure stack, (ContextStack.enter c).run s.stack = .error failure stack) ↔
      s.stack.depth = maxDepth) ∧
    (∀ c failure stack, (ContextStack.enter c).run s.stack = .error failure stack → stack = s.stack) ∧
    (∀ earlier c later, calls = earlier ++ .enter c :: later →
      let before := (start maxDepth).run earlier
      ∀ guard entered, (ContextStack.enter c).run before.stack = .ok guard entered →
        (c ∈ s.stack.contexts → s.stack.dropGuard guard = before.stack) ∧
        (c ∉ s.stack.contexts → s.stack.dropGuard guard = s.stack)) ∧
    (∀ position c, s.stack.at? position = some c →
      ∃ entry : Nat, s.guards[entry]? = some (some ⟨c.id, position⟩)) ∧
    ((∀ guard, some guard ∉ s.guards) → s.stack.contexts = []) := by
  intro s
  have hsound : s.Sound maxDepth := sound_run maxDepth calls
  refine ⟨hsound.depth_le, fun c => ?fails, fun c failure stack hfails => ?unchanged,
    fun earlier c later hcalls guard entered henter => ?drop, fun position c hat => ?guarded,
    fun hdropped => ?empty⟩
  case fails =>
    rw [ContextStack.run_enter, hsound.maxDepth_eq]
    have hle := hsound.depth_le
    by_cases hroom : s.stack.depth < maxDepth
    · simp [hroom, Nat.ne_of_lt hroom]
    · simp [Nat.le_antisymm hle (Nat.not_lt.1 hroom)]
  case unchanged =>
    rw [ContextStack.run_enter] at hfails
    split at hfails
    · cases hfails
    · cases hfails
      rfl
  case drop =>
    subst hcalls
    obtain ⟨rfl, _⟩ := ContextStack.enter_eq_ok henter
    constructor
    · intro hmem
      obtain ⟨inner, around, hsplit⟩ := List.append_of_mem hmem
      have hsuffix : c :: around <:+ s.stack.contexts := ⟨inner, hsplit.symm⟩
      obtain ⟨_, rfl⟩ := around_of_suffix_run hfresh hsuffix rfl
      refine (ContextStack.dropGuard_of_suffix hsuffix).trans ?_
      rw [hsound.maxDepth_eq.trans (sound_run maxDepth earlier).maxDepth_eq.symm]
    · intro hmem
      refine ContextStack.dropGuard_eq_self fun d around hsuffix _ hid => hmem ?_
      obtain ⟨rfl, _⟩ := around_of_suffix_run hfresh hsuffix hid
      exact hsuffix.subset List.mem_cons_self
  case guarded =>
    obtain ⟨around, hsuffix, rfl⟩ := ContextStack.at?_eq_some_iff.1 hat
    exact hsound.guarded c around hsuffix
  case empty =>
    cases hcontexts : s.stack.contexts with
    | nil => rfl
    | cons c around =>
      obtain ⟨entry, hguard⟩ := hsound.guarded c around (hcontexts ▸ List.suffix_rfl)
      exact absurd (List.mem_of_getElem? hguard) (hdropped _)

def maintenance : Context := ⟨⟨1⟩, "maintenance", .deny (.ofList ["Assignable"]), .everyone⟩

def sandbox : Context := ⟨⟨2⟩, "sandbox", .allow (.ofList ["Assignable"]), .everyone⟩

def review : Context := ⟨⟨3⟩, "review", .deny (.ofList ["Urgent"]), .everyone⟩

/-- The outer of two contexts takes the inner one with it; another context is entered in its place. -/
def outerFirst : List ContextCall := [.enter maintenance, .enter sandbox, .drop 0, .enter review]

/-- The sandbox was revoked together with what was around it, so its guard finds nothing to revoke; the
    review is revoked by its own guard. -/
theorem guards_revoke_own_outerFirst : ∃ entered,
    (outerFirst.filterMap (·.id?)).Nodup ∧
    ((start 2).run outerFirst).stack.contexts = [review] ∧
    ((start 2).run [.enter maintenance, .enter sandbox]).stack.depth = 2 ∧
    (∃ failure stack, (ContextStack.enter review).run
      ((start 2).run [.enter maintenance, .enter sandbox]).stack = .error failure stack) ∧
    (ContextStack.enter sandbox).run ((start 2).run [.enter maintenance]).stack =
      .ok ⟨⟨2⟩, 1⟩ entered ∧
    sandbox ∉ ((start 2).run outerFirst).stack.contexts ∧
    ((start 2).run outerFirst).stack.dropGuard ⟨⟨2⟩, 1⟩ = ((start 2).run outerFirst).stack ∧
    ((start 2).run outerFirst).stack.dropGuard ⟨⟨3⟩, 0⟩ = .empty 2 ∧
    ((start 2).run outerFirst).stack.at? 0 = some review ∧
    (∃ entry : Nat, ((start 2).run outerFirst).guards[entry]? = some (some ⟨⟨3⟩, 0⟩)) ∧
    (∀ guard, some guard ∉ ((start 2).run (outerFirst ++ [.drop 1, .drop 2])).guards) ∧
    ((start 2).run (outerFirst ++ [.drop 1, .drop 2])).stack.contexts = [] := by
  have hfresh : (outerFirst.filterMap (·.id?)).Nodup := by decide
  have hgone : sandbox ∉ ((start 2).run outerFirst).stack.contexts := by
    intro hmem
    rcases List.mem_singleton.1 hmem with hsame
    exact absurd (congrArg Context.id hsame) (by decide)
  have hnone : ∀ guard, some guard ∉ ((start 2).run (outerFirst ++ [.drop 1, .drop 2])).guards := by
    intro guard hmem
    have hguards : ((start 2).run (outerFirst ++ [.drop 1, .drop 2])).guards = [none, none, none] := rfl
    simp [hguards] at hmem
  obtain ⟨_, hfails, _⟩ := guards_revoke_own_of_run 2 [.enter maintenance, .enter sandbox] (by decide)
  obtain ⟨_, _, _, hdrop, hguarded, _⟩ := guards_revoke_own_of_run 2 outerFirst hfresh
  obtain ⟨_, _, _, _, _, hempty⟩ :=
    guards_revoke_own_of_run 2 (outerFirst ++ [.drop 1, .drop 2]) (by decide)
  refine ⟨_, hfresh, rfl, rfl, (hfails review).2 rfl, rfl, hgone, ?_, ?_, rfl, hguarded 0 review rfl,
    hnone, hempty hnone⟩
  · exact (hdrop [.enter maintenance] sandbox [.drop 0, .enter review] rfl _ _ rfl).2 hgone
  · exact (hdrop [.enter maintenance, .enter sandbox, .drop 0] review [] rfl _ _ rfl).1
      List.mem_cons_self

/-- A context of that number has been entered in the course of the calls, with these contexts around it, and
    still stands there. -/
def Reentered (id : ContextId) (around : List Context) (calls : List ContextCall)
    (s : ContextSession) : Prop :=
  ∃ first c last, calls = first ++ .enter c :: last ∧ c.id = id ∧
    (s.run first).stack.contexts = around ∧
    ((ContextCall.enter c).perform (s.run first)).Stands around.length last

/-- Contexts may be entered more than once. Then a guard whose own context has been revoked leaves the stack
    alone exactly as long as no context with its number stands in its place again; otherwise it revokes that
    one, with everything inside. -/
theorem dropGuard_revoked_iff (maxDepth : Nat) (earlier later : List ContextCall) (c : Context) :
    let before := (start maxDepth).run earlier
    let entered := (ContextCall.enter c).perform before
    let s := entered.run later
    ∀ guard stack, (ContextStack.enter c).run before.stack = .ok guard stack →
      ¬ entered.Stands before.stack.depth later →
      (s.stack.dropGuard guard = s.stack ↔
        ∀ around, around.length = before.stack.depth → ¬ entered.Reentered c.id around later) ∧
      ∀ around, around.length = before.stack.depth → entered.Reentered c.id around later →
        s.stack.dropGuard guard = { s.stack with contexts := around } := by
  intro before entered s guard stack henter hrevoked
  obtain ⟨rfl, _⟩ := ContextStack.enter_eq_ok henter
  have hagain : ∀ around, around.length = before.stack.depth → entered.Reentered c.id around later →
      s.stack.dropGuard ⟨c.id, before.stack.depth⟩ = { s.stack with contexts := around } ∧
        around.length < s.stack.depth := by
    rintro around hposition ⟨first, d, last, hlater, hid, haround, hstands⟩
    have hsuffix : d :: around <:+ s.stack.contexts :=
      suffix_run_iff.2 (.inr ⟨first, last, hlater, haround, hstands⟩)
    rw [← hid, ← hposition]
    exact ⟨ContextStack.dropGuard_of_suffix hsuffix, hsuffix.length_le⟩
  refine ⟨⟨fun hsame around hposition hreentered => ?_, fun hnone => ?_⟩,
    fun around hposition hreentered => (hagain around hposition hreentered).1⟩
  · obtain ⟨hdropped, hdeep⟩ := hagain around hposition hreentered
    rw [hsame] at hdropped
    rw [hdropped] at hdeep
    exact Nat.lt_irrefl _ hdeep
  · refine ContextStack.dropGuard_eq_self
      fun d around hsuffix (hposition : around.length = before.stack.depth) hid => ?_
    rcases suffix_run_iff.1 hsuffix with ⟨_, hstands⟩ | ⟨first, last, hlater, haround, hstands⟩
    · exact hrevoked (hposition ▸ hstands)
    · exact hnone around hposition ⟨first, d, last, hlater, hid, haround, hstands⟩

/-- The sandbox is revoked together with what was around it and entered again, in the same place. -/
def sandboxAgain : List ContextCall := [.drop 0, .enter review, .enter sandbox]

theorem dropGuard_revoked_sandboxAgain :
    let entered := (ContextCall.enter sandbox).perform ((start 8).run [.enter maintenance])
    (∃ stack, (ContextStack.enter sandbox).run ((start 8).run [.enter maintenance]).stack =
      .ok ⟨⟨2⟩, 1⟩ stack) ∧
    ¬ entered.Stands 1 sandboxAgain ∧ entered.Reentered ⟨2⟩ [review] sandboxAgain ∧
    (entered.run sandboxAgain).stack.dropGuard ⟨⟨2⟩, 1⟩ =
      { (entered.run sandboxAgain).stack with contexts := [review] } := by
  intro entered
  have hrevoked : ¬ entered.Stands 1 sandboxAgain := by decide
  have hreentered : entered.Reentered ⟨2⟩ [review] sandboxAgain :=
    ⟨[.drop 0, .enter review], sandbox, [], rfl, rfl, rfl, by decide⟩
  obtain ⟨_, hdropped⟩ :=
    dropGuard_revoked_iff 8 [.enter maintenance] sandboxAgain sandbox ⟨⟨2⟩, 1⟩ _ rfl hrevoked
  exact ⟨⟨_, rfl⟩, hrevoked, hreentered, hdropped [review] rfl hreentered⟩

/-- The guard of the first entry still revokes the second, whose own guard has not been dropped, and what
    the sandbox denied is permitted. -/
theorem revoked_guard_widens :
    let entered := (ContextCall.enter sandbox).perform ((start 8).run [.enter maintenance])
    let s := entered.run sandboxAgain
    s.guards = [none, some ⟨⟨2⟩, 1⟩, some ⟨⟨3⟩, 0⟩, some ⟨⟨2⟩, 1⟩] ∧ ¬ entered.Stands 1 sandboxAgain ∧
    s.stack.dropGuard ⟨⟨2⟩, 1⟩ ≠ s.stack ∧
    s.stack.permits ⟨1⟩ "Admin" = false ∧
    (s.stack.dropGuard ⟨⟨2⟩, 1⟩).permits ⟨1⟩ "Admin" = true := by
  intro entered s
  refine ⟨rfl, by decide, fun hsame => ?_, rfl, rfl⟩
  have hdepth : (s.stack.dropGuard ⟨⟨2⟩, 1⟩).depth = s.stack.depth := congrArg ContextStack.depth hsame
  exact absurd hdepth (by decide)

end ContextSession

end CapabilityArena
