import Mathlib.Data.List.Nodup
import CapabilityArena.Machine.Basic
import CapabilityArena.Proofs.Dictionary.Overwriting
import CapabilityArena.Proofs.Reading

/-!
What a machine is built from. Entries are merged one after the other into a relation that starts with every
declared state and no moves; what comes out has the moves that are listed and no others, so neither the order of
the entries nor how often they say the same makes a difference.
-/

namespace CapabilityArena.Machine

/-- Some entry for the source lists the target. -/
def Lists (entries : List (String × List String)) (source target : String) : Prop :=
  ∃ targets, (source, targets) ∈ entries ∧ target ∈ targets

/-- There is a first state, the states differ, and entries mention no others. -/
structure Declares (states : List String) (entries : List (String × List String)) : Prop where
  states_ne_nil : states ≠ []
  states_nodup : states.Nodup
  source_declared : ∀ entry ∈ entries, entry.1 ∈ states
  target_declared : ∀ entry ∈ entries, ∀ target ∈ entry.2, target ∈ states

/-- Entries that name the same sources and list the same moves, in whatever order and however often. -/
structure Agree (entries others : List (String × List String)) : Prop where
  sources : ∀ source, (∃ targets, (source, targets) ∈ entries) ↔ ∃ targets, (source, targets) ∈ others
  moves : ∀ source target, Lists entries source target ↔ Lists others source target

/-- A machine with these states, which moves as the entries say. -/
structure Follows (m : Machine) (name : String) (states : List String)
    (entries : List (String × List String)) : Prop where
  name_eq : m.name = name
  states_eq : m.states = states
  allowed?_isSome_iff : ∀ state, (m.allowed? state).isSome = true ↔ state ∈ states
  permits_iff : ∀ source target, m.permits source target = true ↔ Lists entries source target
  stateKey_eq : m.stateKey = none
  onTransition_eq : m.onTransition = none

/-- A relation contains a move. -/
def Allows (transitions : Dictionary String (KeySet String)) (source target : String) : Prop :=
  ∃ allowed, transitions.get? source = some allowed ∧ allowed.contains target = true

variable {name source target state : String} {states targets : List String} {allowed after : KeySet String}
  {entries others : List (String × List String)} {transitions merged : Dictionary String (KeySet String)}
  {m other : Machine}

theorem lists_cons : Lists ((source, targets) :: entries) state target ↔
    (state = source ∧ target ∈ targets) ∨ Lists entries state target := by
  constructor
  · rintro ⟨found, hmem, htarget⟩
    rcases List.mem_cons.1 hmem with hfirst | hmem
    · cases hfirst
      exact .inl ⟨rfl, htarget⟩
    · exact .inr ⟨found, hmem, htarget⟩
  · rintro (⟨rfl, htarget⟩ | ⟨found, hmem, htarget⟩)
    · exact ⟨targets, List.mem_cons_self, htarget⟩
    · exact ⟨found, List.mem_cons_of_mem _ hmem, htarget⟩

theorem Agree.symm (hagree : Agree entries others) : Agree others entries :=
  ⟨fun source => (hagree.sources source).symm, fun source target => (hagree.moves source target).symm⟩

theorem agree_of_mem_iff (hsame : ∀ entry, entry ∈ entries ↔ entry ∈ others) : Agree entries others :=
  ⟨fun _ => exists_congr fun _ => hsame _, fun _ _ => exists_congr fun _ => and_congr_left fun _ => hsame _⟩

theorem firstRepeated?_eq_none_iff {seen : List String} :
    firstRepeated? seen states = none ↔ states.Nodup ∧ ∀ state ∈ states, state ∉ seen := by
  induction states generalizing seen with
  | nil => simp [firstRepeated?]
  | cons state states ih =>
    rw [firstRepeated?, List.nodup_cons, List.forall_mem_cons]
    by_cases hseen : state ∈ seen
    · simp [hseen]
    · rw [if_neg hseen, ih]
      simp only [List.mem_cons, not_or]
      constructor
      · rintro ⟨hnodup, hnew⟩
        exact ⟨⟨fun hmem => (hnew state hmem).1 rfl, hnodup⟩, hseen, fun other hother => (hnew other hother).2⟩
      · rintro ⟨⟨hfirst, hnodup⟩, _, hnew⟩
        exact ⟨hnodup, fun other hother => ⟨fun hsame => hfirst (hsame ▸ hother), hnew other hother⟩⟩

/-! ### Merging entries -/

theorem addTargets_eq_ok_iff : addTargets name source states targets allowed = .ok after ↔
    (∀ target ∈ targets, target ∈ states) ∧ targets.foldl KeySet.add allowed = after := by
  induction targets generalizing allowed with
  | nil => simp [addTargets]
  | cons target targets ih =>
    rw [addTargets, List.forall_mem_cons, List.foldl_cons]
    by_cases hdeclared : target ∈ states
    · rw [if_pos hdeclared, ih]
      simp [hdeclared]
    · simp [hdeclared]

/-- An entry is merged if the relation has its source and its targets are declared. -/
theorem addEntries_cons_eq_ok_iff :
    addEntries name states ((source, targets) :: entries) transitions = .ok merged ↔
    ∃ allowed, transitions.get? source = some allowed ∧ (∀ target ∈ targets, target ∈ states) ∧
      addEntries name states entries (transitions.insert source (targets.foldl KeySet.add allowed)) =
        .ok merged := by
  rw [addEntries]
  cases hsource : transitions.get? source with
  | none => simp
  | some allowed =>
    simp only [read_bind_eq_ok, addTargets_eq_ok_iff, Option.some.injEq]
    grind

/-- What one entry changes: the sources stay, and its targets are allowed in addition. -/
theorem allows_insert (hsource : transitions.get? source = some allowed) :
    Allows (transitions.insert source (targets.foldl KeySet.add allowed)) state target ↔
      Allows transitions state target ∨ (state = source ∧ target ∈ targets) := by
  unfold Allows
  by_cases hsame : state = source
  · simp [hsame, hsource, KeySet.contains_foldl_add, or_comm]
  · simp [hsame, Dictionary.get?_insert_of_ne]

theorem contains_insert (hsource : transitions.get? source = some allowed) (added : KeySet String) :
    (transitions.insert source added).contains state = transitions.contains state := by
  by_cases hsame : state = source
  · simp [Dictionary.contains, hsame, hsource]
  · simp [Dictionary.contains, hsame, Dictionary.get?_insert_of_ne]

/-- Entries can be merged exactly if the relation has their sources and their targets are declared. -/
theorem exists_addEntries_iff : (∃ merged, addEntries name states entries transitions = .ok merged) ↔
    ∀ entry ∈ entries, transitions.contains entry.1 = true ∧ ∀ target ∈ entry.2, target ∈ states := by
  induction entries generalizing transitions with
  | nil => simp [addEntries]
  | cons entry entries ih =>
    obtain ⟨source, targets⟩ := entry
    simp only [addEntries_cons_eq_ok_iff, List.forall_mem_cons]
    constructor
    · rintro ⟨merged, allowed, hsource, htargets, hmerged⟩
      have hrest := ih.1 ⟨merged, hmerged⟩
      simp only [contains_insert hsource] at hrest
      exact ⟨⟨by simp [Dictionary.contains, hsource], htargets⟩, hrest⟩
    · rintro ⟨⟨hsource, htargets⟩, hrest⟩
      obtain ⟨allowed, hsource⟩ := Option.isSome_iff_exists.1 hsource
      obtain ⟨merged, hmerged⟩ := ih.2 fun entry hentry => by
        rw [contains_insert hsource]
        exact hrest entry hentry
      exact ⟨merged, allowed, hsource, htargets, hmerged⟩

/-- Merging keeps the sources and adds the moves that are listed. -/
theorem of_addEntries (hmerged : addEntries name states entries transitions = .ok merged) :
    (∀ state, merged.contains state = transitions.contains state) ∧
    ∀ state target, Allows merged state target ↔
      Allows transitions state target ∨ Lists entries state target := by
  induction entries generalizing transitions with
  | nil =>
    cases hmerged
    exact ⟨fun _ => rfl, fun _ _ => by simp [Lists]⟩
  | cons entry entries ih =>
    obtain ⟨source, targets⟩ := entry
    obtain ⟨allowed, hsource, _, hrest⟩ := addEntries_cons_eq_ok_iff.1 hmerged
    obtain ⟨hcontains, hallows⟩ := ih hrest
    refine ⟨fun state => (hcontains state).trans (contains_insert hsource _), fun state target => ?_⟩
    rw [hallows, allows_insert hsource, lists_cons, or_assoc]

/-! ### The machine that is built -/

theorem get?_noTransitions (hfound : (noTransitions states).get? state = some allowed) : allowed = .empty := by
  obtain ⟨_, _, hpair⟩ := List.mem_map.1 (Dictionary.mem_of_get?_ofList hfound)
  cases hpair
  rfl

theorem contains_noTransitions : (noTransitions states).contains state = true ↔ state ∈ states := by
  rw [noTransitions, Dictionary.contains_ofList_iff, List.map_map]
  simp

theorem not_allows_noTransitions : ¬Allows (noTransitions states) source target := by
  rintro ⟨allowed, hfound, htarget⟩
  rw [get?_noTransitions hfound] at htarget
  cases htarget

theorem permits_iff_allows : m.permits source target = true ↔ Allows m.transitions source target := by
  rw [permits, Option.any_eq_true]
  exact Iff.rfl

theorem ofEntries?_eq_ok_iff : ofEntries? name states entries = .ok m ↔
    states ≠ [] ∧ states.Nodup ∧ ∃ merged, addEntries name states entries (noTransitions states) = .ok merged ∧
      m.name = name ∧ m.states = states ∧ m.transitions = merged ∧ m.stateKey = none ∧ m.onTransition = none := by
  have hrepeated : firstRepeated? [] states = none ↔ states.Nodup := by simp [firstRepeated?_eq_none_iff]
  unfold ofEntries?
  split
  next hnone => simp [hnone]
  next hsome =>
    split
    next state hstate => simp [← hrepeated, hstate]
    next hunrepeated =>
      have hnodup := hrepeated.1 hunrepeated
      split
      next problem hproblem => simp [hproblem]
      next merged hmerged =>
        constructor
        · rintro hm
          cases hm
          exact ⟨hsome, hnodup, merged, hmerged, rfl, rfl, rfl, rfl, rfl⟩
        · rintro ⟨_, _, found, hfound, hname, hstates, htransitions, hkey, hhook⟩
          cases hmerged.symm.trans hfound
          cases m
          cases hname
          cases hstates
          cases htransitions
          cases hkey
          cases hhook
          rfl

theorem exists_ofEntries?_iff : (∃ m, ofEntries? name states entries = .ok m) ↔ Declares states entries := by
  constructor
  · rintro ⟨m, hm⟩
    obtain ⟨hsome, hnodup, merged, hmerged, _⟩ := ofEntries?_eq_ok_iff.1 hm
    have hentries := exists_addEntries_iff.1 ⟨merged, hmerged⟩
    simp only [contains_noTransitions] at hentries
    exact ⟨hsome, hnodup, fun entry hentry => (hentries entry hentry).1,
      fun entry hentry => (hentries entry hentry).2⟩
  · rintro ⟨hsome, hnodup, hsources, htargets⟩
    obtain ⟨merged, hmerged⟩ := exists_addEntries_iff.2 fun entry hentry =>
      ⟨contains_noTransitions.2 (hsources entry hentry), htargets entry hentry⟩
    have htargetsIn := addEntries_declared (targetsIn_noTransitions states states) hmerged
    exact ⟨⟨name, states, hsome, merged, htargetsIn, none, none⟩,
      ofEntries?_eq_ok_iff.2 ⟨hsome, hnodup, merged, hmerged, rfl, rfl, rfl, rfl, rfl⟩⟩

theorem follows_of_ofEntries? (hm : ofEntries? name states entries = .ok m) : m.Follows name states entries := by
  obtain ⟨_, _, merged, hmerged, hname, hstates, htransitions, hkey, hhook⟩ := ofEntries?_eq_ok_iff.1 hm
  obtain ⟨hcontains, hallows⟩ := of_addEntries hmerged
  refine ⟨hname, hstates, fun state => ?_, fun source target => ?_, hkey, hhook⟩
  · rw [← contains_noTransitions, ← hcontains, ← htransitions]
    rfl
  · rw [permits_iff_allows, htransitions, hallows, or_iff_right not_allows_noTransitions]

namespace Follows

variable (hm : m.Follows name states entries)

include hm

/-- A machine is determined by its states and by the moves that are listed. -/
theorem unique (hother : other.Follows name states others)
    (hmoves : ∀ source target, Lists entries source target ↔ Lists others source target) : m = other := by
  have htransitions : m.transitions = other.transitions := by
    refine Dictionary.ext_get? fun source => ?_
    change m.allowed? source = other.allowed? source
    have hsource := (hm.allowed?_isSome_iff source).trans (hother.allowed?_isSome_iff source).symm
    have htargets := fun target =>
      (hm.permits_iff source target).trans ((hmoves source target).trans (hother.permits_iff source target).symm)
    unfold permits at htargets
    cases hfirst : m.allowed? source with
    | none =>
      cases hsecond : other.allowed? source with
      | none => rfl
      | some allowed => simp [hfirst, hsecond] at hsource
    | some allowed =>
      cases hsecond : other.allowed? source with
      | none => simp [hfirst, hsecond] at hsource
      | some found =>
        simp only [hfirst, hsecond, Option.any_some] at htargets
        rw [KeySet.ext_contains htargets]
  have hname := hm.name_eq.trans hother.name_eq.symm
  have hstates := hm.states_eq.trans hother.states_eq.symm
  have hkey := hm.stateKey_eq.trans hother.stateKey_eq.symm
  have hhook := hm.onTransition_eq.trans hother.onTransition_eq.symm
  cases m
  cases other
  cases hname
  cases hstates
  cases htransitions
  cases hkey
  cases hhook
  rfl

theorem isTerminal_iff : m.isTerminal state = true ↔
    state ∈ states ∧ ∀ targets, (state, targets) ∈ entries → targets = [] := by
  have hterminal : m.isTerminal state = true ↔
      (m.allowed? state).isSome = true ∧ ∀ target, ¬m.permits state target = true := by
    unfold isTerminal permits
    cases m.allowed? state with
    | none => simp
    | some allowed => simp [Dictionary.isEmpty_iff]
  simp only [hterminal, hm.allowed?_isSome_iff, hm.permits_iff]
  refine and_congr_right fun _ => ⟨fun hnone targets hentry => ?_, fun hempty target hlists => ?_⟩
  · exact List.eq_nil_iff_forall_not_mem.2 fun target htarget => hnone target ⟨targets, hentry, htarget⟩
  · obtain ⟨targets, hentry, htarget⟩ := hlists
    rw [hempty targets hentry] at htarget
    cases htarget

theorem head?_states : states.head? = some m.initial := by
  rw [initial, ← hm.states_eq, List.head?_eq_some_head]

theorem check_start_iff : m.start.check m target = .ok () ↔ Lists entries m.initial target := by
  rw [← hm.permits_iff, RunningMachine.check, start]
  split <;> simp_all

end Follows

/-- Entries that agree are accepted together. -/
theorem Declares.of_agree (hdeclares : Declares states entries) (hagree : Agree entries others) :
    Declares states others where
  states_ne_nil := hdeclares.states_ne_nil
  states_nodup := hdeclares.states_nodup
  source_declared := by
    rintro ⟨source, targets⟩ hentry
    obtain ⟨found, hfound⟩ := (hagree.sources source).2 ⟨targets, hentry⟩
    exact hdeclares.source_declared (source, found) hfound
  target_declared := by
    rintro ⟨source, targets⟩ hentry target htarget
    obtain ⟨found, hfound, hlisted⟩ := (hagree.moves source target).2 ⟨targets, hentry, htarget⟩
    exact hdeclares.target_declared (source, found) hfound target hlisted

theorem ofEntries?_of_agree (hagree : Agree entries others) (hm : ofEntries? name states entries = .ok m) :
    ofEntries? name states others = .ok m := by
  have hdeclares : Declares states others := (exists_ofEntries?_iff.1 ⟨m, hm⟩).of_agree hagree
  obtain ⟨other, hother⟩ : ∃ other, ofEntries? name states others = .ok other := exists_ofEntries?_iff.2 hdeclares
  rwa [(follows_of_ofEntries? hm).unique (follows_of_ofEntries? hother) hagree.moves]

/-- A machine is built from states and entries exactly if there are states, they differ, and the entries mention
    no others. It then starts in the first state and moves where some entry says so; every declared state has its
    set of targets, and those for which no entry lists a target are terminal. Entries that agree make the same
    machine. -/
theorem built_as_declared (name : String) (states : List String) (entries : List (String × List String)) :
    ((∃ m, ofEntries? name states entries = .ok m) ↔ Declares states entries) ∧
    (∀ m, ofEntries? name states entries = .ok m →
      m.name = name ∧ m.states = states ∧ states.head? = some m.initial ∧
      (∀ source target, m.permits source target = true ↔
        ∃ targets, (source, targets) ∈ entries ∧ target ∈ targets) ∧
      (∀ state, (m.allowed? state).isSome = true ↔ state ∈ states) ∧
      (∀ state, m.isTerminal state = true ↔
        state ∈ states ∧ ∀ targets, (state, targets) ∈ entries → targets = []) ∧
      (∀ target, m.start.check m target = .ok () ↔
        ∃ targets, (m.initial, targets) ∈ entries ∧ target ∈ targets)) ∧
    (∀ others, Agree entries others →
      ∀ m, ofEntries? name states entries = .ok m ↔ ofEntries? name states others = .ok m) := by
  refine ⟨exists_ofEntries?_iff, fun m hm => ?_, fun others hagree m => ?_⟩
  · have hfollows := follows_of_ofEntries? hm
    exact ⟨hfollows.name_eq, hfollows.states_eq, hfollows.head?_states, hfollows.permits_iff,
      hfollows.allowed?_isSome_iff, fun _ => hfollows.isTerminal_iff, fun _ => hfollows.check_start_iff⟩
  · exact ⟨ofEntries?_of_agree hagree, ofEntries?_of_agree hagree.symm⟩

/-- A source in two entries, one of which repeats a target and the other a self-loop. -/
def letterMoves : List (String × List String) :=
  [("written", ["sent", "sent"]), ("sent", ["read"]), ("written", ["written", "sent"]), ("read", [])]

theorem built_as_declared_letter : ∃ m,
    ofEntries? "Letter" ["written", "sent", "read", "lost"] letterMoves = .ok m ∧
    m.start.check m "sent" = .ok () ∧ m.start.check m "read" ≠ .ok () ∧ m.isTerminal "read" = true ∧
    m.isTerminal "lost" = true ∧ m.isTerminal "found" = false ∧
    ofEntries? "Letter" ["written", "sent", "read", "lost"] (letterMoves.reverse ++ letterMoves) = .ok m ∧
    ¬∃ m, ofEntries? "Letter" ["written", "sent"] letterMoves = .ok m := by
  obtain ⟨hbuilt, hmoves, hagree⟩ := built_as_declared "Letter" ["written", "sent", "read", "lost"] letterMoves
  obtain ⟨hrefused, _⟩ := built_as_declared "Letter" ["written", "sent"] letterMoves
  obtain ⟨m, hm⟩ := hbuilt.2 ⟨by decide, by decide, by decide, by decide⟩
  obtain ⟨_, _, hinitial, _, _, hterminal, hcheck⟩ := hmoves m hm
  have hstart : m.initial = "written" := (Option.some.inj hinitial).symm
  refine ⟨m, hm, ?sent, ?read, ?finished, ?lost, ?unknown, ?again, ?undeclared⟩
  case sent => exact (hcheck "sent").2 ⟨["sent", "sent"], by rw [hstart]; decide, by decide⟩
  case read =>
    rw [Ne, hcheck, hstart]
    rintro ⟨targets, hentry, htarget⟩
    have hlisted : ∀ entry ∈ letterMoves, entry.1 = "written" → "read" ∉ entry.2 := by decide
    exact hlisted _ hentry rfl htarget
  case finished =>
    have hempty : ∀ entry ∈ letterMoves, entry.1 = "read" → entry.2 = [] := by decide
    exact (hterminal "read").2 ⟨by decide, fun targets hentry => hempty _ hentry rfl⟩
  case lost =>
    have hempty : ∀ entry ∈ letterMoves, entry.1 = "lost" → entry.2 = [] := by decide
    exact (hterminal "lost").2 ⟨by decide, fun targets hentry => hempty _ hentry rfl⟩
  case unknown =>
    rw [← Bool.not_eq_true, hterminal]
    exact fun hfound => absurd hfound.1 (by decide)
  case again => exact (hagree _ (agree_of_mem_iff fun entry => by simp) m).1 hm
  case undeclared =>
    rw [hrefused]
    exact fun hdeclares => absurd hdeclares.source_declared (by decide)

end CapabilityArena.Machine
