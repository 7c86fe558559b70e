import CapabilityArena.Failure

/-!
State machines: declared states, the moves between them, and the machine of one entity while it runs.
A machine is built from entries that list the targets of a source; `ofEntries?` accepts them when every
state they mention is declared.
-/

namespace CapabilityArena

/-- A change of an entity's fields that may fail with a reason. What it has edited before it fails stays
    edited; taking that back is left to whoever runs it. -/
abbrev StateChange (α : Type) := EStateM String State α

/-- What runs on a move, given the states it leaves and enters. -/
abbrev TransitionHook := (source target : String) → StateChange Unit

structure Machine where
  name : String
  states : List String
  /-- There is a first state, the one in which a machine starts. -/
  states_ne_nil : states ≠ []
  /-- The targets allowed from each declared state. -/
  transitions : Dictionary String (KeySet String)
  /-- Every move leads to a declared state. -/
  target_declared : ∀ source allowed, transitions.get? source = some allowed →
    ∀ target, allowed.contains target = true → target ∈ states
  /-- The field that shows the current state. -/
  stateKey : Option String
  onTransition : Option TransitionHook

/-- The machine of one entity. -/
structure RunningMachine where
  machine : String
  current : String
  deriving DecidableEq

namespace Machine

/-- The first item that occurs before. -/
def firstRepeated? (seen : List String) : List String → Option String
  | [] => none
  | state :: rest => if state ∈ seen then some state else firstRepeated? (state :: seen) rest

/-- Every declared state, with no targets. -/
def noTransitions (states : List String) : Dictionary String (KeySet String) :=
  .ofList (states.map fun state => (state, .empty))

/-- Allows targets, as long as they are declared. -/
def addTargets (name source : String) (states : List String) :
    List String → KeySet String → Except DefinitionProblem (KeySet String)
  | [], allowed => .ok allowed
  | target :: targets, allowed =>
    if target ∈ states then addTargets name source states targets (allowed.add target)
    else .error (.undeclaredTarget name source target)

/-- Entries of one source add up. -/
def addEntries (name : String) (states : List String) :
    List (String × List String) → Dictionary String (KeySet String) →
      Except DefinitionProblem (Dictionary String (KeySet String))
  | [], transitions => .ok transitions
  | (source, targets) :: entries, transitions =>
    match transitions.get? source with
    | none => .error (.undeclaredSource name source)
    | some allowed => do
      let allowed ← addTargets name source states targets allowed
      addEntries name states entries (transitions.insert source allowed)

/-- No set of targets goes beyond the declared states. -/
def TargetsIn (states : List String) (transitions : Dictionary String (KeySet String)) : Prop :=
  ∀ source allowed, transitions.get? source = some allowed →
    ∀ target, allowed.contains target = true → target ∈ states

theorem targetsIn_insert {states : List String} {transitions : Dictionary String (KeySet String)}
    {source : String} {allowed : KeySet String} (htransitions : TargetsIn states transitions)
    (hallowed : ∀ target, allowed.contains target = true → target ∈ states) :
    TargetsIn states (transitions.insert source allowed) := by
  intro query found hfound
  by_cases hquery : query = source
  · rw [hquery, Dictionary.get?_insert_self] at hfound
    cases hfound
    exact hallowed
  · rw [Dictionary.get?_insert_of_ne _ _ hquery] at hfound
    exact htransitions query found hfound

theorem targetsIn_noTransitions (states declared : List String) :
    TargetsIn states (noTransitions declared) := by
  have hinserted : ∀ transitions, TargetsIn states transitions →
      TargetsIn states (transitions.insertAll (declared.map fun state => (state, .empty))) := by
    induction declared with
    | nil => exact fun _ htransitions => htransitions
    | cons state declared ih =>
      intro transitions htransitions
      exact ih _ (targetsIn_insert htransitions (by simp [Dictionary.contains]))
  exact hinserted .empty (by simp [TargetsIn])

theorem addTargets_declared {name source : String} {states targets : List String}
    {before after : KeySet String} (hbefore : ∀ target, before.contains target = true → target ∈ states)
    (hadd : addTargets name source states targets before = .ok after) :
    ∀ target, after.contains target = true → target ∈ states := by
  induction targets generalizing before with
  | nil =>
    cases hadd
    exact hbefore
  | cons target targets ih =>
    rw [addTargets] at hadd
    split at hadd
    next hdeclared =>
      refine ih (fun query hquery => ?_) hadd
      rcases (KeySet.contains_add ..).1 hquery with rfl | hquery
      · exact hdeclared
      · exact hbefore query hquery
    next => cases hadd

theorem addEntries_declared {name : String} {states : List String}
    {entries : List (String × List String)} {before after : Dictionary String (KeySet String)}
    (hbefore : TargetsIn states before) (hadd : addEntries name states entries before = .ok after) :
    TargetsIn states after := by
  induction entries generalizing before with
  | nil =>
    cases hadd
    exact hbefore
  | cons entry entries ih =>
    obtain ⟨source, targets⟩ := entry
    rw [addEntries] at hadd
    split at hadd
    next => cases hadd
    next allowed hallowed =>
      cases htargets : addTargets name source states targets allowed with
      | error problem =>
        rw [htargets] at hadd
        cases hadd
      | ok added =>
        rw [htargets] at hadd
        exact ih (targetsIn_insert hbefore (addTargets_declared (hbefore _ _ hallowed) htargets)) hadd

/-- The machine with these states and moves, without a field to show its state and without a hook. -/
def ofEntries? (name : String) (states : List String) (entries : List (String × List String)) :
    Except DefinitionProblem Machine :=
  if hstates : states = [] then .error (.noStates name)
  else match firstRepeated? [] states with
    | some state => .error (.repeatedState name state)
    | none =>
      match htransitions : addEntries name states entries (noTransitions states) with
      | .error problem => .error problem
      | .ok transitions =>
        .ok {
          name := name
          states := states
          states_ne_nil := hstates
          transitions := transitions
          target_declared := addEntries_declared (targetsIn_noTransitions states states) htransitions
          stateKey := none
          onTransition := none }

def withStateKey (m : Machine) (key : String) : Machine := { m with stateKey := some key }

def withHook (m : Machine) (hook : TransitionHook) : Machine := { m with onTransition := some hook }

/-- The first declared state. -/
def initial (m : Machine) : String := m.states.head m.states_ne_nil

/-- The targets allowed from a state, if it is declared. -/
def allowed? (m : Machine) (source : String) : Option (KeySet String) := m.transitions.get? source

/-- A declared state that no move leaves. -/
def isTerminal (m : Machine) (state : String) : Bool := (m.allowed? state).any (·.isEmpty)

def permits (m : Machine) (source target : String) : Bool :=
  (m.allowed? source).any (·.contains target)

theorem permits_of_isTerminal {m : Machine} {source : String}
    (hterminal : m.isTerminal source = true) (target : String) : m.permits source target = false := by
  unfold isTerminal at hterminal
  unfold permits
  cases hallowed : m.allowed? source with
  | none => rfl
  | some allowed =>
    rw [hallowed] at hterminal
    exact Dictionary.isEmpty_iff.1 hterminal target

theorem initial_mem_states (m : Machine) : m.initial ∈ m.states := List.head_mem _

theorem mem_states_of_permits {m : Machine} {source target : String}
    (hpermits : m.permits source target = true) : target ∈ m.states := by
  rw [permits] at hpermits
  cases hallowed : m.allowed? source with
  | none =>
    rw [hallowed] at hpermits
    cases hpermits
  | some allowed =>
    rw [hallowed] at hpermits
    exact m.target_declared source allowed hallowed target hpermits

/-- A machine in its first state. -/
def start (m : Machine) : RunningMachine := ⟨m.name, m.initial⟩

end Machine

/-- Whether a move is allowed from the current state. -/
def RunningMachine.check (r : RunningMachine) (m : Machine) (target : String) :
    Except Failure Unit :=
  if m.permits r.current target then .ok () else .error (.illegalTransition r.current target)

end CapabilityArena
