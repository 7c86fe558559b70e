import CapabilityArena.Context.Stack
import CapabilityArena.Heap.Basic
import CapabilityArena.Registry.Basic

/-!
Changes of one entity. A change runs on the entity alone and sees the definitions, the contexts and the
arena that it is made in; `validate` is what every entity has to satisfy when a change is over.
-/

namespace CapabilityArena

/-- What a change of an entity can see besides the entity. -/
structure Surroundings where
  registry : Registry
  contexts : ContextStack
  arena : ArenaId

/-- A change of an entity. -/
abbrev EntityOp (α : Type) := EStateM Failure Entity α

namespace Surroundings

/-- The first active capability, concepts before modifiers, whose fields are not as it requires. -/
def checkShapes (s : Surroundings) (state : State) : List String → Except Failure Unit
  | [] => .ok ()
  | name :: names =>
    match s.registry.capability? name with
    | none => .error (.unknownCapability name)
    | some capability =>
      match capability.shapes.violation? name state with
      | some failure => .error failure
      | none => checkShapes s state names

def checkStored (s : Surroundings) : List Value → Except Failure Unit
  | [] => .ok ()
  | value :: values =>
    match value.checkStorable s.arena with
    | .error failure => .error failure
    | .ok _ => checkStored s values

/-- The field that shows the state of a running machine. -/
def stateField? (r : Registry) (running : RunningMachine) : Option String :=
  (r.machines.get? running.machine).bind (·.stateKey)

/-- The field that shows the state of the machine holds that state and nothing else. -/
def checkStateField (s : Surroundings) (e : Entity) : Except Failure Unit :=
  match e.machine with
  | none => .ok ()
  | some running =>
    match stateField? s.registry running with
    | none => .ok ()
    | some key =>
      match e.state.get? key with
      | some (.str current) =>
        if current = running.current then .ok ()
        else .error (.illegalTransition running.current (Value.str current).text)
      | some other => .error (.illegalTransition running.current other.text)
      | none => .error (.illegalTransition running.current "nothing")

/-- All active capabilities have their fields, everything stored may be stored in the arena, and the field
    that shows a machine's state tells the truth. -/
def validate (s : Surroundings) (e : Entity) : Except Failure Unit := do
  s.checkShapes e.state e.active
  s.checkStored e.state.values
  s.checkStateField e

end Surroundings

namespace EntityOp

/-- A part of a change that reads only. -/
def reading {α : Type} (f : Entity → Except Failure α) : EntityOp α := do
  match f (← get) with
  | .ok a => pure a
  | .error failure => throw failure

/-- Runs a change of the fields, naming a failure after what it was run for. -/
def onState {α : Type} (change : StateChange α) (failed : String → Failure) : EntityOp α := fun e =>
  match change e.state with
  | .ok a state => .ok a { e with state := state }
  | .error reason state => .error (failed reason) { e with state := state }

def validate (s : Surroundings) : EntityOp Unit := reading s.validate

/-- A change after which the entity has to be valid. -/
def validated {α : Type} (s : Surroundings) (change : EntityOp α) : EntityOp α := do
  let a ← change
  validate s
  pure a

end EntityOp

end CapabilityArena
