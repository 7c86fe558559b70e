import CapabilityArena.Transaction.Basic

/-!
Moving the state machine of an entity.
-/

namespace CapabilityArena.Surroundings

def runTransitionHook (m : Machine) (source target : String) : EntityOp Unit := do
  if let some hook := m.onTransition then
    EntityOp.onState (hook source target) (.hookFailed m.name)

/-- The running machine together with its definition, which must allow the move. -/
def allowedMove (s : Surroundings) (target : String) (e : Entity) :
    Except Failure (RunningMachine × Machine) := do
  match e.machine with
  | none => .error .noStateMachine
  | some running =>
    match s.registry.machines.get? running.machine with
    | none => .error (.unknownStateMachine running.machine)
    | some m => do
      running.check m target
      .ok (running, m)

/-- Moves the machine to a state. The hook runs before the new state shows. -/
def transition (s : Surroundings) (target : String) : EntityOp Unit := do
  let (running, m) ← EntityOp.reading (s.allowedMove target)
  runTransitionHook m running.current target
  modify fun e => { e with machine := e.machine.map fun r => { r with current := target } }
  if let some key := m.stateKey then
    modify fun e => { e with state := e.state.insert key (.str target) }

end CapabilityArena.Surroundings
