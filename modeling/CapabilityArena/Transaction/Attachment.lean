import CapabilityArena.Transaction.Basic

/-!
Attaching and detaching capabilities, one at a time or several under the name of a group.
-/

namespace CapabilityArena

/-- The direction of a group. -/
inductive GroupDirection where
  | add
  | remove
  deriving DecidableEq

namespace Surroundings

def capability (s : Surroundings) (name : String) : Except Failure Capability :=
  match s.registry.capability? name with
  | some capability => .ok capability
  | none => .error (.unknownCapability name)

/-- The first active capability that has a method of this name. -/
def provider? (s : Surroundings) (e : Entity) (method : String) : Option String :=
  e.active.find? fun name =>
    (s.registry.capability? name).any (·.methods.contains method)

/-- The first active capability that brings a state machine. -/
def machineOwner? (s : Surroundings) (e : Entity) : Option String :=
  e.active.find? fun name => (s.registry.capability? name).any (·.machine.isSome)

/-- The first method, in the order of names, that an active capability provides already. -/
def methodClash? (s : Surroundings) (e : Entity) (incoming : Capability) : Option Failure :=
  incoming.methods.keys.findSome? fun method =>
    (s.provider? e method).map fun first => .ambiguousCapability method first incoming.name

/-- A second state machine. -/
def machineClash? (s : Surroundings) (e : Entity) (incoming : Capability) : Option Failure :=
  match incoming.machine, e.machine with
  | some machine, some _ =>
    some (.ambiguousCapability machine ((s.machineOwner? e).getD "entity") incoming.name)
  | _, _ => none

def checkAmbiguity (s : Surroundings) (e : Entity) (incoming : Capability) : Except Failure Unit :=
  match (s.methodClash? e incoming).or (s.machineClash? e incoming) with
  | some failure => .error failure
  | none => .ok ()

/-- Lets a capability in: it is known, not active, permitted and clashes with nothing. -/
def admission (s : Surroundings) (name : String) (e : Entity) : Except Failure Capability := do
  let capability ← s.capability name
  if e.hasActive name then .error (.alreadyPresent name)
  s.contexts.check e.id name
  s.checkAmbiguity e capability
  .ok capability

/-- Runs what a modifier does on attaching and adds the name to the active ones. -/
def activate (name : String) : Capability → EntityOp Unit
  | .concept _ => modify fun e => { e with concepts := e.concepts ++ [name] }
  | .modifier m => do
    if let some hook := m.onAdd then EntityOp.onState hook (.hookFailed name)
    modify fun e => { e with modifiers := e.modifiers ++ [name] }

/-- Starts the machine that a capability brings. -/
def installMachine (s : Surroundings) : Option String → EntityOp Unit
  | none => pure ()
  | some machine =>
    match s.registry.machines.get? machine with
    | none => throw (.unknownStateMachine machine)
    | some m => do
      if let some key := m.stateKey then
        modify fun e => { e with state := e.state.insert key (.str m.initial) }
      modify fun e => { e with machine := some m.start }

/-- Attaches a capability. What stops it first is reported: it is unknown, active already, not permitted,
    or clashes; then its hook, and last the state of the entity afterwards. -/
def attach (s : Surroundings) (name : String) : EntityOp Unit := do
  let capability ← EntityOp.reading (s.admission name)
  activate name capability
  s.installMachine capability.machine
  EntityOp.validate s

/-- Lets a capability go: it is known, active and permitted. -/
def dismiss (s : Surroundings) (name : String) (e : Entity) : Except Failure Capability := do
  let capability ← s.capability name
  if !e.hasActive name then .error (.notPresent name)
  s.contexts.check e.id name
  .ok capability

/-- Runs what a modifier does on detaching. -/
def runRemoval (name : String) : Capability → EntityOp Unit
  | .concept _ => pure ()
  | .modifier m => do
    if let some hook := m.onRemove then EntityOp.onState hook (.hookFailed name)

/-- Stops the machine that a capability brought, and deletes the field that showed its state. -/
def removeMachine (s : Surroundings) : Option String → EntityOp Unit
  | none => pure ()
  | some machine => do
    if let some key := (s.registry.machines.get? machine).bind (·.stateKey) then
      modify fun e => { e with state := e.state.erase key }
    modify fun e => { e with machine := none }

/-- Detaches a capability. The fields that a concept required stay. -/
def detach (s : Surroundings) (name : String) : EntityOp Unit := do
  let capability ← EntityOp.reading (s.dismiss name)
  runRemoval name capability
  modify (·.deactivate name)
  s.removeMachine capability.machine
  EntityOp.validate s

/-- Attaches or detaches one member. -/
def applyMember (s : Surroundings) (direction : GroupDirection) (member : String) : EntityOp Unit :=
  match direction with
  | .add => s.attach member
  | .remove => s.detach member

/-- Runs a change in the name of a member of a group. -/
def inGroup (group member : String) (change : EntityOp Unit) : EntityOp Unit := fun e =>
  match change e with
  | .ok _ e => .ok () e
  | .error cause e => .error (.groupApplicationFailed group member cause) e

def applyMembers (s : Surroundings) (group : String) (direction : GroupDirection) :
    List String → EntityOp Unit
  | [] => pure ()
  | member :: members => do
    inGroup group member (s.applyMember direction member)
    applyMembers s group direction members

/-- Adds members in order, removes them in reverse order, and stops at the first that fails. -/
def applyGroup (s : Surroundings) (group : String) (members : List String)
    (direction : GroupDirection) : EntityOp Unit :=
  match direction with
  | .add => s.applyMembers group direction members
  | .remove => s.applyMembers group direction members.reverse

end Surroundings

end CapabilityArena
