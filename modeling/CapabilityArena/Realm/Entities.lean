import CapabilityArena.Realm.Basic

/-!
Entities in a realm: making them, reading and writing their fields, calling their methods and moving their
state machines.
-/

namespace CapabilityArena

namespace Surroundings

/-- Attaches concepts to a new entity, one after another, and checks the whole. -/
def implement (s : Surroundings) : List String → EntityOp Unit
  | [] => EntityOp.validate s
  | name :: names => do
    if !s.registry.concepts.contains name then throw (.unknownCapability name)
    s.attach name
    implement s names

end Surroundings

namespace Realm

/-- The body that the first active capability with such a method gives to it. -/
def method? (r : Realm) (e : Entity) (method : String) : Option Method :=
  e.active.findSome? fun name => (r.registry.capability? name).bind (·.methods.get? method)

/-- The machine of an entity, if it shows its state in a field, and that field. -/
def shownMachine? (r : Realm) (e : Entity) : Option (Machine × String) := do
  let running ← e.machine
  let m ← r.registry.machines.get? running.machine
  let key ← m.stateKey
  some (m, key)

def getState (r : Realm) (address : Address) (key : String) : Except Failure (Option Value) := do
  let e ← r.heap.entity address
  .ok (e.state.get? key)

def currentState (r : Realm) (address : Address) : Except Failure (Option String) := do
  let e ← r.heap.entity address
  .ok (e.machine.map (·.current))

end Realm

namespace RealmOp

/-- Makes an entity with the given fields that implements the given concepts. -/
def createEntity (arena : ArenaId) (state : State) (concepts : List String) : RealmOp Address := do
  let _ ← reading (·.heap.arena arena)
  let r ← get
  set { r with nextEntity := r.nextEntity + 1 }
  match (r.surroundings arena).implement concepts (.bare ⟨r.nextEntity⟩ state) with
  | .ok _ e => onHeap (HeapOp.allocateContent arena (.entity e))
  | .error failure _ => throw failure

/-- Moves the state machine of an entity. -/
def transition (address : Address) (target : String) : RealmOp Unit :=
  transact address (·.transition target)

/-- Writes a field. Writing the field that shows the state of a machine asks for a move. -/
def setState (address : Address) (key : String) (value : Value) : RealmOp Unit := do
  let e ← reading (·.heap.entity address)
  let write := transact address fun _ => modify fun e => { e with state := e.state.insert key value }
  match (← get).shownMachine? e with
  | none => write
  | some (m, shown) =>
    if shown = key then
      match value with
      | .str target => transition address target
      | other => throw (.shapeMismatch m.name key .str (some other.shape))
    else write

/-- Deletes a field and gives what it held. -/
def removeState (address : Address) (key : String) : RealmOp (Option Value) :=
  transact address fun _ => do
    let e ← get
    set { e with state := e.state.erase key }
    pure (e.state.get? key)

def checkArguments (arena : ArenaId) : List Value → Except Failure Unit
  | [] => .ok ()
  | argument :: arguments => do
    argument.checkStorable arena
    checkArguments arena arguments

/-- Calls a method. What goes in and what comes out must be storable in the arena of the entity. -/
def invoke (address : Address) (method : String) (arguments : List Value) : RealmOp Value := do
  reading fun _ => checkArguments address.arena arguments
  let e ← reading (·.heap.entity address)
  match (← get).method? e method with
  | none => throw (.unknownMethod method)
  | some body =>
    transact address fun s => do
      let result ← EntityOp.onState (body arguments) (.methodFailed method)
      EntityOp.reading fun _ => result.checkStorable s.arena
      pure result

end RealmOp

end CapabilityArena
