import CapabilityArena.Entity

/-!
Definitions of capabilities. A concept is a contract: fields with shapes, and methods. A modifier can come
and go; it changes the fields when it does. A group is a list of capabilities that are applied together.
-/

namespace CapabilityArena

/-- The body of a method, given its arguments. -/
abbrev Method := List Value → StateChange Value

/-- What a modifier does to the fields when it is attached or detached. -/
abbrev Hook := StateChange Unit

/-- The shapes that fields must have. -/
abbrev FieldShapes := Dictionary String Shape

structure Concept where
  name : String
  expects : FieldShapes
  methods : Dictionary String Method
  machine : Option String

structure Modifier where
  name : String
  declares : FieldShapes
  onAdd : Option Hook
  onRemove : Option Hook
  methods : Dictionary String Method
  machine : Option String

structure Group where
  name : String
  members : List String
  deriving DecidableEq

/-- A field of a declarative modifier with the value that it starts with. -/
structure Field where
  key : String
  shape : Shape
  default : Value

namespace Modifier

/-- Writes all defaults in order. -/
def writeDefaults (fields : List Field) : Hook :=
  modify fun state => fields.foldl (fun state field => state.insert field.key field.default) state

def eraseFields (fields : List Field) : Hook :=
  modify fun state => fields.foldl (fun state field => state.erase field.key) state

/-- A modifier that writes its defaults when it is attached and deletes the same keys when it is
    detached. -/
def declarative (name : String) (fields : List Field) : Modifier where
  name := name
  declares := .ofList (fields.map fun field => (field.key, field.shape))
  onAdd := some (writeDefaults fields)
  onRemove := some (eraseFields fields)
  methods := .empty
  machine := none

end Modifier

/-- A definition that an entity can have active. -/
inductive Capability where
  | concept (concept : Concept)
  | modifier (modifier : Modifier)

namespace Capability

def name : Capability → String
  | .concept c => c.name
  | .modifier m => m.name

def methods : Capability → Dictionary String Method
  | .concept c => c.methods
  | .modifier m => m.methods

/-- The fields that must be there while the capability is active. -/
def shapes : Capability → FieldShapes
  | .concept c => c.expects
  | .modifier m => m.declares

def machine : Capability → Option String
  | .concept c => c.machine
  | .modifier m => m.machine

end Capability

/-- The first field, in key order, that is missing or has another shape. -/
def FieldShapes.violation? (shapes : FieldShapes) (capability : String) (state : State) :
    Option Failure :=
  shapes.entries.findSome? fun (key, expected) =>
    match state.get? key with
    | some value =>
      if expected.admits value then none
      else some (.shapeMismatch capability key expected (some value.shape))
    | none => some (.shapeMismatch capability key expected none)

def FieldShapes.check (shapes : FieldShapes) (capability : String) (state : State) :
    Except Failure Unit :=
  match shapes.violation? capability state with
  | some failure => .error failure
  | none => .ok ()

end CapabilityArena
