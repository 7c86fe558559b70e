import CapabilityArena.Machine.Basic

/-!
Entities: fields, and the names of the capabilities that are active. Concepts keep the order in which they
were declared or attached and modifiers that in which they were attached; a name is active in one of the
two lists.
-/

namespace CapabilityArena

structure Entity where
  id : EntityId
  state : State
  concepts : List String
  modifiers : List String
  machine : Option RunningMachine

namespace Entity

/-- An entity without capabilities. -/
def bare (id : EntityId) (state : State) : Entity := ⟨id, state, [], [], none⟩

/-- The active names, concepts first. -/
def active (e : Entity) : List String := e.concepts ++ e.modifiers

def hasActive (e : Entity) (name : String) : Bool := e.active.contains name

/-- Removes a name wherever it is active. -/
def deactivate (e : Entity) (name : String) : Entity :=
  { e with
    concepts := e.concepts.filter (· != name)
    modifiers := e.modifiers.filter (· != name) }

/-- The fields with the shapes of their values. -/
def fieldShapes (e : Entity) : List (String × Shape) :=
  e.state.entries.map fun (key, value) => (key, value.shape)

end Entity

end CapabilityArena
