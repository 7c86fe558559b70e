import CapabilityArena.Definition.Capability

/-!
The registry: all definitions under their names. Concepts, modifiers and groups share one set of names,
state machines have another.
-/

namespace CapabilityArena

structure Registry where
  concepts : Dictionary String Concept
  modifiers : Dictionary String Modifier
  groups : Dictionary String Group
  machines : Dictionary String Machine

namespace Registry

def empty : Registry := ⟨.empty, .empty, .empty, .empty⟩

def capability? (r : Registry) (name : String) : Option Capability :=
  match r.concepts.get? name with
  | some c => some (.concept c)
  | none => (r.modifiers.get? name).map .modifier

/-- A concept or a modifier has this name. -/
def isKnown (r : Registry) (name : String) : Bool := (r.capability? name).isSome

end Registry

end CapabilityArena
