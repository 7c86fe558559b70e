import CapabilityArena.Registry.Draft
import CapabilityArena.Yaml.Node

/-!
Manifests: definitions written as data. Every entry becomes one registration, in the order machines,
concepts, modifiers, groups. A modifier of a manifest writes its defaults when it is attached and deletes
the same fields when it is detached.
-/

namespace CapabilityArena

structure MachineEntry where
  name : String
  states : List String
  transitions : Dictionary String (List String)
  stateKey : Option String
  deriving DecidableEq

structure ConceptEntry where
  name : String
  expects : FieldShapes
  machine : Option String
  deriving DecidableEq

/-- A field that a modifier declares, and the node that it starts with. -/
structure FieldEntry where
  shape : Shape
  default : Yaml.Node

structure ModifierEntry where
  name : String
  declares : Dictionary String FieldEntry
  machine : Option String

structure Manifest where
  machines : List MachineEntry
  concepts : List ConceptEntry
  modifiers : List ModifierEntry
  groups : List Group

def MachineEntry.toMachine (e : MachineEntry) : Except DefinitionProblem Machine := do
  let machine ← Machine.ofEntries? e.name e.states e.transitions.entries
  return { machine with stateKey := e.stateKey }

def ConceptEntry.toConcept (e : ConceptEntry) : Concept := ⟨e.name, e.expects, .empty, e.machine⟩

/-- A default must be a value, and of the shape that its field declares. -/
def FieldEntry.toField (modifier key : String) (e : FieldEntry) : Except DefinitionProblem Field :=
  match e.default.toValue with
  | .error problem => .error (.unusableDefault modifier key problem)
  | .ok default =>
    if e.shape.admits default then .ok ⟨key, e.shape, default⟩
    else .error (.defaultOutsideShape modifier key default e.shape)

def ModifierEntry.toModifier (e : ModifierEntry) : Except DefinitionProblem Modifier := do
  let fields ← e.declares.entries.mapM fun (key, field) => field.toField e.name key
  return { Modifier.declarative e.name fields with machine := e.machine }

namespace Manifest

def empty : Manifest := ⟨[], [], [], []⟩

/-- The definitions of all entries. The first entry that is wrong by itself stops the rest. -/
def registrations (m : Manifest) : Except DefinitionProblem (List Registration) := do
  let machines ← m.machines.mapM (·.toMachine)
  let modifiers ← m.modifiers.mapM (·.toModifier)
  return machines.map .machine ++ m.concepts.map (fun e => .concept e.toConcept) ++
    modifiers.map .modifier ++ m.groups.map .group

def build (m : Manifest) : Except Failure Registry := do
  let registrations ← m.registrations.mapError .invalidDefinition
  Registry.build registrations

end Manifest

end CapabilityArena
