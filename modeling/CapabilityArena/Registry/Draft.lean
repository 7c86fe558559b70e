import CapabilityArena.Registry.Basic
import CapabilityArena.Text.Blank

/-!
Building a registry. Definitions are registered one after another; what is wrong with one of them is noted
and does not stop the rest. When all are there the definitions are checked against each other, and the
first problem of all refuses the whole.
-/

namespace CapabilityArena

inductive Registration where
  | concept (concept : Concept)
  | modifier (modifier : Modifier)
  | group (group : Group)
  | machine (machine : Machine)

/-- What has been registered so far, and what was wrong, in order. -/
structure Draft where
  registry : Registry
  problems : List DefinitionProblem

namespace Draft

def empty : Draft := ⟨.empty, []⟩

def note (d : Draft) (problem : DefinitionProblem) : Draft :=
  { d with problems := d.problems ++ [problem] }

def isTaken (r : Registry) (name : String) : Bool :=
  r.concepts.contains name || r.modifiers.contains name || r.groups.contains name

/-- Why a concept, a modifier or a group may not have this name. -/
def nameProblem? (r : Registry) (name : String) : Option DefinitionProblem :=
  if name.toList.all Text.isBlank then some .blankName
  else if isTaken r name then some (.registeredTwice name)
  else none

/-- Registers a definition under its name, if the name is free. -/
def claiming (d : Draft) (name : String) (register : Registry → Registry) : Draft :=
  match nameProblem? d.registry name with
  | some problem => d.note problem
  | none => { d with registry := register d.registry }

def add (d : Draft) : Registration → Draft
  | .concept c => d.claiming c.name fun r => { r with concepts := r.concepts.insert c.name c }
  | .modifier m => d.claiming m.name fun r => { r with modifiers := r.modifiers.insert m.name m }
  | .group g => d.claiming g.name fun r => { r with groups := r.groups.insert g.name g }
  | .machine m =>
    if d.registry.machines.contains m.name then d.note (.machineRegisteredTwice m.name)
    else { d with registry := { d.registry with machines := d.registry.machines.insert m.name m } }

def addAll (d : Draft) (registrations : List Registration) : Draft := registrations.foldl add d

/-- What is wrong with the members of a group, from the first to the last. -/
def memberProblems (r : Registry) (group : String) (seen : List String) :
    List String → List DefinitionProblem
  | [] => []
  | member :: members =>
    (if member ∈ seen then [.repeatedMember group member] else []) ++
      (if r.isKnown member then [] else [.unknownMember group member]) ++
      memberProblems r group (member :: seen) members

def groupProblems (r : Registry) (g : Group) : List DefinitionProblem :=
  (if g.members = [] then [.emptyGroup g.name] else []) ++ memberProblems r g.name [] g.members

def machineProblems (r : Registry) (owner : String) : Option String → List DefinitionProblem
  | none => []
  | some machine =>
    if r.machines.contains machine then [] else [.unknownMachine owner machine]

/-- What is wrong with the definitions as a whole. -/
def crossProblems (r : Registry) : List DefinitionProblem :=
  r.groups.values.flatMap (groupProblems r) ++
    r.concepts.values.flatMap (fun c => machineProblems r c.name c.machine) ++
    r.modifiers.values.flatMap (fun m => machineProblems r m.name m.machine)

def finish (d : Draft) : Except Failure Registry :=
  match d.problems ++ crossProblems d.registry with
  | [] => .ok d.registry
  | problem :: _ => .error (.invalidDefinition problem)

end Draft

/-- The registry of exactly these definitions. -/
def Registry.build (registrations : List Registration) : Except Failure Registry :=
  (Draft.empty.addAll registrations).finish

end CapabilityArena
