import CapabilityArena.Json.Basic
import CapabilityArena.Registry.Basic

/-!
A registry described as JSON: every definition under its kind, in the order of the names.
-/

namespace CapabilityArena

def FieldShapes.toJson (shapes : FieldShapes) : Json :=
  .obj (shapes.entries.map fun (key, shape) => (key, .str shape.text))

def Capability.summary (c : Capability) : Json :=
  .obj [
    ("name", .str c.name),
    ("kind", .str (match c with | .concept _ => "concept" | .modifier _ => "modifier")),
    ("shape", c.shapes.toJson),
    ("methods", .ofList .str c.methods.keys),
    ("state_machine", .ofOption .str c.machine)]

def Group.summary (g : Group) : Json :=
  .obj [("name", .str g.name), ("members", .ofList .str g.members)]

def Machine.summary (m : Machine) : Json :=
  .obj [
    ("name", .str m.name),
    ("states", .ofList .str m.states),
    ("transitions", .obj (m.transitions.entries.map fun (source, targets) =>
      (source, .ofList .str targets.toList))),
    ("state_key", .ofOption .str m.stateKey)]

def Registry.summary (r : Registry) : Json :=
  .obj [
    ("concepts", .ofList (fun c => (Capability.concept c).summary) r.concepts.values),
    ("modifiers", .ofList (fun m => (Capability.modifier m).summary) r.modifiers.values),
    ("groups", .ofList Group.summary r.groups.values),
    ("state_machines", .ofList Machine.summary r.machines.values)]

end CapabilityArena
