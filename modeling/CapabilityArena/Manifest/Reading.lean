import CapabilityArena.Manifest.Basic
import CapabilityArena.Yaml.Reading

/-!
Reading a manifest from its text. Names and the lists of states and members must be given, all else may be
left out.
-/

namespace CapabilityArena

open Yaml

namespace Manifest

def names (t : Tree) : Reading (List String) := Reading.list Reading.text t

def shape (t : Tree) : Reading Shape := Reading.word Shape.ofText? t

def machineName (fs : Reading.Fields) : Reading (Option String) :=
  Reading.optional fs "state_machine" none (Reading.option Reading.text)

def machineEntry (t : Tree) : Reading MachineEntry := do
  let fs ← Reading.fields t
  return {
    name := ← Reading.required fs "name" Reading.text
    states := ← Reading.required fs "states" names
    transitions := ← Reading.optional fs "transitions" .empty (Reading.dictionary names)
    stateKey := ← Reading.optional fs "state_key" none (Reading.option Reading.text) }

def conceptEntry (t : Tree) : Reading ConceptEntry := do
  let fs ← Reading.fields t
  return {
    name := ← Reading.required fs "name" Reading.text
    expects := ← Reading.optional fs "expects" .empty (Reading.dictionary shape)
    machine := ← machineName fs }

/-- A default lies inside five collections: the manifest, its modifiers, the entry of the modifier, what
    it declares, and the field. -/
def fieldEntry (t : Tree) : Reading FieldEntry := do
  let fs ← Reading.fields t
  return {
    shape := ← Reading.required fs "shape" shape
    default := ← Reading.optional fs "default" .null (Reading.node (Reading.depthLimit - 5)) }

def modifierEntry (t : Tree) : Reading ModifierEntry := do
  let fs ← Reading.fields t
  return {
    name := ← Reading.required fs "name" Reading.text
    declares := ← Reading.optional fs "declares" .empty (Reading.dictionary fieldEntry)
    machine := ← machineName fs }

def groupEntry (t : Tree) : Reading Group := do
  let fs ← Reading.fields t
  return {
    name := ← Reading.required fs "name" Reading.text
    members := ← Reading.required fs "members" names }

def reading (t : Tree) : Reading Manifest := do
  let fs ← Reading.fields t
  return {
    machines := ← Reading.optional fs "state_machines" [] (Reading.list machineEntry)
    concepts := ← Reading.optional fs "concepts" [] (Reading.list conceptEntry)
    modifiers := ← Reading.optional fs "modifiers" [] (Reading.list modifierEntry)
    groups := ← Reading.optional fs "groups" [] (Reading.list groupEntry) }

/-- The manifest that a text holds. -/
def ofYaml? (text : String) : Option Manifest := do
  (← Document.ofText? text).read? .empty reading

end Manifest

end CapabilityArena
