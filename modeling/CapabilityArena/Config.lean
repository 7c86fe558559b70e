import CapabilityArena.Manifest.Reading
import CapabilityArena.Path
import CapabilityArena.Realm.Basic

/-!
Configuration files: the limits of a realm, and the manifest that its registry comes from.
-/

namespace CapabilityArena

/-- Why no registry or configuration came out of a file. -/
inductive LoadFailure where
  | unreadableFile
  | malformedText
  | invalidManifest (failure : Failure)

/-- The text of a failure that does not come from reading. -/
def LoadFailure.message? : LoadFailure → Option String
  | .invalidManifest failure => some ("Invalid manifest: " ++ failure.message)
  | _ => none

/-- What files hold, by their paths. -/
abbrev Files := String → Option String

namespace Manifest

def load (files : Files) (path : String) : Except LoadFailure Manifest :=
  match files path with
  | none => .error .unreadableFile
  | some text =>
    match ofYaml? text with
    | none => .error .malformedText
    | some manifest => .ok manifest

end Manifest

structure Limits where
  maxSlotsPerArena : Nat
  maxContextDepth : Nat

def Limits.default : Limits := ⟨Heap.defaultMaxSlots, ContextStack.defaultMaxDepth⟩

structure Config where
  limits : Limits
  /-- The manifest, as the file names it. -/
  manifest : Option String

namespace Config

open Yaml

def default : Config := ⟨.default, none⟩

def limitsReading (t : Tree) : Reading Limits := do
  let fs ← Reading.fields t
  return {
    maxSlotsPerArena :=
      ← Reading.optional fs "max_slots_per_arena" Limits.default.maxSlotsPerArena Reading.count
    maxContextDepth :=
      ← Reading.optional fs "max_context_depth" Limits.default.maxContextDepth Reading.count }

def reading (t : Tree) : Reading Config := do
  let fs ← Reading.fields t
  return {
    limits := ← Reading.optional fs "limits" .default limitsReading
    manifest := ← Reading.optional fs "manifest" none (Reading.option Reading.text) }

def ofYaml? (text : String) : Option Config := do
  (← Document.ofText? text).read? default reading

def load (files : Files) (path : String) : Except LoadFailure Config :=
  match files path with
  | none => .error .unreadableFile
  | some text =>
    match ofYaml? text with
    | none => .error .malformedText
    | some config => .ok config

/-- Where the manifest is: a path that is not absolute starts from the directory of the configuration
    file. -/
def manifestPath (c : Config) (path : String) : Option String :=
  c.manifest.map fun manifest =>
    match Path.parent? path with
    | some directory => Path.join directory manifest
    | none => manifest

/-- A fresh realm as the configuration asks for, with an empty registry if it names no manifest. -/
def realm (c : Config) (files : Files) (path : String) : Except LoadFailure Realm := do
  let registry ← match c.manifestPath path with
    | none => pure Registry.empty
    | some manifest => (← Manifest.load files manifest).build.mapError .invalidManifest
  return .empty registry c.limits.maxSlotsPerArena c.limits.maxContextDepth

end Config

end CapabilityArena
