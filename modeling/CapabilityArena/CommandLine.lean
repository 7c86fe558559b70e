import CapabilityArena.Config
import CapabilityArena.Json.Writer
import CapabilityArena.Registry.Summary

/-!
The commands on a manifest: check that it is valid and count what it registers, or describe the registry.
-/

namespace CapabilityArena

inductive Command where
  | check (json : Bool) (manifest : String)
  | describe (manifest : String)

/-- What a command leaves behind. -/
structure Outcome where
  exitCode : Nat
  output : String
  /-- What went wrong. -/
  report : Option String

namespace Command

/-- The words among the arguments, and whether JSON is asked for, which only `check` can be. Asking for
    more detail changes no answer. -/
def words? (words : List String) (json : Bool) : List String → Option (List String × Bool)
  | [] => some (words, json)
  | arg :: rest =>
    if arg = "--" then some (words ++ rest, json)
    else if arg = "-v" ∨ arg = "--verbose" then words? words json rest
    else if arg = "--json" then
      if words.head? = some "check" then words? words true rest else none
    else if arg.toList.head? = some '-' ∧ arg ≠ "-" then none
    else words? (words ++ [arg]) json rest

/-- The command that the arguments ask for. -/
def ofArgs? (args : List String) : Option Command := do
  match ← words? [] false args with
  | (["check", manifest], json) => some (.check json manifest)
  | (["describe", manifest], _) => some (.describe manifest)
  | _ => none

def usage : String := "usage: [-v] check [--json] MANIFEST, or [-v] describe MANIFEST"

/-- How many definitions of each kind a registry holds. -/
structure Counts where
  concepts : Nat
  modifiers : Nat
  groups : Nat
  machines : Nat
  deriving DecidableEq

def counts (r : Registry) : Counts :=
  ⟨r.concepts.size, r.modifiers.size, r.groups.size, r.machines.size⟩

def Counts.text (c : Counts) : String :=
  "Manifest OK: " ++ toString c.concepts ++ " concepts, " ++ toString c.modifiers ++ " modifiers, " ++
    toString c.groups ++ " groups, " ++ toString c.machines ++ " state machines"

def Counts.toJson (c : Counts) : Json :=
  .obj [
    ("valid", .bool true),
    ("concepts", .ofNat c.concepts),
    ("modifiers", .ofNat c.modifiers),
    ("groups", .ofNat c.groups),
    ("state_machines", .ofNat c.machines)]

def manifest : Command → String
  | .check _ manifest => manifest
  | .describe manifest => manifest

/-- What the command says about a valid manifest. -/
def answer (command : Command) (r : Registry) : String :=
  match command with
  | .check false _ => (counts r).text
  | .check true _ => (counts r).toJson.pretty
  | .describe _ => r.summary.pretty

/-- A text with every line indented. -/
def indented (text : String) : String :=
  "    " ++ String.ofList (text.toList.flatMap fun c => if c = '\n' then "\n    ".toList else [c])

def failed (report : String) : Outcome := ⟨1, "", some report⟩

def run (command : Command) (files : Files) : Outcome :=
  match Manifest.load files command.manifest with
  | .error _ => failed ("Error: Failed to load manifest " ++ command.manifest)
  | .ok manifest =>
    match manifest.build with
    | .error failure =>
      failed ("Error: Invalid manifest " ++ command.manifest ++ "\n\nCaused by:\n" ++
        indented failure.message)
    | .ok registry => ⟨0, command.answer registry ++ "\n", none⟩

end Command

end CapabilityArena
