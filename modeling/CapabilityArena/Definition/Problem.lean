import CapabilityArena.Value.Basic

/-!
What can be wrong with definitions: with a state machine, with a set of registrations taken together, and
with the entries of a manifest.
-/

namespace CapabilityArena

/-- Why a node of a document is no value. -/
inductive ConversionProblem where
  | unsupportedTag (tag : String)
  | keyNotText
  deriving DecidableEq

def ConversionProblem.message : ConversionProblem → String
  | .unsupportedTag tag => "unsupported tag " ++ tag
  | .keyNotText => "map keys must be strings"

inductive DefinitionProblem where
  | noStates (machine : String)
  | repeatedState (machine state : String)
  | undeclaredSource (machine source : String)
  | undeclaredTarget (machine source target : String)
  | machineRegisteredTwice (machine : String)
  | blankName
  | registeredTwice (name : String)
  | emptyGroup (group : String)
  | repeatedMember (group member : String)
  | unknownMember (group member : String)
  | unknownMachine (owner machine : String)
  | unusableDefault (modifier key : String) (problem : ConversionProblem)
  | defaultOutsideShape (modifier key : String) (default : Value) (shape : Shape)
  | notAModifier (concept : String)

def DefinitionProblem.message : DefinitionProblem → String
  | .noStates machine => "state machine " ++ machine ++ " declares no states"
  | .repeatedState machine state => "state machine " ++ machine ++ " declares " ++ state ++ " twice"
  | .undeclaredSource machine source =>
    "state machine " ++ machine ++ " has transitions from undeclared state " ++ source
  | .undeclaredTarget machine source target =>
    "state machine " ++ machine ++ " transitions " ++ source ++ " -> undeclared state " ++ target
  | .machineRegisteredTwice machine => "state machine " ++ machine ++ " registered twice"
  | .blankName => "capability names must not be empty"
  | .registeredTwice name => name ++ " registered twice"
  | .emptyGroup group => "group " ++ group ++ " has no members"
  | .repeatedMember group member => "group " ++ group ++ " lists " ++ member ++ " twice"
  | .unknownMember group member => "group " ++ group ++ " names unknown capability " ++ member
  | .unknownMachine owner machine => owner ++ " names unknown state machine " ++ machine
  | .unusableDefault modifier key problem =>
    modifier ++ "." ++ key ++ " default: " ++ problem.message
  | .defaultOutsideShape modifier key default shape =>
    modifier ++ "." ++ key ++ " default " ++ default.text ++ " is not " ++ shape.text
  | .notAModifier concept => concept ++ " is a concept, not a modifier"

end CapabilityArena
