import CapabilityArena.Definition.Problem
import CapabilityArena.Expr.Token
import CapabilityArena.Identity

/-!
Why an operation failed. A failure keeps its cause as data; `message` puts it into words and `kind` sorts
it into one of a few classes.
-/

namespace CapabilityArena

/-- Who denied a capability. -/
inductive Denier where
  | context (label : String) (id : ContextId)
  | acquisitionPolicy
  deriving DecidableEq

def Denier.text : Denier → String
  | .context label id => label ++ " (" ++ id.text ++ ")"
  | .acquisitionPolicy => "acquire policy"

inductive Failure where
  /-- The slot is gone, or never was. -/
  | danglingAddress (address : Address)
  /-- A strong address stands where nothing counts it. -/
  | uncountedAlias (address : Address)
  /-- A weak reference points out of the arena that would hold it. -/
  | crossArenaReference (address : Address) (arena : ArenaId)
  | shapeMismatch (capability key : String) (expected : Shape) (found : Option Shape)
  /-- Two active capabilities would provide the same name. -/
  | ambiguousCapability (name first second : String)
  | alreadyPresent (name : String)
  | notPresent (name : String)
  | illegalTransition (source target : String)
  | permissionDenied (capability : String) (denier : Denier)
  | negotiationRejected (reason : String)
  /-- A change of several capabilities was undone because of one of them. -/
  | groupApplicationFailed (group member : String) (cause : Failure)
  | unknownArena (arena : ArenaId)
  | noActiveScope (arena : ArenaId)
  | scopeMismatch (arena : ArenaId) (innermost requested : ScopeId)
  | notAnEntity (address : Address)
  | notAValue (address : Address)
  | unknownCapability (name : String)
  | unknownGroup (name : String)
  | unknownMethod (name : String)
  | unknownStateMachine (name : String)
  | noStateMachine
  | hookFailed (capability reason : String)
  | methodFailed (method reason : String)
  | arenaExhausted (arena : ArenaId) (limit : Nat)
  | arenaIdsExhausted
  | contextDepthExceeded (limit : Nat)
  | invalidDefinition (problem : DefinitionProblem)
  | invalidExpression (problem : Expr.Problem)

namespace Failure

/-- The classes of failures. -/
inductive Kind where
  | danglingAddress
  | uncountedAlias
  | shapeMismatch
  | ambiguousCapability
  | alreadyPresent
  | notPresent
  | illegalTransition
  | permissionDenied
  | negotiationRejected
  | groupApplicationFailed
  | lookup
  | hook
  | limit
  | definition
  deriving DecidableEq

def kind : Failure → Kind
  | .danglingAddress _ => .danglingAddress
  | .uncountedAlias _ => .uncountedAlias
  | .crossArenaReference _ _ => .uncountedAlias
  | .shapeMismatch _ _ _ _ => .shapeMismatch
  | .ambiguousCapability _ _ _ => .ambiguousCapability
  | .alreadyPresent _ => .alreadyPresent
  | .notPresent _ => .notPresent
  | .illegalTransition _ _ => .illegalTransition
  | .permissionDenied _ _ => .permissionDenied
  | .negotiationRejected _ => .negotiationRejected
  | .groupApplicationFailed _ _ _ => .groupApplicationFailed
  | .unknownArena _ => .lookup
  | .noActiveScope _ => .lookup
  | .scopeMismatch _ _ _ => .lookup
  | .notAnEntity _ => .lookup
  | .notAValue _ => .lookup
  | .unknownCapability _ => .lookup
  | .unknownGroup _ => .lookup
  | .unknownMethod _ => .lookup
  | .unknownStateMachine _ => .lookup
  | .noStateMachine => .lookup
  | .hookFailed _ _ => .hook
  | .methodFailed _ _ => .hook
  | .arenaExhausted _ _ => .limit
  | .arenaIdsExhausted => .limit
  | .contextDepthExceeded _ => .limit
  | .invalidDefinition _ => .definition
  | .invalidExpression _ => .definition

def message : Failure → String
  | .danglingAddress a => "dangling address " ++ a.text
  | .uncountedAlias a =>
    "uncounted alias of " ++ a.text ++ ": use a scope reference or a weak reference"
  | .crossArenaReference a arena => "address " ++ a.text ++ " cannot be referenced from " ++ arena.text
  | .shapeMismatch capability key expected found =>
    capability ++ " expects " ++ Expr.Token.quoted key ++ " to be " ++ expected.text ++ ", found " ++
      Shape.foundText found
  | .ambiguousCapability name first second =>
    Expr.Token.quoted name ++ " is provided by both " ++ first ++ " and " ++ second
  | .alreadyPresent name => "capability " ++ name ++ " is already present"
  | .notPresent name => "capability " ++ name ++ " is not present"
  | .illegalTransition source target => "illegal transition from " ++ source ++ " to " ++ target
  | .permissionDenied capability denier => "capability " ++ capability ++ " denied by " ++ denier.text
  | .negotiationRejected reason => "negotiation rejected: " ++ reason
  | .groupApplicationFailed group member cause =>
    "group " ++ group ++ " rolled back at " ++ member ++ ": " ++ cause.message
  | .unknownArena arena => "unknown arena " ++ arena.text
  | .noActiveScope arena => arena.text ++ " has no active scope"
  | .scopeMismatch arena innermost requested =>
    "scope mismatch in " ++ arena.text ++ ": innermost is " ++ innermost.text ++
      ", asked to exit " ++ requested.text
  | .notAnEntity a => "slot " ++ a.text ++ " does not hold an entity"
  | .notAValue a => "slot " ++ a.text ++ " holds an entity, not a plain value"
  | .unknownCapability name => "unknown capability " ++ name
  | .unknownGroup name => "unknown group " ++ name
  | .unknownMethod name => "no active capability provides method " ++ name
  | .unknownStateMachine name => "unknown state machine " ++ name
  | .noStateMachine => "entity has no state machine"
  | .hookFailed capability reason => capability ++ " hook failed: " ++ reason
  | .methodFailed method reason => "method " ++ method ++ " failed: " ++ reason
  | .arenaExhausted arena limit => arena.text ++ " is full (" ++ toString limit ++ " slots)"
  | .arenaIdsExhausted => "no arena ids left"
  | .contextDepthExceeded limit => "context stack deeper than " ++ toString limit
  | .invalidDefinition problem => "invalid definition: " ++ problem.message
  | .invalidExpression problem => "invalid capability expression: " ++ problem.message

/-- The cause at the bottom, seen through undone groups. -/
def rootCause : Failure → Failure
  | .groupApplicationFailed _ _ cause => cause.rootCause
  | other => other

end Failure

end CapabilityArena
