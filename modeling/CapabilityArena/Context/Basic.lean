import CapabilityArena.Dictionary.Basic
import CapabilityArena.Failure

/-!
Contexts say which capability names may change. They are stacked, and the innermost context that is not
silent about a name decides; where all are silent, or there is none, the name is permitted.
-/

namespace CapabilityArena

/-- How a context treats names. -/
inductive ContextPolicy where
  /-- Denies what is not listed and leaves the rest to the contexts outside. -/
  | allow (names : KeySet String)
  /-- Denies what is listed. -/
  | deny (names : KeySet String)
  /-- Permits what is listed. -/
  | grant (names : KeySet String)

/-- The entities that a context is about. -/
inductive Governed where
  | everyone
  | entity (id : EntityId)
  deriving DecidableEq

inductive Verdict where
  | permit
  | deny
  | silent
  deriving DecidableEq

structure Context where
  id : ContextId
  label : String
  policy : ContextPolicy
  governed : Governed

namespace ContextPolicy

def names : ContextPolicy → KeySet String
  | .allow names => names
  | .deny names => names
  | .grant names => names

def verdict (p : ContextPolicy) (name : String) : Verdict :=
  match p with
  | .allow names => if names.contains name then .silent else .deny
  | .deny names => if names.contains name then .deny else .silent
  | .grant names => if names.contains name then .permit else .silent

end ContextPolicy

namespace Context

def governs (c : Context) (entity : EntityId) : Bool :=
  match c.governed with
  | .everyone => true
  | .entity id => id = entity

/-- A context is silent about entities that it does not govern. -/
def verdict (c : Context) (entity : EntityId) (name : String) : Verdict :=
  if c.governs entity then c.policy.verdict name else .silent

end Context

end CapabilityArena
