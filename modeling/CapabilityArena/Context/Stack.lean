import CapabilityArena.Context.Basic

/-!
The stack of contexts. Entering a context gives a guard; dropping the guard revokes the context together
with every context inside it, unless an outer guard has done so before.
-/

namespace CapabilityArena

structure ContextStack where
  /-- The innermost context first. -/
  contexts : List Context
  maxDepth : Nat

/-- What entering a context gives: the context that was entered, and how many were around it. -/
structure ContextGuard where
  id : ContextId
  position : Nat
  deriving DecidableEq

namespace ContextStack

def defaultMaxDepth : Nat := 64

def empty (maxDepth : Nat) : ContextStack := ⟨[], maxDepth⟩

def depth (s : ContextStack) : Nat := s.contexts.length

/-- The labels from the outermost context to the innermost. -/
def labels (s : ContextStack) : List String := (s.contexts.map (·.label)).reverse

/-- The context that has so many around it. -/
def at? (s : ContextStack) (position : Nat) : Option Context :=
  if position < s.depth then s.contexts[s.depth - 1 - position]? else none

def enter (c : Context) : EStateM Failure ContextStack ContextGuard := do
  let s ← get
  if s.maxDepth ≤ s.depth then throw (.contextDepthExceeded s.maxDepth)
  set { s with contexts := c :: s.contexts }
  pure ⟨c.id, s.depth⟩

/-- Revokes the context of a guard, if it is still in the place where it was entered. -/
def dropGuard (s : ContextStack) (guard : ContextGuard) : ContextStack :=
  match s.at? guard.position with
  | some c =>
    if c.id = guard.id then { s with contexts := s.contexts.drop (s.depth - guard.position) } else s
  | none => s

def checkFrom (entity : EntityId) (name : String) : List Context → Except Failure Unit
  | [] => .ok ()
  | c :: outer =>
    match c.verdict entity name with
    | .silent => checkFrom entity name outer
    | .permit => .ok ()
    | .deny => .error (.permissionDenied name (.context c.label c.id))

/-- The verdict of the innermost context that is not silent. -/
def check (s : ContextStack) (entity : EntityId) (name : String) : Except Failure Unit :=
  checkFrom entity name s.contexts

def permits (s : ContextStack) (entity : EntityId) (name : String) : Bool :=
  match s.check entity name with
  | .ok _ => true
  | .error _ => false

end ContextStack

end CapabilityArena
