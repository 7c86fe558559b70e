import CapabilityArena.Expr.Grammar
import CapabilityArena.Realm.Basic

/-!
The capabilities of entities in a realm: asking for them, attaching and detaching them, applying groups,
and acquiring what is missing.
-/

namespace CapabilityArena

namespace Realm

def hasExpr (r : Realm) (address : Address) (e : Expr) : Except Failure Bool := do
  let entity ← r.heap.entity address
  .ok (e.eval entity.hasActive)

/-- Whether an expression, given as text, holds of the active names. -/
def has (r : Realm) (address : Address) (source : String) : Except Failure Bool :=
  match Expr.parse source with
  | .error problem => .error (.invalidExpression problem)
  | .ok e => r.hasExpr address e

/-- The name of a modifier, and not of a concept. -/
def requireModifier (r : Realm) (name : String) : Except Failure Unit :=
  match r.registry.capability? name with
  | some (.modifier _) => .ok ()
  | some (.concept _) => .error (.invalidDefinition (.notAModifier name))
  | none => .error (.unknownCapability name)

/-- The required names that are not active. -/
def missing (r : Realm) (address : Address) (required : List String) :
    Except Failure (KeySet String) := do
  let e ← r.heap.entity address
  .ok (.ofList (required.filter (!e.hasActive ·)))

def canAcquire (r : Realm) (address : Address) (missing : KeySet String) : Except Failure Bool := do
  let e ← r.heap.entity address
  .ok (r.policy r.registry r.contexts e missing)

end Realm

/-- The names of a list that are in a set, each where it comes first. -/
def inFirstOrder (names : KeySet String) (listed : List String) : List String → List String
  | [] => listed
  | name :: rest =>
    if names.contains name && !listed.contains name then inFirstOrder names (listed ++ [name]) rest
    else inFirstOrder names listed rest

namespace RealmOp

def attach (address : Address) (name : String) : RealmOp Unit := transact address (·.attach name)

def detach (address : Address) (name : String) : RealmOp Unit := transact address (·.detach name)

def addModifier (address : Address) (name : String) : RealmOp Unit := do
  reading (·.requireModifier name)
  attach address name

def removeModifier (address : Address) (name : String) : RealmOp Unit := do
  reading (·.requireModifier name)
  detach address name

/-- Adds or removes all members of a group, or none. -/
def applyGroup (address : Address) (name : String) (direction : GroupDirection) : RealmOp Unit := do
  match (← get).registry.groups.get? name with
  | none => throw (.unknownGroup name)
  | some group => transact address (·.applyGroup name group.members direction)

/-- Attaches whatever is missing of the required names, or nothing, and gives the names attached in the
    order of the request. The policy is asked first. -/
def acquire (address : Address) (required : List String) : RealmOp (List String) := do
  let missing ← reading (·.missing address required)
  if missing.isEmpty then return []
  if !(← reading (·.canAcquire address missing)) then
    throw (.permissionDenied (", ".intercalate missing.toList) .acquisitionPolicy)
  let ordered := inFirstOrder missing [] required
  transact address (·.applyGroup "acquire" ordered .add)
  pure ordered

end RealmOp

end CapabilityArena
