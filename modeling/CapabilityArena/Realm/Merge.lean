import CapabilityArena.Offer.Validator
import CapabilityArena.Realm.Basic

/-!
Merging an offer into an entity. Nothing is merged before the offer has been accepted, and then all of it
or nothing.
-/

namespace CapabilityArena

namespace Registry

/-- A group stands for its members, any other name for itself. -/
def expand (r : Registry) (name : String) : List String :=
  match r.groups.get? name with
  | some group => group.members
  | none => [name]

end Registry

/-- Adds the names that are neither active nor planned yet, in order. -/
def planNames (e : Entity) (plan : List String) : List String → List String
  | [] => plan
  | name :: names =>
    if !e.hasActive name && !plan.contains name then planNames e (plan ++ [name]) names
    else planNames e plan names

namespace Realm

/-- What has to be attached to an entity for it to have all that is offered. -/
def plan (r : Realm) (e : Entity) (o : Offer) : List String :=
  planNames e [] (o.capabilities.flatMap r.registry.expand)

end Realm

namespace RealmOp

/-- Merges an offer and gives the names that were attached. -/
def merge (address : Address) (o : Offer) (validate : Validator) : RealmOp (List String) := do
  let e ← reading (·.heap.entity address)
  match validate o with
  | .error reason => throw (.negotiationRejected reason)
  | .ok _ => do
    let names := (← get).plan e o
    transact address (·.applyGroup ("offer:" ++ o.origin) names .add)
    pure names

end RealmOp

end CapabilityArena
