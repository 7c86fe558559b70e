import CapabilityArena.Transaction.Attachment
import CapabilityArena.Transaction.Transition

/-!
A realm: a heap whose entities live under one registry, one stack of contexts and one policy of
acquisition. Every change of an entity is a transaction: when it fails, or leaves the entity invalid, the
entity is put back as it was.
-/

namespace CapabilityArena

/-- Whether an entity may acquire the names that it is missing. -/
abbrev AcquisitionPolicy := Registry → ContextStack → Entity → KeySet String → Bool

namespace AcquisitionPolicy

/-- Every missing name is known and permitted. -/
def standard : AcquisitionPolicy := fun registry contexts e missing =>
  missing.toList.all fun name => registry.isKnown name && contexts.permits e.id name

end AcquisitionPolicy

structure Realm where
  registry : Registry
  heap : Heap
  contexts : ContextStack
  policy : AcquisitionPolicy
  /-- The number of the next entity; constructing one takes it even if the entity is then refused. -/
  nextEntity : Nat

/-- An operation on a realm. -/
abbrev RealmOp (α : Type) := EStateM Failure Realm α

namespace Realm

def empty (registry : Registry) (maxSlots maxContexts : Nat) : Realm where
  registry := registry
  heap := .empty maxSlots
  contexts := .empty maxContexts
  policy := AcquisitionPolicy.standard
  nextEntity := 1

def surroundings (r : Realm) (arena : ArenaId) : Surroundings := ⟨r.registry, r.contexts, arena⟩

end Realm

namespace RealmOp

/-- A part of an operation that reads only. -/
def reading {α : Type} (f : Realm → Except Failure α) : RealmOp α := do
  match f (← get) with
  | .ok a => pure a
  | .error failure => throw failure

/-- An operation on the heap alone. -/
def onHeap {α : Type} (op : HeapOp α) : RealmOp α := fun r =>
  match op r.heap with
  | .ok a heap => .ok a { r with heap := heap }
  | .error failure heap => .error failure { r with heap := heap }

/-- Stores an entity at the address that it was read from. -/
def write (address : Address) (e : Entity) : RealmOp Unit :=
  modify fun r => { r with heap := r.heap.putEntity address e }

/-- Changes the entity at an address. The change edits the stored entity; when it fails, or when the entity
    is not valid afterwards, the entity that was there before is put back. -/
def transact {α : Type} (address : Address) (change : Surroundings → EntityOp α) : RealmOp α := do
  let snapshot ← reading (·.heap.entity address)
  let s := (← get).surroundings address.arena
  match (change s).validated s snapshot with
  | .ok a e => do
    write address e
    pure a
  | .error failure e => do
    -- The edits made before the failure are in the heap until the snapshot replaces them.
    write address e
    write address snapshot
    throw failure

/-- Enters a context. -/
def enter (c : Context) : RealmOp ContextGuard := fun r =>
  match ContextStack.enter c r.contexts with
  | .ok guard contexts => .ok guard { r with contexts := contexts }
  | .error failure contexts => .error failure { r with contexts := contexts }

/-- Drops the guard of a context. -/
def dropGuard (guard : ContextGuard) : RealmOp Unit :=
  modify fun r => { r with contexts := r.contexts.dropGuard guard }

end RealmOp

end CapabilityArena
