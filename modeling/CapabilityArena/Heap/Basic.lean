import CapabilityArena.Heap.Arena
import CapabilityArena.Value.References

/-!
The heap: all arenas, and the numbers of those that were torn down. An operation that fails leaves the heap
in the state in which it stopped.
-/

namespace CapabilityArena

structure Heap where
  arenas : Dictionary ArenaId Arena
  tornDown : KeySet ArenaId
  nextArena : UInt32
  /-- The number of the next scope frame of any arena. -/
  nextScope : Nat
  /-- How many slots the table of an arena may have. -/
  maxSlots : Nat

/-- An operation on a heap. -/
abbrev HeapOp (α : Type) := EStateM Failure Heap α

/-- What happened when a scope was left. -/
structure ScopeExit where
  scope : ScopeId
  /-- How many counts the frame gave back. -/
  released : Nat
  /-- The slots whose last count was among them. -/
  dropped : List Address
  tornDown : Bool

/-- Counters over the whole heap. -/
structure HeapStats where
  arenas : Nat
  liveSlots : Nat
  tombstones : Nat
  tornDown : Nat

/-- Why an arena may not store a reference. -/
def Reference.refusal? (arena : ArenaId) (r : Reference) : Option Failure :=
  if !r.weak then some (.uncountedAlias r.address)
  else if r.address.arena ≠ arena then some (.crossArenaReference r.address arena)
  else none

/-- A value may be stored when it has no strong address and no reference out of the arena; the first that
    it has is reported. -/
def Value.checkStorable (arena : ArenaId) (v : Value) : Except Failure Unit :=
  match v.references.findSome? (·.refusal? arena) with
  | some failure => .error failure
  | none => .ok ()

namespace Heap

def defaultMaxSlots : Nat := 0x100000

def empty (maxSlots : Nat) : Heap := ⟨.empty, .empty, 1, 1, maxSlots⟩

def arena (h : Heap) (id : ArenaId) : Except Failure Arena :=
  match h.arenas.get? id with
  | some a => .ok a
  | none => .error (.unknownArena id)

def hasArena (h : Heap) (id : ArenaId) : Bool := h.arenas.contains id

def isTornDown (h : Heap) (id : ArenaId) : Bool := h.tornDown.contains id

def setArena (h : Heap) (a : Arena) : Heap := { h with arenas := h.arenas.insert a.id a }

/-- A slot that is live. -/
def slot (h : Heap) (address : Address) : Except Failure Slot :=
  match (h.arenas.get? address.arena).bind (·.slot? address) with
  | some slot => if slot.isLive then .ok slot else .error (.danglingAddress address)
  | none => .error (.danglingAddress address)

def deref (h : Heap) (address : Address) : Except Failure Content := do
  let slot ← h.slot address
  match slot.content with
  | some content => .ok content
  | none => .error (.danglingAddress address)

/-- An address of another arena dangles. -/
def derefIn (h : Heap) (arena : ArenaId) (address : Address) : Except Failure Content :=
  if address.arena = arena then h.deref address else .error (.danglingAddress address)

def value (h : Heap) (address : Address) : Except Failure Value := do
  match ← h.deref address with
  | .value v => .ok v
  | .entity _ => .error (.notAValue address)

def entity (h : Heap) (address : Address) : Except Failure Entity := do
  match ← h.deref address with
  | .entity e => .ok e
  | .value _ => .error (.notAnEntity address)

/-- Zero for everything that is not live. -/
def refCount (h : Heap) (address : Address) : Nat :=
  match h.slot address with
  | .ok slot => slot.count
  | .error _ => 0

def isLive (h : Heap) (address : Address) : Bool :=
  match h.slot address with
  | .ok _ => true
  | .error _ => false

/-- A reference that does not count. -/
def downgrade (h : Heap) (address : Address) : Except Failure Value := do
  let _ ← h.slot address
  .ok (.weak address)

def stats (h : Heap) : HeapStats where
  arenas := h.arenas.size
  liveSlots := (h.arenas.values.map (·.live.size)).foldl (· + ·) 0
  tombstones := (h.arenas.values.map fun a => a.slots.size - a.live.size).foldl (· + ·) 0
  tornDown := h.tornDown.size

/-- Stores an entity in place of the content of a slot that it was read from. -/
def putEntity (h : Heap) (address : Address) (e : Entity) : Heap :=
  match h.arenas.get? address.arena with
  | none => h
  | some a =>
    match a.slot? address with
    | none => h
    | some slot => h.setArena (a.replaceSlot address { slot with content := some (.entity e) })

end Heap

namespace HeapOp

/-- A part of an operation that reads only. -/
def reading {α : Type} (f : Heap → Except Failure α) : HeapOp α := do
  match f (← get) with
  | .ok a => pure a
  | .error failure => throw failure

def createArena : HeapOp ArenaId := do
  let h ← get
  if h.nextArena = 0xffffffff then throw .arenaIdsExhausted
  let id : ArenaId := ⟨h.nextArena⟩
  set { h.setArena (.opened id ⟨h.nextScope⟩) with
    nextArena := h.nextArena + 1
    nextScope := h.nextScope + 1 }
  pure id

def enterScope (id : ArenaId) : HeapOp ScopeId := do
  let a ← reading (·.arena id)
  let h ← get
  let scope : ScopeId := ⟨h.nextScope⟩
  set { h.setArena { a with frames := ⟨scope, []⟩ :: a.frames } with nextScope := h.nextScope + 1 }
  pure scope

/-- Removes an arena that is spent. -/
def tearDownIfSpent (id : ArenaId) : HeapOp Bool := do
  let h ← get
  match h.arenas.get? id with
  | none => pure false
  | some a =>
    if a.isSpent then
      set { h with arenas := h.arenas.erase id, tornDown := h.tornDown.add id }
      pure true
    else pure false

/-- Leaves the innermost scope, giving back its counts from the latest to the earliest. -/
def exitScope (id : ArenaId) : HeapOp ScopeExit := do
  let a ← reading (·.arena id)
  match a.frames with
  | [] => throw (.noActiveScope id)
  | frame :: outer => do
    let (a, dropped) := Arena.giveBackAll frame.held { a with frames := outer }
    modify (·.setArena a)
    let tornDown ← tearDownIfSpent id
    pure ⟨frame.id, frame.held.length, dropped, tornDown⟩

/-- Leaves a scope that has to be the innermost. -/
def exitScopeChecked (id : ArenaId) (scope : ScopeId) : HeapOp ScopeExit := do
  let a ← reading (·.arena id)
  match a.innermost? with
  | none => throw (.noActiveScope id)
  | some innermost =>
    if innermost = scope then exitScope id else throw (.scopeMismatch id innermost scope)

/-- Takes the next slot of an arena; the innermost frame holds its first count. An offset has to fit the
    lower half of an address. -/
def allocateContent (id : ArenaId) (content : Content) : HeapOp Address := do
  let h ← get
  let a ← reading (·.arena id)
  let next := a.slots.size
  if h.maxSlots ≤ next ∨ 0x100000000 ≤ next then throw (.arenaExhausted id h.maxSlots)
  let address := Address.ofParts id (UInt32.ofNat next)
  match a.frames with
  | [] => throw (.noActiveScope id)
  | frame :: outer => do
    set (h.setArena { a with
      frames := frame.hold address :: outer
      slots := a.slots.push (.holding content)
      live := a.live.add address.offset })
    pure address

def allocate (id : ArenaId) (v : Value) : HeapOp Address := do
  reading fun _ => v.checkStorable id
  allocateContent id (.value v)

/-- Adds a count that an open scope of the same arena holds. -/
def reference (address : Address) (scope : ScopeId) : HeapOp Address := do
  let slot ← reading (·.slot address)
  let a ← reading (·.arena address.arena)
  match Arena.holdIn? scope address a.frames with
  | none => throw (.uncountedAlias address)
  | some frames => do
    modify (·.setArena ({ a with frames := frames }.replaceSlot address slot.gain))
    pure address

/-- Adds a count that the innermost scope holds. -/
def retain (address : Address) : HeapOp Nat := do
  match (← get).arenas.get? address.arena with
  | none => throw (.danglingAddress address)
  | some a =>
    match a.innermost? with
    | none => throw (.noActiveScope address.arena)
    | some scope => do
      let _ ← reference address scope
      return (← get).refCount address

/-- Gives back one count, that of the innermost frame which holds the address. -/
def release (address : Address) : HeapOp Nat := do
  let _ ← reading (·.slot address)
  let a ← reading (·.arena address.arena)
  match Arena.unholdInnermost? address a.frames with
  | none => throw (.uncountedAlias address)
  | some frames =>
    match { a with frames := frames }.giveBack? address with
    | none => throw (.uncountedAlias address)
    | some (a, false) => do
      modify (·.setArena a)
      return (← get).refCount address
    | some (a, true) => do
      modify (·.setArena a)
      let _ ← tearDownIfSpent address.arena
      pure 0

end HeapOp

end CapabilityArena
