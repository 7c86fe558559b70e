import CapabilityArena.Dictionary.Basic
import CapabilityArena.Heap.Frame
import CapabilityArena.Heap.Slot

/-!
Arenas. An arena has a table of slots that only grows, an index of the offsets that are live, and a stack
of scope frames, the innermost first.
-/

namespace CapabilityArena

structure Arena where
  id : ArenaId
  slots : Array Slot
  /-- The offsets of the live slots. -/
  live : KeySet UInt32
  /-- The innermost frame first. -/
  frames : List Frame

namespace Arena

/-- A new arena has one frame, its root. -/
def opened (id : ArenaId) (root : ScopeId) : Arena := ⟨id, #[], .empty, [⟨root, []⟩]⟩

def innermost? (a : Arena) : Option ScopeId := a.frames.head?.map (·.id)

def addressAt (a : Arena) (offset : UInt32) : Address := .ofParts a.id offset

def slot? (a : Arena) (address : Address) : Option Slot := a.slots[address.offset.toNat]?

/-- Neither a frame nor a live slot is left. -/
def isSpent (a : Arena) : Bool := a.frames.isEmpty && a.live.isEmpty

def replaceSlot (a : Arena) (address : Address) (slot : Slot) : Arena :=
  { a with slots := a.slots.setIfInBounds address.offset.toNat slot }

/-- Gives back one count of a slot. The second part tells whether it was the last. There is no answer when
    the slot does not exist or has no count left. -/
def giveBack? (a : Arena) (address : Address) : Option (Arena × Bool) := do
  let slot ← a.slot? address
  let slot ← slot.lose?
  if slot.isLive then some (a.replaceSlot address slot, false)
  else some ({ a.replaceSlot address slot with live := a.live.remove address.offset }, true)

/-- Gives back a count for every address listed and lists those whose slot was dropped. -/
def giveBackAll : List Address → Arena → Arena × List Address
  | [], a => (a, [])
  | address :: rest, a =>
    match a.giveBack? address with
    | none => giveBackAll rest a
    | some (a, false) => giveBackAll rest a
    | some (a, true) =>
      let (a, dropped) := giveBackAll rest a
      (a, address :: dropped)

/-- Adds a hold to the frame of that scope, if it is open. -/
def holdIn? (scope : ScopeId) (address : Address) : List Frame → Option (List Frame)
  | [] => none
  | frame :: outer =>
    if frame.id = scope then some (frame.hold address :: outer)
    else (holdIn? scope address outer).map (frame :: ·)

/-- Gives back the latest hold of the innermost frame that has one. -/
def unholdInnermost? (address : Address) : List Frame → Option (List Frame)
  | [] => none
  | frame :: outer =>
    match frame.unhold? address with
    | some frame => some (frame :: outer)
    | none => (unholdInnermost? address outer).map (frame :: ·)

end Arena

end CapabilityArena
