import CapabilityArena.Entity

/-!
Slots. A slot is live while it is counted. When the last count goes, its content goes with it and the slot
stays behind empty, so that its offset is never given to another slot.
-/

namespace CapabilityArena

/-- What a slot was allocated to hold. -/
inductive Content where
  | value (value : Value)
  | entity (entity : Entity)

structure Slot where
  /-- How often frames hold the slot, without a bound. -/
  count : Nat
  content : Option Content

namespace Slot

/-- A new slot is counted once. -/
def holding (content : Content) : Slot := ⟨1, some content⟩

def isLive (s : Slot) : Bool := decide (0 < s.count)

def gain (s : Slot) : Slot := { s with count := s.count + 1 }

/-- Gives back one count; there is none to give back on a slot that is not live. -/
def lose? (s : Slot) : Option Slot :=
  match s.count with
  | 0 => none
  | 1 => some ⟨0, none⟩
  | count + 1 => some { s with count := count }

end Slot

end CapabilityArena
