import CapabilityArena.Address
import CapabilityArena.Identity

/-!
Scope frames, the only holders of counts. A frame lists one address for every count that it holds, the
latest first, so that leaving the scope can give all of them back.
-/

namespace CapabilityArena

structure Frame where
  id : ScopeId
  /-- The latest hold first. -/
  held : List Address

namespace Frame

def hold (f : Frame) (a : Address) : Frame := { f with held := a :: f.held }

/-- Gives back the latest hold of an address, if the frame has one. -/
def unhold? (f : Frame) (a : Address) : Option Frame :=
  if a ∈ f.held then some { f with held := f.held.erase a } else none

/-- The holds in the order in which they were taken. -/
def heldInOrder (f : Frame) : List Address := f.held.reverse

end Frame

end CapabilityArena
