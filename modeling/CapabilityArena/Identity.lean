import CapabilityArena.Text.Hex

/-!
Numbers that tell entities, scope frames and contexts apart. Each kind is issued in order, so a number
belongs to one thing only.
-/

namespace CapabilityArena

/-- An entity, whatever address it has. -/
structure EntityId where
  number : Nat
  deriving DecidableEq

namespace EntityId

/-- Thirty-two hexadecimal digits in groups of 8, 4, 4, 4 and 12. -/
def uuid (id : EntityId) : String :=
  let digits := Text.Hex.padded 32 id.number
  let group (start length : Nat) := (digits.drop start).take length
  String.ofList (group 0 8 ++ '-' :: group 8 4 ++ '-' :: group 12 4 ++ '-' :: group 16 4 ++
    '-' :: group 20 12)

/-- The first group stands for the whole. -/
def text (id : EntityId) : String :=
  "e:" ++ String.ofList ((Text.Hex.padded 32 id.number).take 8)

end EntityId

/-- A scope frame. -/
structure ScopeId where
  number : Nat
  deriving DecidableEq

def ScopeId.text (id : ScopeId) : String := "scope:" ++ toString id.number

/-- A context. Every construction of one takes a number. -/
structure ContextId where
  number : Nat
  deriving DecidableEq

namespace ContextId

def text (id : ContextId) : String := "ctx:" ++ toString id.number

def first : ContextId := ⟨1⟩

def next (id : ContextId) : ContextId := ⟨id.number + 1⟩

end ContextId

end CapabilityArena
