import CapabilityArena.Value.Basic

/-!
The addresses inside a value, from left to right and to any depth.
-/

namespace CapabilityArena

/-- An address found inside a value. -/
structure Reference where
  address : Address
  weak : Bool
  deriving DecidableEq

namespace Value

mutual

def references : Value → List Reference
  | .address a => [⟨a, false⟩]
  | .weak a => [⟨a, true⟩]
  | .list items => itemReferences items
  | .map entries => entryReferences entries
  | _ => []

def itemReferences : List Value → List Reference
  | [] => []
  | item :: items => references item ++ itemReferences items

def entryReferences : List (String × Value) → List Reference
  | [] => []
  | (_, value) :: entries => references value ++ entryReferences entries

end

end Value

end CapabilityArena
