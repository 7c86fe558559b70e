import CapabilityArena.Decimal.Layout

/-!
JSON documents as trees. Members keep the order in which they are written, and repeated names stay. The
text of a number is kept in its parts, so that each use decides what it accepts.
-/

namespace CapabilityArena

inductive Json where
  | null
  | bool (value : Bool)
  | number (value : Decimal.Numeral)
  | str (value : String)
  /-- A string, or an object with a name, that is in form but names half of a surrogate pair alone and so
      is no text. -/
  | unreadable
  | arr (items : List Json)
  | obj (members : List (String × Json))

namespace Json

instance : Inhabited Json := ⟨.null⟩

def ofInt (i : Int) : Json := .number (.ofInt i)

def ofNat (n : Nat) : Json := ofInt n

/-- What is not finite is written as null. -/
def ofBinary64 (x : Decimal.Binary64) : Json :=
  if x.isNaN || x.isInfinite then .null else .number (Decimal.Layout.json.numeral x)

def ofOption {α : Type} (f : α → Json) : Option α → Json
  | none => .null
  | some a => f a

def ofList {α : Type} (f : α → Json) (items : List α) : Json := .arr (items.map f)

end Json

end CapabilityArena
