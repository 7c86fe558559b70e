import CapabilityArena.Json.Reader
import CapabilityArena.Json.Writer
import CapabilityArena.Value.Basic

/-!
Values as JSON. A value is an object with one member named for its kind, and null is the text `Null`.
-/

namespace CapabilityArena.Value

mutual

def toJson : Value → Json
  | .null => .str "Null"
  | .bool b => .obj [("Bool", .bool b)]
  | .int i => .obj [("Int", .ofInt i.toInt)]
  | .float x => .obj [("Float", .ofBinary64 x)]
  | .str s => .obj [("Str", .str s)]
  | .list items => .obj [("List", .arr (itemsToJson items))]
  | .map entries => .obj [("Map", .obj (entriesToJson entries))]
  | .address a => .obj [("Address", .ofNat a.raw.toNat)]
  | .weak a => .obj [("Weak", .ofNat a.raw.toNat)]

def itemsToJson : List Value → List Json
  | [] => []
  | item :: items => toJson item :: itemsToJson items

def entriesToJson : List (String × Value) → List (String × Json)
  | [] => []
  | (key, value) :: entries => (key, toJson value) :: entriesToJson entries

end

/-- How many brackets and braces may be open at once, less one. -/
def maxNesting : Nat := 128

def addressOf? (i : Int) : Option Address :=
  if 0 ≤ i ∧ i < 0x10000000000000000 then some ⟨UInt64.ofNat i.toNat⟩ else none

/-- A value of a kind that holds no other values. -/
def scalarOf? (kind : String) : Json → Option Value
  | .null => if kind = "Null" then some .null else none
  | .bool b => if kind = "Bool" then some (.bool b) else none
  | .str s => if kind = "Str" then some (.str s) else none
  | .number n =>
    if kind = "Int" then
      n.integer?.bind fun i =>
        if -0x8000000000000000 ≤ i ∧ i < 0x8000000000000000 then some (.int (Int64.ofInt i)) else none
    else if kind = "Float" then n.scaled?.map .float
    else if kind = "Address" then (n.integer?.bind addressOf?).map .address
    else if kind = "Weak" then (n.integer?.bind addressOf?).map .weak
    else none
  | _ => none

mutual

/-- The value of a document, where `room` bounds its nesting. Every bracket and every brace takes one, and
    the last may not be taken. -/
def ofJson? (room : Nat) : Json → Option Value
  | .str s => if s = "Null" then some .null else none
  | .obj [(kind, .arr items)] =>
    if kind = "List" ∧ 2 < room then (itemsOfJson? (room - 2) items).map .list else none
  | .obj [(kind, .obj members)] =>
    if kind = "Map" ∧ 2 < room then (entriesOfJson? (room - 2) members).map ofPairs else none
  | .obj [(kind, content)] => if 1 < room then scalarOf? kind content else none
  | _ => none

def itemsOfJson? (room : Nat) : List Json → Option (List Value)
  | [] => some []
  | item :: items => do
    let value ← ofJson? room item
    let values ← itemsOfJson? room items
    some (value :: values)

def entriesOfJson? (room : Nat) : List (String × Json) → Option (List (String × Value))
  | [] => some []
  | (key, item) :: members => do
    let value ← ofJson? room item
    let entries ← entriesOfJson? room members
    some ((key, value) :: entries)

end

/-- The value that a JSON text spells. -/
def read? (text : String) : Option Value := (Json.read? text).bind (ofJson? maxNesting)

end CapabilityArena.Value
