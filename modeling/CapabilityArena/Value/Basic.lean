import CapabilityArena.Address
import CapabilityArena.Decimal.Layout
import CapabilityArena.Dictionary.Basic
import CapabilityArena.Text.Quoted

/-!
The values that slots and entities hold, and the shapes by which definitions speak about them.
-/

namespace CapabilityArena

/-- What a definition may ask of a value. Any value has the shape `any`. -/
inductive Shape where
  | any
  | null
  | bool
  | int
  | float
  | str
  | list
  | map
  | address
  | weak
  deriving DecidableEq

namespace Shape

def text : Shape → String
  | .any => "any"
  | .null => "null"
  | .bool => "bool"
  | .int => "int"
  | .float => "float"
  | .str => "str"
  | .list => "list"
  | .map => "map"
  | .address => "address"
  | .weak => "weak"

def all : List Shape :=
  [.any, .null, .bool, .int, .float, .str, .list, .map, .address, .weak]

def ofText? (s : String) : Option Shape := all.find? (·.text == s)

/-- What a message says was found. -/
def foundText : Option Shape → String
  | some shape => shape.text
  | none => "nothing"

end Shape

/-- A dynamic value. The entries of a map are kept in key order. -/
inductive Value where
  | null
  | bool (value : Bool)
  | int (value : Int64)
  | float (value : Decimal.Binary64)
  | str (value : String)
  | list (items : List Value)
  | map (entries : List (String × Value))
  /-- A strong address; only scope frames may hold one. -/
  | address (address : Address)
  /-- A reference that keeps nothing alive. -/
  | weak (address : Address)

/-- The fields of an entity. -/
abbrev State := Dictionary String Value

namespace Value

instance : Inhabited Value := ⟨.null⟩

/-- A map with the given entries, the last of a key. -/
def ofPairs (pairs : List (String × Value)) : Value :=
  .map (pairs.foldl (fun entries pair => Entries.insert pair.1 pair.2 entries) [])

theorem ofPairs_eq (pairs : List (String × Value)) :
    ofPairs pairs = .map (Dictionary.ofList pairs).entries := by
  have hentries : ∀ d : Dictionary String Value,
      pairs.foldl (fun entries pair => Entries.insert pair.1 pair.2 entries) d.entries =
        (d.insertAll pairs).entries := by
    induction pairs with
    | nil => exact fun _ => rfl
    | cons pair pairs ih => exact fun d => ih (d.insert pair.1 pair.2)
  exact congrArg map (hentries .empty)

mutual

/-- The entries of every map inside are in key order. -/
def WellFormed : Value → Prop
  | .list items => WellFormedItems items
  | .map entries => Entries.Sorted entries ∧ WellFormedEntries entries
  | _ => True

def WellFormedItems : List Value → Prop
  | [] => True
  | item :: items => WellFormed item ∧ WellFormedItems items

def WellFormedEntries : List (String × Value) → Prop
  | [] => True
  | (_, value) :: entries => WellFormed value ∧ WellFormedEntries entries

end

def shape : Value → Shape
  | .null => .null
  | .bool _ => .bool
  | .int _ => .int
  | .float _ => .float
  | .str _ => .str
  | .list _ => .list
  | .map _ => .map
  | .address _ => .address
  | .weak _ => .weak

def bool? : Value → Option Bool
  | .bool b => some b
  | _ => none

def int? : Value → Option Int64
  | .int i => some i
  | _ => none

def str? : Value → Option String
  | .str s => some s
  | _ => none

def list? : Value → Option (List Value)
  | .list items => some items
  | _ => none

def weak? : Value → Option Address
  | .weak a => some a
  | _ => none

def isNull : Value → Bool
  | .null => true
  | _ => false

mutual

/-- Equality with the arithmetic of floats: a NaN equals nothing and the zeros are equal. -/
def same : Value → Value → Bool
  | .null, .null => true
  | .bool a, .bool b => a == b
  | .int a, .int b => a == b
  | .float a, .float b => a.same b
  | .str a, .str b => a == b
  | .list a, .list b => sameItems a b
  | .map a, .map b => sameEntries a b
  | .address a, .address b => a == b
  | .weak a, .weak b => a == b
  | _, _ => false

def sameItems : List Value → List Value → Bool
  | [], [] => true
  | a :: as, b :: bs => same a b && sameItems as bs
  | _, _ => false

def sameEntries : List (String × Value) → List (String × Value) → Bool
  | [], [] => true
  | (k, a) :: as, (l, b) :: bs => k == l && same a b && sameEntries as bs
  | _, _ => false

end

mutual

/-- How a value shows. Texts are quoted, keys are not. -/
def text : Value → String
  | .null => "null"
  | .bool b => if b then "true" else "false"
  | .int i => toString i.toInt
  | .float x => x.display
  | .str s => Text.quoted s
  | .list [] => "[]"
  | .list (item :: items) => "[" ++ text item ++ itemsText items
  | .map [] => "\x7b\x7d"
  | .map ((key, value) :: entries) => "\x7b" ++ key ++ ": " ++ text value ++ entriesText entries
  | .address a => a.text
  | .weak a => "weak " ++ a.text

/-- The items after the first, and the closing bracket. -/
def itemsText : List Value → String
  | [] => "]"
  | item :: items => ", " ++ text item ++ itemsText items

/-- The entries after the first, and the closing brace. -/
def entriesText : List (String × Value) → String
  | [] => "\x7d"
  | (key, value) :: entries => ", " ++ key ++ ": " ++ text value ++ entriesText entries

end

end Value

/-- Whether a value has a shape. -/
def Shape.admits (shape : Shape) (value : Value) : Bool :=
  shape == .any || shape == value.shape

end CapabilityArena
