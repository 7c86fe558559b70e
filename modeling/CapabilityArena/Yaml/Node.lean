import CapabilityArena.Definition.Problem
import CapabilityArena.Yaml.Schema
import CapabilityArena.Yaml.Tree

/-!
Documents as data: what their nodes mean, and the values that nodes convert to.
-/

namespace CapabilityArena.Yaml

inductive Node where
  | null
  | bool (value : Bool)
  | int (value : Int)
  | float (value : Decimal.Binary64)
  | str (text : String)
  | sequence (items : List Node)
  | mapping (entries : List (Node × Node))
  /-- A node with a tag that the document defines for itself, without its exclamation mark. -/
  | tagged (tag : String) (content : Node)

namespace Node

instance : Inhabited Node := ⟨.null⟩

mutual

/-- Equality of keys. A NaN equals any other, the zeros are equal, and the order of the entries of a
    mapping does not matter. -/
def same : Node → Node → Bool
  | .null, .null => true
  | .bool a, .bool b => a == b
  | .int a, .int b => a == b
  | .float a, .float b => a.same b || (a.isNaN && b.isNaN)
  | .str a, .str b => a == b
  | .sequence as, .sequence bs => sameItems as bs
  | .mapping as, .mapping bs => as.length == bs.length && sameEntries as bs
  | .tagged s a, .tagged t b => s == t && same a b
  | _, _ => false

def sameItems : List Node → List Node → Bool
  | [], [] => true
  | a :: as, b :: bs => same a b && sameItems as bs
  | _, _ => false

/-- Each entry occurs among the others. -/
def sameEntries : List (Node × Node) → List (Node × Node) → Bool
  | [], _ => true
  | (key, value) :: as, bs =>
    bs.any (fun (k, v) => same key k && same value v) && sameEntries as bs

end

def distinct : List Node → Bool
  | [] => true
  | key :: keys => !keys.any key.same && distinct keys

/-- What a plain scalar means. A whole number must fit sixty-four bits, with a sign or without; one that
    fits 128 bits only has no meaning, and a larger one is read as a decimal number. -/
def ofPlain? (text : String) : Option Node :=
  if text = "" || Schema.isNull text then some .null
  else match Schema.bool? text with
    | some b => some (.bool b)
    | none =>
      match Schema.integer? text with
      | some i =>
        if -0x8000000000000000 ≤ i ∧ i < 0x10000000000000000 then some (.int i)
        else if -0x80000000000000000000000000000000 ≤ i ∧ i < 0x100000000000000000000000000000000 then none
        else some (ofDecimal text)
      | none => some (ofDecimal text)
where
  ofDecimal (text : String) : Node :=
    let digits := match text.toList with
      | '-' :: rest => rest
      | '+' :: rest => rest
      | cs => cs
    match if Schema.isPadded digits then none else Schema.float? text with
    | some x => .float x
    | none => .str text

def standardTag (name : String) : TagText := TagText.ofChars ("tag:yaml.org,2002:" ++ name).toList

/-- What a scalar means. A tag of the standard types reads the text as that type whatever its style; any
    other tag makes it a text, and so do quotation marks. -/
def ofScalar? (tag : Option TagText) (style : Style) (text : String) : Option Node :=
  match tag with
  | none => if style = .plain then ofPlain? text else some (.str text)
  | some tag =>
    if tag = standardTag "bool" then (Schema.bool? text).map .bool
    else if tag = standardTag "int" then
      match Schema.integer? text with
      | some i => if -0x8000000000000000 ≤ i ∧ i < 0x10000000000000000 then some (.int i) else none
      | none => none
    else if tag = standardTag "float" then (Schema.float? text).map .float
    else if tag = standardTag "null" then if Schema.isNull text then some .null else none
    else if tag.head? = some (some '!') ∧ style = .plain then ofPlain? text
    else some (.str text)

/-- The text of a node, seen through its tags. -/
def text? : Node → Option String
  | .str text => some text
  | .tagged _ content => content.text?
  | _ => none

/-- A whole number stays exact where it fits; a larger one becomes the nearest float. -/
def ofInteger (i : Int) : Value :=
  if -0x8000000000000000 ≤ i ∧ i < 0x8000000000000000 then .int (Int64.ofInt i)
  else .float (Decimal.Binary64.ofRatio (decide (i < 0)) i.natAbs 1)

mutual

/-- The value of a node. No tag is allowed, and the keys of mappings must be text. -/
def toValue : Node → Except ConversionProblem Value
  | .null => .ok .null
  | .bool b => .ok (.bool b)
  | .int i => .ok (ofInteger i)
  | .float x => .ok (.float x)
  | .str text => .ok (.str text)
  | .sequence items => (itemsToValues items).map .list
  | .mapping entries => (entriesToValues entries).map .ofPairs
  | .tagged tag _ => .error (.unsupportedTag ("!" ++ tag))

def itemsToValues : List Node → Except ConversionProblem (List Value)
  | [] => .ok []
  | item :: items => do
    let value ← toValue item
    return value :: (← itemsToValues items)

/-- A key is looked at before its value. -/
def entriesToValues : List (Node × Node) → Except ConversionProblem (List (String × Value))
  | [] => .ok []
  | (key, item) :: entries => do
    match key.text? with
    | none => .error .keyNotText
    | some key =>
      let value ← toValue item
      return (key, value) :: (← entriesToValues entries)

end

end Node

end CapabilityArena.Yaml
