import CapabilityArena.Yaml.Document
import CapabilityArena.Yaml.Node

/-!
Reading data out of a document: nodes of any kind, and the parts of which records are made. Aliases are
followed on the way, but only so often in all, and collections may be nested only so deep.
-/

namespace CapabilityArena.Yaml

/-- A reading of a part of a document. The state is how many aliases may still be followed. -/
abbrev Reading (α : Type) := ReaderT Document (StateT Nat Option) α

namespace Reading

/-- How deep collections may be nested. -/
def depthLimit : Nat := 128

/-- The tree that is meant, which for an alias is the node that it names. -/
def follow (t : Tree) : Reading Tree := do
  match t with
  | .alias anchor =>
    match ← get with
    | 0 => failure
    | left + 1 =>
      set left
      match (← read).targets.lookup anchor with
      | some target => return target
      | none => failure
  | t => return t

/-- The name in a tag that the document defines for itself. -/
def localTag? (tag : Option TagText) : Option String :=
  match tag with
  | some (some '!' :: name) =>
    if name.isEmpty then some "!" else TagText.string? name
  | _ => none

/-- A second exclamation mark in front does not belong to the name either. -/
def tagName (tag : String) : String :=
  match tag.toList with
  | '!' :: c :: rest => String.ofList (c :: rest)
  | _ => tag

/-- Wraps a node in its tag, if that is one of the document's own. -/
def wrap (tag : Option TagText) (content : Node) : Node :=
  match localTag? tag with
  | some tag => .tagged (tagName tag) content
  | none => content

def scalarNode (tag : Option TagText) (style : Style) (text : String) : Reading Node :=
  let meaning := match localTag? tag with
    | some _ => Node.ofScalar? none style text
    | none => Node.ofScalar? tag style text
  match meaning with
  | some content => return wrap tag content
  | none => failure

/-- Any node, with collections nested at most this deep. The keys of a mapping must differ. -/
def node : (depth : Nat) → Tree → Reading Node
  | 0, t => do
    match ← follow t with
    | .scalar p style text => scalarNode p.tag style text
    | _ => failure
  | depth + 1, t => do
    match ← follow t with
    | .scalar p style text => scalarNode p.tag style text
    | .sequence p items => return wrap p.tag (.sequence (← items.mapM (node depth)))
    | .mapping p entries =>
      let entries ← entries.mapM fun (key, value) =>
        return (← node depth key, ← node depth value)
      if Node.distinct (entries.map (·.1)) then return wrap p.tag (.mapping entries) else failure
    | .alias _ => failure

/-- The text of a scalar, whatever its tag and its style. -/
def text (t : Tree) : Reading String := do
  match ← follow t with
  | .scalar _ _ text => return text
  | _ => failure

/-- Nothing is written here, though a tag may be. -/
def isBlank : Tree → Bool
  | .scalar _ .plain "" => true
  | _ => false

/-- Whether a scalar is one of the words for null. A plain scalar with the tag of null must be. -/
def isAbsent : Tree → Reading Bool
  | .scalar p .plain text =>
    match p.tag with
    | none => return text = "" || Schema.isNull text
    | some tag =>
      if tag ≠ Node.standardTag "null" then return false
      else if Schema.isNull text then return true
      else failure
  | _ => return false

def option {α : Type} (inner : Tree → Reading α) (t : Tree) : Reading (Option α) := do
  let t ← follow t
  if ← isAbsent t then return none else return some (← inner t)

/-- A sequence; nothing counts as an empty one. -/
def list {α : Type} (item : Tree → Reading α) (t : Tree) : Reading (List α) := do
  match ← follow t with
  | .sequence _ items => items.mapM item
  | t => if isBlank t then return [] else failure

/-- The entries of a mapping whose keys are texts; nothing counts as an empty one. -/
def entries {α : Type} (value : Tree → Reading α) (t : Tree) : Reading (List (String × α)) := do
  match ← follow t with
  | .mapping _ entries => entries.mapM fun (key, tree) => return (← text key, ← value tree)
  | t => if isBlank t then return [] else failure

/-- As `entries`, of which the last of a key counts. -/
def dictionary {α : Type} (value : Tree → Reading α) (t : Tree) : Reading (Dictionary String α) :=
  return .ofList (← entries value t)

/-- The fields of a record. Those that nobody asks for are left unread. -/
abbrev Fields := List (String × Tree)

def fields (t : Tree) : Reading Fields := entries (fun tree => return tree) t

/-- The field of that name, which may be written once. -/
def field? (fs : Fields) (name : String) : Reading (Option Tree) :=
  match fs.filter (·.1 == name) with
  | [] => return none
  | [(_, tree)] => return some tree
  | _ => failure

def required {α : Type} (fs : Fields) (name : String) (inner : Tree → Reading α) : Reading α := do
  match ← field? fs name with
  | some tree => inner tree
  | none => failure

def optional {α : Type} (fs : Fields) (name : String) (default : α) (inner : Tree → Reading α) :
    Reading α := do
  match ← field? fs name with
  | some tree => inner tree
  | none => return default

/-- A whole number from zero that fits sixty-four bits. It is written plainly, or as literal text with the
    tag of whole numbers. -/
def count (t : Tree) : Reading Nat := do
  match ← follow t with
  | .scalar p style text =>
    if style = .plain ∨ (style = .literal ∧ p.tag = some (Node.standardTag "int")) then
      match Schema.unsigned? text with
      | some n => if n < 0x10000000000000000 then return n else failure
      | none => failure
    else failure
  | _ => failure

/-- One of several words. The word is the text of the scalar, or its tag if the text says nothing. -/
def word {α : Type} (ofText? : String → Option α) (t : Tree) : Reading α := do
  match ← follow t with
  | .scalar p style text =>
    let name ← match localTag? p.tag with
      | some tag => if style = .plain ∧ (text = "" ∨ Schema.isNull text) then pure tag else failure
      | none => pure text
    match ofText? name with
    | some a => return a
    | none => failure
  | _ => failure

end Reading

namespace Document

/-- Reads the root with a reader of trees; a text without a document reads as `default`. -/
def read? {α : Type} (d : Document) (default : α) (reading : Tree → Reading α) : Option α :=
  match d.root with
  | none => some default
  | some root => ((reading root).run d |>.run d.aliasLimit).map (·.1)

end Document

/-- The node that a text holds. -/
def Node.ofText? (text : String) : Option Node := do
  (← Document.ofText? text).read? .null (Reading.node Reading.depthLimit)

end CapabilityArena.Yaml
