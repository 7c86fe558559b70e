import CapabilityArena.Yaml.Token

/-!
Documents as trees, before anything is known about what their scalars mean. An alias names a node by the
number of its anchor; the node may contain the alias.
-/

namespace CapabilityArena.Yaml

/-- What may be written in front of a node. -/
structure Properties where
  anchor : Option Nat
  tag : Option TagText

def Properties.none : Properties := ⟨.none, .none⟩

inductive Tree where
  | scalar (properties : Properties) (style : Style) (text : String)
  | sequence (properties : Properties) (items : List Tree)
  | mapping (properties : Properties) (entries : List (Tree × Tree))
  | alias (anchor : Nat)

namespace Tree

/-- A scalar that is not written. -/
def blank : Tree := .scalar .none .plain ""

def properties : Tree → Properties
  | .scalar p _ _ => p
  | .sequence p _ => p
  | .mapping p _ => p
  | .alias _ => .none

mutual

/-- How many steps it takes to walk through a tree, where a collection has a start and an end. -/
def steps : Tree → Nat
  | .scalar _ _ _ => 1
  | .sequence _ items => 2 + stepsOfItems items
  | .mapping _ entries => 2 + stepsOfEntries entries
  | .alias _ => 1

def stepsOfItems : List Tree → Nat
  | [] => 0
  | item :: items => steps item + stepsOfItems items

def stepsOfEntries : List (Tree × Tree) → Nat
  | [] => 0
  | (key, value) :: entries => steps key + steps value + stepsOfEntries entries

end

mutual

/-- The nodes with an anchor, in the order in which they start. -/
def anchored : Tree → List (Nat × Tree)
  | .scalar p style text => (p.anchor.map fun n => (n, Tree.scalar p style text)).toList
  | .sequence p items =>
    (p.anchor.map fun n => (n, Tree.sequence p items)).toList ++ anchoredItems items
  | .mapping p entries =>
    (p.anchor.map fun n => (n, Tree.mapping p entries)).toList ++ anchoredEntries entries
  | .alias _ => []

def anchoredItems : List Tree → List (Nat × Tree)
  | [] => []
  | item :: items => anchored item ++ anchoredItems items

def anchoredEntries : List (Tree × Tree) → List (Nat × Tree)
  | [] => []
  | (key, value) :: entries => anchored key ++ anchored value ++ anchoredEntries entries

end

end Tree

end CapabilityArena.Yaml
