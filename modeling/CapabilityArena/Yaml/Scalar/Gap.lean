import CapabilityArena.Yaml.Cursor

/-!
What stands between the words of a scalar that may run over several lines, and the text that it counts as.
-/

namespace CapabilityArena.Yaml

inductive Gap where
  /-- White space within a line. -/
  | white (text : List Char)
  /-- The end of a line, absent when it is escaped, and the ends of the empty lines after it. -/
  | lines (first : Option Char) (further : List Char)

namespace Gap

def empty : Gap := .white []

def breaksLine : Gap → Bool
  | .white _ => false
  | .lines _ _ => true

/-- One end of a line folds to a space, and of several the first vanishes; a separator of lines or
    paragraphs does not fold. -/
def text : Gap → List Char
  | .white text => text
  | .lines (some '\n') [] => [' ']
  | .lines (some '\n') further => further
  | .lines first further => first.toList ++ further

/-- Reads white space and ends of lines after an end of a line. White space counts for nothing here, but
    no tab may stand left of the column given. -/
def readLines (column : Nat) : (fuel : Nat) → Cursor → Option (List Char × Cursor)
  | 0, _ => none
  | fuel + 1, c =>
    let (blanks, next) := c.takeWhile isWhite
    if '\t' ∈ blanks.take (column - c.column) then none
    else match next.readBreak? with
      | none => some ([], next)
      | some (lineEnd, next) => do
        let (further, next) ← readLines column fuel next
        some (lineEnd :: further, next)

def read? (column : Nat) (c : Cursor) : Option (Gap × Cursor) :=
  let (blanks, next) := c.takeWhile isWhite
  match next.readBreak? with
  | none => some (.white blanks, next)
  | some (lineEnd, next) => do
    let (further, next) ← readLines column (next.rest.length + 1) next
    some (.lines (some lineEnd) further, next)

/-- Reads what follows an escaped end of a line. -/
def readEscaped? (c : Cursor) : Option (Gap × Cursor) := do
  let (further, next) ← readLines 0 (c.rest.length + 1) c
  some (.lines none further, next)

end Gap

end CapabilityArena.Yaml
