import CapabilityArena.Yaml.Cursor

/-!
Block scalars: whole lines, right of a column that is stated in the header or found from the first line
that is not empty. A literal scalar keeps the ends of its lines, a folded one folds them.
-/

namespace CapabilityArena.Yaml.Block

/-- What becomes of the ends of lines after the last line of text: all go, the first stays, all stay. -/
inductive Chomping where
  | strip
  | clip
  | keep

def chompingOf (c : Char) : Chomping := if c = '+' then .keep else .strip

structure Header where
  chomping : Chomping
  /-- How far the text is indented beyond the block around it. -/
  increment : Option Nat

/-- Reads the chomping mark and the increment, in either order, each at most once. The increment is one
    digit other than zero. -/
def readHeader? (c : Cursor) : Option (Header × Cursor) :=
  match c.rest with
  | [] => some (⟨.clip, none⟩, c)
  | first :: rest =>
    if first = '+' ∨ first = '-' then
      match rest.head?.filter Char.isDigit with
      | some digit =>
        if digit = '0' then none
        else some (⟨chompingOf first, some (digit.toNat - '0'.toNat)⟩, c.advance 2)
      | none => some (⟨chompingOf first, none⟩, c.advance 1)
    else if first.isDigit then
      if first = '0' then none
      else
        let increment := some (first.toNat - '0'.toNat)
        match rest.head?.filter fun mark => mark = '+' ∨ mark = '-' with
        | some mark => some (⟨chompingOf mark, increment⟩, c.advance 2)
        | none => some (⟨.clip, increment⟩, c.advance 1)
    else some (⟨.clip, none⟩, c)

/-- Lines without text: the ends of them, the largest column reached on them and on the line after them,
    and the place of that line after its indentation. -/
structure EmptyLines where
  ends : List Char
  widest : Nat
  next : Cursor

/-- Passes empty lines and indentation, up to the column given if it is known. No tab may indent. -/
def readEmptyLines (column : Option Nat) : (fuel : Nat) → Cursor → Option EmptyLines
  | 0, _ => none
  | fuel + 1, c =>
    let spaces := c.rest.takeWhile (· = ' ')
    let count := match column with
      | none => spaces.length
      | some column => min spaces.length (column - c.column)
    let next := c.advance count
    if next.sees '\t' && column.all (next.column < ·) then none
    else match next.readBreak? with
      | none => some ⟨[], next.column, next⟩
      | some (lineEnd, after) => do
        let lines ← readEmptyLines column fuel after
        some ⟨lineEnd :: lines.ends, max next.column lines.widest, lines.next⟩

/-- The end of a line between two lines of text. Folding concerns lines that start with text: one end of a
    line becomes a space, and where empty lines follow it vanishes. -/
def joint (literal afterWhite beforeWhite : Bool) (lineEnd empties : List Char) : List Char :=
  if !literal && lineEnd == ['\n'] && !afterWhite && !beforeWhite then
    if empties.isEmpty then [' '] else []
  else lineEnd

def chomp (chomping : Chomping) (lineEnd empties : List Char) : List Char :=
  match chomping with
  | .strip => []
  | .clip => lineEnd
  | .keep => lineEnd ++ empties

/-- Reads lines of text that start in the column given. What is still open is the end of the line before,
    the empty lines after it, and whether that line started with white space. -/
def readLines (literal : Bool) (chomping : Chomping) (column : Nat) :
    (fuel : Nat) → (lineEnd empties : List Char) → (afterWhite : Bool) → Cursor →
      Option (List Char × Cursor)
  | 0, _, _, _, _ => none
  | fuel + 1, lineEnd, empties, afterWhite, c =>
    if c.column == column && !c.atEnd then do
      let white := c.seesAny isWhite
      let before := joint literal afterWhite white lineEnd empties ++ empties
      let (line, next) := c.takeWhile (!isBreak ·)
      let (lineEnd, next) := match next.readBreak? with
        | some (lineEnd, next) => ([lineEnd], next)
        | none => ([], next)
      let lines ← readEmptyLines (some column) (next.rest.length + 1) next
      let (more, next) ← readLines literal chomping column fuel lineEnd lines.ends white lines.next
      some (before ++ line ++ more, next)
    else some (chomp chomping lineEnd empties, c)

/-- Reads a scalar from its sign on. The block around it is indented to `outer`, which is one more than the
    column or zero outside all blocks. -/
def read? (literal : Bool) (outer : Nat) (c : Cursor) : Option (List Char × Cursor) := do
  let (header, c) ← readHeader? (c.advance 1)
  let c ← c.finishLine?
  let stated := header.increment.map fun increment => outer - 1 + increment
  let lines ← readEmptyLines stated (c.rest.length + 1) c
  let column := stated.getD (max lines.widest (max outer 1))
  readLines literal header.chomping column (lines.next.rest.length + 1) [] lines.ends false lines.next

end CapabilityArena.Yaml.Block
