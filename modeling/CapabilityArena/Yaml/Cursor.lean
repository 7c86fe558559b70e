import CapabilityArena.Yaml.Character

/-!
A place in a text: what is still to be read, and how far, on which line and in which column it is.
-/

namespace CapabilityArena.Yaml

structure Mark where
  /-- How many bytes the text before takes in UTF-8. -/
  index : Nat
  line : Nat
  /-- How many characters stand before on the line. -/
  column : Nat
  deriving DecidableEq

structure Cursor where
  rest : List Char
  mark : Mark

/-- How many bytes characters take in UTF-8. -/
def byteCount (cs : List Char) : Nat := cs.foldl (fun count c => count + c.utf8Size) 0

namespace Cursor

def ofText (text : String) : Cursor := ⟨text.toList, ⟨0, 0, 0⟩⟩

def column (c : Cursor) : Nat := c.mark.column

def atEnd (c : Cursor) : Bool := c.rest.isEmpty

/-- The next character is this one. -/
def sees (c : Cursor) (char : Char) : Bool := c.rest.head? == some char

/-- The next character belongs to the class. -/
def seesAny (c : Cursor) (isMember : Char → Bool) : Bool := c.rest.head?.any isMember

/-- Moves on within a line. -/
def advance (c : Cursor) (count : Nat) : Cursor :=
  let index := c.mark.index + byteCount (c.rest.take count)
  ⟨c.rest.drop count, ⟨index, c.mark.line, c.mark.column + count⟩⟩

/-- Reads characters of one line for as long as they belong to the class. -/
def takeWhile (c : Cursor) (isMember : Char → Bool) : List Char × Cursor :=
  let taken := c.rest.takeWhile isMember
  (taken, c.advance taken.length)

def skipWhile (c : Cursor) (isMember : Char → Bool) : Cursor := (c.takeWhile isMember).2

/-- Passes the characters that end a line. -/
def newLine (c : Cursor) (count : Nat) : Cursor :=
  ⟨c.rest.drop count, ⟨c.mark.index + byteCount (c.rest.take count), c.mark.line + 1, 0⟩⟩

/-- Reads the end of a line, if one is here. The separators of lines and paragraphs stand for themselves,
    the other ends of a line for a line feed. -/
def readBreak? (c : Cursor) : Option (Char × Cursor) :=
  match c.rest with
  | '\r' :: '\n' :: _ => some ('\n', c.newLine 2)
  | char :: _ =>
    if isBreak char then
      some (if char = '\u2028' ∨ char = '\u2029' then char else '\n', c.newLine 1)
    else none
  | [] => none

/-- Passes the end of a line, if one is here. -/
def skipBreak (c : Cursor) : Cursor :=
  match c.readBreak? with
  | some (_, c) => c
  | none => c

/-- Passes a comment up to the end of its line, if one is here. -/
def skipComment (c : Cursor) : Cursor :=
  if c.sees '#' then c.skipWhile (!isBreak ·) else c

/-- Passes what may follow a header on its line, white space and a comment, and the end of the line. There
    is no such place when something else follows. -/
def finishLine? (c : Cursor) : Option Cursor :=
  let c := (c.skipWhile isWhite).skipComment
  if c.atEnd || c.seesAny isBreak then some c.skipBreak else none

/-- A mark that begins or ends a document stands here, at the start of a line. -/
def atDocumentMark (c : Cursor) : Bool := c.column == 0 && startsDocumentMark c.rest

end Cursor

end CapabilityArena.Yaml
