import CapabilityArena.Text.Hex
import CapabilityArena.Yaml.Scalar.Gap

/-!
Scalars between quotation marks. Between single marks only a doubled mark is special; between double marks
a backslash starts an escape.
-/

namespace CapabilityArena.Yaml.Quoted

/-- A stretch of a quoted scalar without white space: its text and how many characters were read. -/
structure Word where
  text : List Char
  read : Nat

/-- Up to white space, a break, the closing mark or the end of the text. -/
def singleWord : List Char → Word
  | '\x27' :: '\x27' :: rest =>
    let word := singleWord rest
    ⟨'\x27' :: word.text, word.read + 2⟩
  | '\x27' :: _ => ⟨[], 0⟩
  | c :: rest =>
    if isWhiteOrBreak c then ⟨[], 0⟩
    else
      let word := singleWord rest
      ⟨c :: word.text, word.read + 1⟩
  | [] => ⟨[], 0⟩

/-- The character that a one-letter escape stands for. -/
def escapeMeaning? (c : Char) : Option Char :=
  if c = '0' then some '\x00'
  else if c = 'a' then some '\x07'
  else if c = 'b' then some '\x08'
  else if c = 't' || c = '\t' then some '\t'
  else if c = 'n' then some '\n'
  else if c = 'v' then some '\x0b'
  else if c = 'f' then some '\x0c'
  else if c = 'r' then some '\r'
  else if c = 'e' then some '\x1b'
  else if c = ' ' || c = '\x22' || c = '/' || c = '\\' then some c
  else if c = 'N' then some '\u0085'
  else if c = '_' then some '\u00a0'
  else if c = 'L' then some '\u2028'
  else if c = 'P' then some '\u2029'
  else none

/-- The character with the number that the digits name. -/
def numbered? (digits : List Char) : Option Char := do
  let n ← Text.Hex.valueOf? digits
  if n.isValidChar then some (Char.ofNat n) else none

def prepend (c : Char) (read : Nat) (word : Word) : Word :=
  ⟨c :: word.text, word.read + read⟩

/-- As `singleWord`, between double marks. It also ends before an escaped end of a line. -/
def doubleWord? : List Char → Option Word
  | '\\' :: 'x' :: a :: b :: rest => do
    let c ← numbered? [a, b]
    (doubleWord? rest).map (prepend c 4)
  | '\\' :: 'u' :: a :: b :: c :: d :: rest => do
    let c ← numbered? [a, b, c, d]
    (doubleWord? rest).map (prepend c 6)
  | '\\' :: 'U' :: a :: b :: c :: d :: e :: f :: g :: h :: rest => do
    let c ← numbered? [a, b, c, d, e, f, g, h]
    (doubleWord? rest).map (prepend c 10)
  | '\\' :: e :: rest =>
    if isBreak e then some ⟨[], 0⟩
    else do
      let c ← escapeMeaning? e
      (doubleWord? rest).map (prepend c 2)
  | '\x22' :: _ => some ⟨[], 0⟩
  | c :: rest =>
    if isWhiteOrBreak c then some ⟨[], 0⟩
    else if c = '\\' then none
    else (doubleWord? rest).map (prepend c 1)
  | [] => some ⟨[], 0⟩

def word? (mark : Char) (cs : List Char) : Option Word :=
  if mark = '\x27' then some (singleWord cs) else doubleWord? cs

/-- Reads up to the closing mark, which is passed. No mark of a document may stand at the start of a line
    in between. -/
def readOn (mark : Char) : (fuel : Nat) → Cursor → Option (List Char × Cursor)
  | 0, _ => none
  | fuel + 1, c =>
    if c.atDocumentMark || c.atEnd then none
    else do
      let word ← word? mark c.rest
      let next := c.advance word.read
      if next.sees mark then some (word.text, next.advance 1)
      else
        let (gap, next) ←
          if next.sees '\\' then Gap.readEscaped? (next.advance 1).skipBreak else Gap.read? 0 next
        let (more, next) ← readOn mark fuel next
        some (word.text ++ gap.text ++ more, next)

/-- Reads a scalar from its opening mark on. -/
def read? (mark : Char) (c : Cursor) : Option (List Char × Cursor) :=
  readOn mark (c.rest.length + 1) (c.advance 1)

end CapabilityArena.Yaml.Quoted
