import CapabilityArena.Text.Hex
import CapabilityArena.Yaml.Cursor
import CapabilityArena.Yaml.Token

/-!
Tags, anchors and directives: the words that start with a mark of their own.
-/

namespace CapabilityArena.Yaml

namespace TagText

/-- What the text of a tag is made of: characters, and octets given by number. -/
inductive Piece where
  | char (c : Char)
  | octet (value : Nat)

/-- Verbatim tags and the texts that handles stand for may also hold brackets and commas. -/
def isTagChar (verbatim : Bool) (c : Char) : Bool :=
  isNameChar c || c = ';' || c = '/' || c = '?' || c = ':' || c = '@' || c = '&' || c = '=' || c = '+' ||
    c = '$' || c = '.' || c = '!' || c = '~' || c = '*' || c = '\x27' || c = '(' || c = ')' ||
    (verbatim && (c = ',' || c = '[' || c = ']'))

/-- The pieces at the front and how many characters they take. -/
def pieces? (verbatim : Bool) : List Char → Option (List Piece × Nat)
  | '%' :: a :: b :: rest => do
    let octet ← Text.Hex.valueOf? [a, b]
    let (pieces, read) ← pieces? verbatim rest
    some (.octet octet :: pieces, read + 3)
  | c :: rest =>
    if c = '%' then none
    else if isTagChar verbatim c then
      (pieces? verbatim rest).map fun (pieces, read) => (.char c :: pieces, read + 1)
    else some ([], 0)
  | [] => some ([], 0)

/-- An octet that continues a character, without its mark. -/
def continuation? (octet : Nat) : Option Nat :=
  if 0x80 ≤ octet ∧ octet < 0xc0 then some (octet - 0x80) else none

/-- The character of a number that must be at least `least`, since a smaller one has a shorter form. -/
def charFrom? (least n : Nat) : Option Char :=
  if least ≤ n ∧ n.isValidChar then some (Char.ofNat n) else none

/-- The text of the pieces: octets that follow one another are the UTF-8 form of characters. -/
def join? : List Piece → Option TagText
  | [] => some []
  | .char c :: rest => (join? rest).map (some c :: ·)
  | .octet a :: rest =>
    if a < 0x80 then (join? rest).map (some (Char.ofNat a) :: ·)
    else if a < 0xc0 then none
    else if a < 0xe0 then
      match rest with
      | .octet b :: rest => do
        let b ← continuation? b
        (join? rest).map (charFrom? 0x80 ((a - 0xc0) * 64 + b) :: ·)
      | _ => none
    else if a < 0xf0 then
      match rest with
      | .octet b :: .octet c :: rest => do
        let b ← continuation? b
        let c ← continuation? c
        (join? rest).map (charFrom? 0x800 (((a - 0xe0) * 64 + b) * 64 + c) :: ·)
      | _ => none
    else if a < 0xf8 then
      match rest with
      | .octet b :: .octet c :: .octet d :: rest => do
        let b ← continuation? b
        let c ← continuation? c
        let d ← continuation? d
        (join? rest).map (charFrom? 0x10000 ((((a - 0xf0) * 64 + b) * 64 + c) * 64 + d) :: ·)
      | _ => none
    else none

/-- Reads the text of a tag or of what a handle stands for. A null character ends the text, though not the
    reading; the second part says whether anything was read. -/
def read? (verbatim : Bool) (c : Cursor) : Option ((TagText × Bool) × Cursor) := do
  let (pieces, read) ← pieces? verbatim c.rest
  let text ← join? pieces
  some ((text.takeWhile (· ≠ some '\x00'), !pieces.isEmpty), c.advance read)

end TagText

namespace Tag

/-- Reads a tag between angle brackets, from the exclamation mark on. -/
def readVerbatim? (c : Cursor) : Option (Token × Cursor) := do
  let ((text, found), c) ← TagText.read? true (c.advance 2)
  if found && c.sees '>' then some (.tag none text, c.advance 1) else none

/-- Reads a tag that starts with a handle. An exclamation mark alone is a tag without a handle. -/
def readShort? (c : Cursor) : Option (Token × Cursor) := do
  let (name, next) := (c.advance 1).takeWhile isNameChar
  if next.sees '!' then
    let ((text, found), next) ← TagText.read? false (next.advance 1)
    if found then some (.tag (some ("!" ++ String.ofList name ++ "!")) text, next) else none
  else
    let ((text, _), next) ← TagText.read? false next
    let text := TagText.ofChars name ++ text
    if text.isEmpty then some (.tag none [some '!'], next) else some (.tag (some "!") text, next)

/-- Reads a tag. Only in flow style may a comma stand directly behind it. -/
def read? (inFlow : Bool) (c : Cursor) : Option (Token × Cursor) := do
  let (token, next) ← if (c.advance 1).sees '<' then readVerbatim? c else readShort? c
  if (inFlow && next.sees ',') || endsWord next.rest then some (token, next) else none

end Tag

namespace Anchor

def mayFollow (c : Char) : Bool :=
  c = '?' || c = ':' || c = ',' || c = ']' || c = '\x7d' || c = '%' || c = '@' || c = '\x60'

/-- Reads the name of an anchor, from its mark on. -/
def read? (c : Cursor) : Option (String × Cursor) :=
  let (name, next) := (c.advance 1).takeWhile isNameChar
  if !name.isEmpty && (endsWord next.rest || next.seesAny mayFollow) then
    some (String.ofList name, next)
  else none

end Anchor

namespace Directive

/-- A number of at most nine digits. -/
def readNumber? (c : Cursor) : Option (Nat × Cursor) :=
  let (digits, next) := c.takeWhile Char.isDigit
  if digits.isEmpty || 9 < digits.length then none
  else some (digits.foldl (fun n digit => 10 * n + (digit.toNat - '0'.toNat)) 0, next)

def readVersion? (c : Cursor) : Option (Token × Cursor) := do
  let (major, c) ← readNumber? (c.skipWhile isWhite)
  if !c.sees '.' then none
  else
    let (minor, c) ← readNumber? (c.advance 1)
    some (.version major minor, c)

/-- A handle is a name between two exclamation marks, or one mark alone. -/
def readHandleName? (c : Cursor) : Option (String × Cursor) :=
  if !c.sees '!' then none
  else
    let (name, next) := (c.advance 1).takeWhile isNameChar
    if next.sees '!' then some ("!" ++ String.ofList name ++ "!", next.advance 1)
    else if name.isEmpty then some ("!", next)
    else none

def readHandle? (c : Cursor) : Option (Token × Cursor) := do
  let (name, c) ← readHandleName? (c.skipWhile isWhite)
  if !c.seesAny isWhite then none
  else
    let ((text, found), c) ← TagText.read? true (c.skipWhile isWhite)
    if found && endsWord c.rest then some (.handle name text, c) else none

/-- Reads a directive with the line that it stands on. -/
def read? (c : Cursor) : Option (Token × Cursor) := do
  let (name, c) := (c.advance 1).takeWhile isNameChar
  if !endsWord c.rest then none
  else
    let (token, c) ←
      if name == "YAML".toList then readVersion? c
      else if name == "TAG".toList then readHandle? c
      else none
    some (token, ← c.finishLine?)

end Directive

end CapabilityArena.Yaml
