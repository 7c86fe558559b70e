import CapabilityArena.Json.Basic
import CapabilityArena.Text.Hex

/-!
JSON text. `compact` writes no blank; `pretty` puts every item and member on a line of its own, indented by
two spaces for each level.
-/

namespace CapabilityArena.Json

/-- Control characters, the quotation mark and the backslash are escaped, and nothing else is. -/
def escapedChar (c : Char) : List Char :=
  if c = '\x22' then ['\\', '\x22']
  else if c = '\\' then ['\\', '\\']
  else if c = '\x08' then ['\\', 'b']
  else if c = '\t' then ['\\', 't']
  else if c = '\n' then ['\\', 'n']
  else if c = '\x0c' then ['\\', 'f']
  else if c = '\r' then ['\\', 'r']
  else if c.toNat < 0x20 then '\\' :: 'u' :: Text.Hex.padded 4 c.toNat
  else [c]

def stringText (s : String) : List Char :=
  '\x22' :: s.toList.flatMap escapedChar ++ ['\x22']

mutual

/-- The text of a document without blanks. -/
def compactChars : Json → List Char
  | .null => ['n', 'u', 'l', 'l']
  | .bool true => ['t', 'r', 'u', 'e']
  | .bool false => ['f', 'a', 'l', 's', 'e']
  | .number n => n.text
  | .str s => stringText s
  | .unreadable => ['n', 'u', 'l', 'l']
  | .arr [] => ['[', ']']
  | .arr (item :: items) => '[' :: compactChars item ++ compactItems items
  | .obj [] => ['\x7b', '\x7d']
  | .obj ((name, value) :: members) =>
    '\x7b' :: stringText name ++ ':' :: compactChars value ++ compactMembers members

/-- The items after the first, and the closing bracket. -/
def compactItems : List Json → List Char
  | [] => [']']
  | item :: items => ',' :: compactChars item ++ compactItems items

/-- The members after the first, and the closing brace. -/
def compactMembers : List (String × Json) → List Char
  | [] => ['\x7d']
  | (name, value) :: members =>
    ',' :: stringText name ++ ':' :: compactChars value ++ compactMembers members

end

def compact (j : Json) : String := String.ofList j.compactChars

/-- A new line at a level. -/
def newline (level : Nat) : List Char := '\n' :: List.replicate (2 * level) ' '

mutual

/-- The text of a document whose first character stands at the given level. -/
def prettyChars (level : Nat) : Json → List Char
  | .arr (item :: items) =>
    '[' :: newline (level + 1) ++ prettyChars (level + 1) item ++ prettyItems level items
  | .obj ((name, value) :: members) =>
    '\x7b' :: newline (level + 1) ++ stringText name ++ ':' :: ' ' ::
      prettyChars (level + 1) value ++ prettyMembers level members
  | .null => ['n', 'u', 'l', 'l']
  | .bool b => compactChars (.bool b)
  | .number n => n.text
  | .str s => stringText s
  | .unreadable => ['n', 'u', 'l', 'l']
  | .arr [] => ['[', ']']
  | .obj [] => ['\x7b', '\x7d']

/-- The items after the first, and the closing bracket at the outer level. -/
def prettyItems (level : Nat) : List Json → List Char
  | [] => newline level ++ [']']
  | item :: items =>
    ',' :: newline (level + 1) ++ prettyChars (level + 1) item ++ prettyItems level items

/-- The members after the first, and the closing brace at the outer level. -/
def prettyMembers (level : Nat) : List (String × Json) → List Char
  | [] => newline level ++ ['\x7d']
  | (name, value) :: members =>
    ',' :: newline (level + 1) ++ stringText name ++ ':' :: ' ' ::
      prettyChars (level + 1) value ++ prettyMembers level members

end

def pretty (j : Json) : String := String.ofList (j.prettyChars 0)

end CapabilityArena.Json
