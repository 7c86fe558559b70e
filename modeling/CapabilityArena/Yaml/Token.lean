/-!
Tokens: the words of a document, with the starts and ends of blocks that indentation implies.
-/

namespace CapabilityArena.Yaml

/-- The ways in which a scalar can be written, as far as its meaning depends on them. -/
inductive Style where
  | plain
  | literal
  | quoted
  deriving DecidableEq

/-- The text of a tag. An escape that names no character leaves a gap. -/
abbrev TagText := List (Option Char)

namespace TagText

def ofChars (cs : List Char) : TagText := cs.map some

/-- The text, if there is no gap in it. -/
def string? (tag : TagText) : Option String := (tag.mapM id).map String.ofList

end TagText

inductive Token where
  | version (major minor : Nat)
  /-- The directive that lets a handle stand for the start of a tag. -/
  | handle (name : String) (stands : TagText)
  | documentStart
  | documentEnd
  | blockSequenceStart
  | blockMappingStart
  | blockEnd
  | flowSequenceStart
  | flowSequenceEnd
  | flowMappingStart
  | flowMappingEnd
  | blockEntry
  | flowEntry
  | key
  | value
  | alias (name : String)
  | anchor (name : String)
  /-- Without a handle the suffix is the whole tag. -/
  | tag (handle : Option String) (suffix : TagText)
  | scalar (style : Style) (text : String)
  deriving DecidableEq

end CapabilityArena.Yaml
