import CapabilityArena.Text.GraphemeExtend
import CapabilityArena.Text.Printable
import CapabilityArena.Text.Hex

/-!
Text between quotation marks, with everything that would not show as itself written as an escape.
-/

namespace CapabilityArena.Text

/-- The halfwidth sound marks of katakana. They extend a grapheme, but take a place of their own. -/
def isHalfwidthSoundMark (c : Char) : Bool := c = '\uff9e' || c = '\uff9f'

/-- A character that would be drawn on the one before it, and so on the quotation mark. -/
def isDrawnOnPrevious (c : Char) : Bool := isGraphemeExtend c && !isHalfwidthSoundMark c

/-- One character between quotation marks of the kind `mark`. The other kind of mark shows as itself.
    A character that is drawn on another is escaped even though it is printable. -/
def escaped (mark c : Char) : List Char :=
  if c = '\x00' then ['\\', '0']
  else if c = '\t' then ['\\', 't']
  else if c = '\r' then ['\\', 'r']
  else if c = '\n' then ['\\', 'n']
  else if c = '\\' ∨ c = mark then ['\\', c]
  else if isDrawnOnPrevious c || !isPrintable c then
    ['\\', 'u', '\x7b'] ++ Hex.plain c.toNat ++ ['\x7d']
  else [c]

/-- Text between double quotation marks. -/
def quoted (text : String) : String :=
  String.ofList ('\x22' :: text.toList.flatMap (escaped '\x22') ++ ['\x22'])

/-- A character between single quotation marks. -/
def quotedChar (c : Char) : String :=
  String.ofList ('\x27' :: escaped '\x27' c ++ ['\x27'])

end CapabilityArena.Text
