/-!
The classes of characters that the layout of a document is made of.
-/

namespace CapabilityArena.Yaml

/-- A character that may stand in a document. Any other spoils the whole document, even in a comment. -/
def isAllowed (c : Char) : Bool :=
  let n := c.toNat
  n = 0x09 || n = 0x0a || n = 0x0d || (0x20 ≤ n && n ≤ 0x7e) || n = 0x85 || (0xa0 ≤ n && n ≤ 0xd7ff) ||
    (0xe000 ≤ n && n ≤ 0xfffd) || 0x10000 ≤ n

/-- White space within a line. -/
def isWhite (c : Char) : Bool := c = ' ' || c = '\t'

/-- A character that ends a line. -/
def isBreak (c : Char) : Bool :=
  c = '\n' || c = '\r' || c = '\u0085' || c = '\u2028' || c = '\u2029'

def isWhiteOrBreak (c : Char) : Bool := isWhite c || isBreak c

/-- A word ends here: white space follows, or the line or the text ends. -/
def endsWord : List Char → Bool
  | [] => true
  | c :: _ => isWhiteOrBreak c

/-- A character of a name: of an anchor, of a directive or between the marks of a tag handle. -/
def isNameChar (c : Char) : Bool := c.isAlphanum || c = '_' || c = '-'

/-- A bracket, brace or comma of the flow style. -/
def isFlowMark (c : Char) : Bool :=
  c = ',' || c = '[' || c = ']' || c = '\x7b' || c = '\x7d'

/-- A character with a meaning of its own in front of a word. -/
def isIndicator (c : Char) : Bool :=
  isFlowMark c || c = '-' || c = '?' || c = ':' || c = '#' || c = '&' || c = '*' || c = '!' || c = '|' ||
    c = '>' || c = '\x27' || c = '\x22' || c = '%' || c = '@' || c = '\x60'

/-- The text goes on with three times the given character and no word goes on after them. -/
def startsMark (mark : Char) : List Char → Bool
  | a :: b :: c :: rest => a = mark && b = mark && c = mark && endsWord rest
  | _ => false

/-- The text goes on with the marks that begin or end a document. -/
def startsDocumentMark (cs : List Char) : Bool := startsMark '-' cs || startsMark '.' cs

end CapabilityArena.Yaml
