import CapabilityArena.Text.Alphanumeric
import CapabilityArena.Text.Blank

/-!
The tokens of an expression. Blanks separate tokens and are dropped; a name is as long as it can be.
-/

namespace CapabilityArena.Expr

inductive Token where
  | name (name : String)
  | plus
  | pipe
  | bang
  | opening
  | closing
  deriving DecidableEq

namespace Token

def quoted (content : String) : String := "\x60" ++ content ++ "\x60"

/-- The token as it stands in a message. -/
def text : Token → String
  | .name n => quoted n
  | .plus => quoted "+"
  | .pipe => quoted "|"
  | .bang => quoted "!"
  | .opening => quoted "("
  | .closing => quoted ")"

end Token

/-- Letters and numbers of any script, and four marks. -/
def isNameChar (c : Char) : Bool :=
  Text.isAlphanumeric c || c = '_' || c = '-' || c = '.' || c = ':'

/-- The token that a character is by itself. -/
def operator? (c : Char) : Option Token :=
  if c = '+' then some .plus
  else if c = '|' then some .pipe
  else if c = '!' then some .bang
  else if c = '(' then some .opening
  else if c = ')' then some .closing
  else none

/-- Puts a character before the tokens of the text after it: in front of the name that this text begins
    with, if it does, and else as a name of its own. -/
def prependNameChar (c : Char) (after : List Char) (tokens : List Token) : List Token :=
  match after.head?, tokens with
  | some next, .name n :: rest =>
    if isNameChar next then .name (String.ofList (c :: n.toList)) :: rest
    else .name (String.ofList [c]) :: tokens
  | _, _ => .name (String.ofList [c]) :: tokens

/-- The tokens of a text, or the first character that belongs to none. -/
def tokens : List Char → Except Char (List Token)
  | [] => .ok []
  | c :: rest =>
    if Text.isBlank c then tokens rest
    else match operator? c with
      | some token => (tokens rest).map (token :: ·)
      | none =>
        if isNameChar c then (tokens rest).map (prependNameChar c rest) else .error c

/-- Why a text is no expression. -/
inductive Problem where
  | unexpectedCharacter (found : Char) (source : String)
  | unexpectedToken (found : Token) (source : String)
  | expectedName (found : Option Token)
  | unclosed
  | tooDeep
  deriving DecidableEq

def Problem.message : Problem → String
  | .unexpectedCharacter found source =>
    "unexpected character " ++ Token.quoted (String.ofList [found]) ++ " in " ++ Token.quoted source
  | .unexpectedToken found source => "unexpected " ++ found.text ++ " in " ++ Token.quoted source
  | .expectedName none => "expected a capability name, found end of input"
  | .expectedName (some found) => "expected a capability name, found " ++ found.text
  | .unclosed => "unclosed parenthesis"
  | .tooDeep => "expression nested too deeply"

end CapabilityArena.Expr
