import CapabilityArena.Yaml.Scalar.Block
import CapabilityArena.Yaml.Scalar.Plain
import CapabilityArena.Yaml.Scalar.Quoted
import CapabilityArena.Yaml.Tag

/-!
Finding the tokens of a text. Two things make this more than reading words one after another: indentation
opens and closes blocks, and whether a word was a key is known only when the colon after it comes.
-/

namespace CapabilityArena.Yaml

/-- A place where a key may have started. -/
structure KeyPlace where
  /-- Nothing else than a key may start here. -/
  required : Bool
  /-- How many tokens were found before. -/
  position : Nat
  mark : Mark

/-- A key must be followed by its colon on the same line within 1024 bytes. -/
def KeyPlace.isPast (place : KeyPlace) (now : Mark) : Bool :=
  place.mark.line < now.line || place.mark.index + 1024 < now.index

/-- The tokens found so far, and what the layout has left open. -/
structure TokenStream where
  cursor : Cursor
  tokens : Array Token
  /-- The columns of the open blocks, the innermost first. -/
  blocks : List Nat
  /-- Where the key of the innermost collection may have started. -/
  place : Option KeyPlace
  /-- The same for the collections around, one for each open flow collection. -/
  outerPlaces : List (Option KeyPlace)
  /-- A key may start here. -/
  keyAllowed : Bool

namespace TokenStream

def ofText (text : String) : TokenStream := ⟨.ofText text, #[], [], none, [], true⟩

def inFlow (s : TokenStream) : Bool := !s.outerPlaces.isEmpty

/-- The first column that lies inside the innermost block. -/
def innerColumn (s : TokenStream) : Nat :=
  match s.blocks with
  | [] => 0
  | column :: _ => column + 1

def push (s : TokenStream) (token : Token) : TokenStream := { s with tokens := s.tokens.push token }

/-- Passes white space, comments and ends of lines. A tab counts as white space only where no key may
    start. -/
def skipToToken : (fuel : Nat) → TokenStream → TokenStream
  | 0, s => s
  | fuel + 1, s =>
    let c := if s.cursor.column == 0 && s.cursor.sees '\ufeff' then s.cursor.advance 1 else s.cursor
    let tabs := s.inFlow || !s.keyAllowed
    let c := (c.skipWhile fun char => char = ' ' || (tabs && char = '\t')).skipComment
    match c.readBreak? with
    | some (_, next) =>
      skipToToken fuel { s with cursor := next, keyAllowed := s.keyAllowed || !s.inFlow }
    | none => { s with cursor := c }

/-- Gives up the places of keys whose colon can no longer come. -/
def dropPastPlaces? (s : TokenStream) : Option TokenStream :=
  let isPast (place : KeyPlace) : Bool := place.isPast s.cursor.mark
  if (s.place :: s.outerPlaces).any (·.any fun place => isPast place && place.required) then none
  else some { s with
    place := s.place.filter (!isPast ·),
    outerPlaces := s.outerPlaces.map (·.filter (!isPast ·)) }

/-- Gives up the place of a key in the innermost collection. -/
def forgetPlace? (s : TokenStream) : Option TokenStream :=
  if s.place.any (·.required) then none else some { s with place := none }

/-- Notes that a key may start here. -/
def notePlace? (s : TokenStream) : Option TokenStream :=
  if s.keyAllowed then do
    let s ← s.forgetPlace?
    let required := !s.inFlow && s.blocks.head? == some s.cursor.column
    some { s with place := some ⟨required, s.tokens.size, s.cursor.mark⟩ }
  else some s

/-- Opens a block at the column if that is right of the innermost one. -/
def openBlock (s : TokenStream) (column position : Nat) (token : Token) : TokenStream :=
  if !s.inFlow && s.blocks.head?.all (· < column) then
    { s with
      blocks := column :: s.blocks,
      tokens := s.tokens.insertIdxIfInBounds position token }
  else s

/-- Closes the blocks right of the column, or all of them. -/
def closeBlocks (s : TokenStream) (column : Option Nat) : TokenStream :=
  if s.inFlow then s
  else
    let isClosed (block : Nat) : Bool := column.all (· < block)
    { s with
      blocks := s.blocks.dropWhile isClosed,
      tokens := s.tokens ++ (s.blocks.takeWhile isClosed).map fun _ => Token.blockEnd }

/-- Adds a token of the given length. -/
def pass (s : TokenStream) (length : Nat) (token : Token) : TokenStream :=
  { s.push token with cursor := s.cursor.advance length }

/-- Adds a token after which the text goes on at the cursor. -/
def passTo (s : TokenStream) (next : Token × Cursor) : TokenStream :=
  { s.push next.1 with cursor := next.2 }

def readDirective? (s : TokenStream) : Option TokenStream := do
  let s ← (s.closeBlocks none).forgetPlace?
  return { s with keyAllowed := false }.passTo (← Directive.read? s.cursor)

def readDocumentMark? (s : TokenStream) (token : Token) : Option TokenStream := do
  let s ← (s.closeBlocks none).forgetPlace?
  return { s with keyAllowed := false }.pass 3 token

def readFlowStart? (s : TokenStream) (token : Token) : Option TokenStream := do
  let s ← s.notePlace?
  return { s with
    place := none, outerPlaces := s.place :: s.outerPlaces, keyAllowed := true }.pass 1 token

def readFlowEnd? (s : TokenStream) (token : Token) : Option TokenStream := do
  let s ← s.forgetPlace?
  return { s with
    place := s.outerPlaces.head?.join,
    outerPlaces := s.outerPlaces.tail,
    keyAllowed := false }.pass 1 token

def readFlowEntry? (s : TokenStream) : Option TokenStream := do
  let s ← s.forgetPlace?
  return { s with keyAllowed := true }.pass 1 .flowEntry

def readBlockEntry? (s : TokenStream) : Option TokenStream := do
  if !s.inFlow && !s.keyAllowed then none
  else
    let s := s.openBlock s.cursor.column s.tokens.size .blockSequenceStart
    let s ← s.forgetPlace?
    return { s with keyAllowed := true }.pass 1 .blockEntry

def readKey? (s : TokenStream) : Option TokenStream := do
  if !s.inFlow && !s.keyAllowed then none
  else
    let s := s.openBlock s.cursor.column s.tokens.size .blockMappingStart
    let s ← s.forgetPlace?
    return { s with keyAllowed := !s.inFlow }.pass 1 .key

/-- A colon makes a key of what started at the noted place. -/
def readValue? (s : TokenStream) : Option TokenStream :=
  match s.place with
  | some place =>
    let s := { s with
      tokens := s.tokens.insertIdxIfInBounds place.position .key, place := none, keyAllowed := false }
    some ((s.openBlock place.mark.column place.position .blockMappingStart).pass 1 .value)
  | none =>
    if !s.inFlow && !s.keyAllowed then none
    else
      let s := s.openBlock s.cursor.column s.tokens.size .blockMappingStart
      some ({ s with keyAllowed := !s.inFlow }.pass 1 .value)

/-- Adds a token that may be a key or belong to one. -/
def readKeyPart? (s : TokenStream) (read : Cursor → Option (Token × Cursor)) : Option TokenStream := do
  let s ← s.notePlace?
  return { s with keyAllowed := false }.passTo (← read s.cursor)

def readBlockScalar? (s : TokenStream) (literal : Bool) : Option TokenStream := do
  let s ← s.forgetPlace?
  let (text, next) ← Block.read? literal s.innerColumn s.cursor
  let style := if literal then Style.literal else .quoted
  return { s with keyAllowed := true }.passTo (.scalar style (String.ofList text), next)

def readPlain? (s : TokenStream) : Option TokenStream := do
  let s ← s.notePlace?
  let result ← Plain.read? s.inFlow s.innerColumn s.cursor
  return { s with keyAllowed := result.endsLine }.passTo
    (.scalar .plain (String.ofList result.text), result.next)

/-- Reads the token that starts at the cursor, where the text goes on with these characters. -/
def readToken? (s : TokenStream) (char : Char) (rest : List Char) : Option TokenStream :=
  if s.cursor.column == 0 && char = '%' then s.readDirective?
  else if s.cursor.column == 0 && startsMark '-' s.cursor.rest then s.readDocumentMark? .documentStart
  else if s.cursor.column == 0 && startsMark '.' s.cursor.rest then s.readDocumentMark? .documentEnd
  else if char = '[' then s.readFlowStart? .flowSequenceStart
  else if char = '\x7b' then s.readFlowStart? .flowMappingStart
  else if char = ']' then s.readFlowEnd? .flowSequenceEnd
  else if char = '\x7d' then s.readFlowEnd? .flowMappingEnd
  else if char = ',' then s.readFlowEntry?
  else if char = '-' && endsWord rest then s.readBlockEntry?
  else if char = '?' && (s.inFlow || endsWord rest) then s.readKey?
  else if char = ':' && (s.inFlow || endsWord rest) then s.readValue?
  else if char = '*' then s.readKeyPart? fun c => (Anchor.read? c).map fun (name, c) => (.alias name, c)
  else if char = '&' then s.readKeyPart? fun c => (Anchor.read? c).map fun (name, c) => (.anchor name, c)
  else if char = '!' then s.readKeyPart? (Tag.read? s.inFlow)
  else if char = '|' && !s.inFlow then s.readBlockScalar? true
  else if char = '>' && !s.inFlow then s.readBlockScalar? false
  else if char = '\x27' || char = '\x22' then
    s.readKeyPart? fun c => (Quoted.read? char c).map fun (text, c) =>
      (.scalar .quoted (String.ofList text), c)
  else if Plain.starts s.inFlow (char :: rest) then s.readPlain?
  else none

/-- At the end of the text every block closes. -/
def finish? (s : TokenStream) : Option (List Token) := do
  let s ← (s.closeBlocks none).forgetPlace?
  some s.tokens.toList

/-- Reads all tokens. Each of them takes at least one character. -/
def readAll? : (fuel : Nat) → TokenStream → Option (List Token)
  | 0, _ => none
  | fuel + 1, s => do
    let s ← (s.skipToToken (fuel + 1)).dropPastPlaces?
    let s := s.closeBlocks (some s.cursor.column)
    match s.cursor.rest with
    | [] => s.finish?
    | char :: rest => do
      let s ← s.readToken? char rest
      readAll? fuel s

end TokenStream

/-- The tokens of a text, if it is well laid out. -/
def tokens? (text : String) : Option (List Token) :=
  if text.toList.all isAllowed then
    (TokenStream.ofText text).readAll? (text.toList.length + 1)
  else none

end CapabilityArena.Yaml
