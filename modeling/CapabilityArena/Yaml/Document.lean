import CapabilityArena.Yaml.TokenStream
import CapabilityArena.Yaml.Tree

/-!
Documents: the grammar that builds a tree from tokens. A text holds at most one document.
-/

namespace CapabilityArena.Yaml

/-- What is still to be read of a document, and the names met so far. -/
structure Unread where
  tokens : List Token
  /-- What the handles of tags stand for. -/
  handles : List (String × TagText)
  /-- The numbers of the anchors that can be named from here on. -/
  anchors : List (String × Nat)

/-- A part of the grammar: what it makes of the next tokens, unless they do not fit. -/
abbrev Grammar (α : Type) := StateT Unread Option α

namespace Grammar

def peek : Grammar (Option Token) := return (← get).tokens.head?

def skip : Grammar Unit := modify fun u => { u with tokens := u.tokens.tail }

/-- Reads the token if it is next. -/
def accept (token : Token) : Grammar Bool := do
  if (← peek) == some token then
    skip
    return true
  else return false

def require (token : Token) : Grammar Unit := do
  if !(← accept token) then failure

/-- The next token is one of these. -/
def isNext (tokens : List Token) : Grammar Bool := return (← peek).any (tokens.contains ·)

/-- A node that is left out where one of these tokens is next. -/
def orBlank (ends : List Token) (node : Grammar Tree) : Grammar Tree := do
  if ← isNext ends then return .blank else node

/-- Numbers an anchor. The number counts the names met before; a name met again is used for the later
    node from there on, and the number may then be given twice. -/
def nameAnchor (name : String) : Grammar Nat := do
  let u ← get
  let number := u.anchors.length
  set { u with anchors := (name, number) :: u.anchors.filter (·.1 != name) }
  return number

/-- The whole text of a tag. -/
def tagText (handle : Option String) (suffix : TagText) : Grammar TagText := do
  match handle with
  | none => return suffix
  | some handle =>
    match (← get).handles.lookup handle with
    | some text => return text ++ suffix
    | none => failure

def readTag : Grammar (Option TagText) := do
  match ← peek with
  | some (.tag handle suffix) =>
    skip
    return some (← tagText handle suffix)
  | _ => return none

def readAnchor : Grammar (Option Nat) := do
  match ← peek with
  | some (.anchor name) =>
    skip
    return some (← nameAnchor name)
  | _ => return none

/-- Reads an anchor and a tag in either order. -/
def readProperties : Grammar Properties := do
  match ← readAnchor with
  | some anchor => return ⟨some anchor, ← readTag⟩
  | none =>
    let tag ← readTag
    return ⟨← readAnchor, tag⟩

/-- A pair without braces in a flow sequence. Where its key is left out, the token after the question mark
    is passed over. -/
def readFlowPair (node : Grammar Tree) : Grammar Tree := do
  let key ←
    if ← isNext [.value, .flowEntry, .flowSequenceEnd] then
      skip
      pure Tree.blank
    else node
  let value ←
    if ← accept .value then orBlank [.flowEntry, .flowSequenceEnd] node else pure .blank
  return .mapping .none [(key, value)]

mutual

/-- A node. In block context blocks may start here, and in a block mapping the items of a sequence may
    stand without a block of their own. -/
def readNode : (fuel : Nat) → (inBlock inMapping : Bool) → Grammar Tree
  | 0, _, _ => failure
  | fuel + 1, inBlock, inMapping => do
    match ← peek with
    | some (.alias name) =>
      skip
      match (← get).anchors.lookup name with
      | some number => return .alias number
      | none => failure
    | _ =>
      let p ← readProperties
      match ← peek with
      | some (.scalar style text) =>
        skip
        return .scalar p style text
      | some .flowSequenceStart =>
        skip
        return .sequence p (← readFlowItems fuel true)
      | some .flowMappingStart =>
        skip
        return .mapping p (← readFlowEntries fuel true)
      | token =>
        if inMapping && token == some .blockEntry then
          return .sequence p (← readOpenItems fuel)
        else if inBlock && token == some .blockSequenceStart then
          skip
          return .sequence p (← readBlockItems fuel)
        else if inBlock && token == some .blockMappingStart then
          skip
          return .mapping p (← readBlockEntries fuel)
        else if p.anchor.isSome || p.tag.isSome then
          return .scalar p .plain ""
        else failure

def readBlockItems : (fuel : Nat) → Grammar (List Tree)
  | 0 => failure
  | fuel + 1 => do
    if ← accept .blockEnd then return []
    else
      require .blockEntry
      let item ← orBlank [.blockEntry, .blockEnd] (readNode fuel true false)
      return item :: (← readBlockItems fuel)

/-- The items of a sequence without a block of its own. -/
def readOpenItems : (fuel : Nat) → Grammar (List Tree)
  | 0 => failure
  | fuel + 1 => do
    if ← accept .blockEntry then
      let item ← orBlank [.blockEntry, .key, .value, .blockEnd] (readNode fuel true false)
      return item :: (← readOpenItems fuel)
    else return []

def readBlockEntries : (fuel : Nat) → Grammar (List (Tree × Tree))
  | 0 => failure
  | fuel + 1 => do
    if ← accept .blockEnd then return []
    else
      require .key
      let key ← orBlank [.key, .value, .blockEnd] (readNode fuel true true)
      let value ←
        if ← accept .value then orBlank [.key, .value, .blockEnd] (readNode fuel true true)
        else pure .blank
      return (key, value) :: (← readBlockEntries fuel)

def readFlowItems : (fuel : Nat) → (atStart : Bool) → Grammar (List Tree)
  | 0, _ => failure
  | fuel + 1, atStart => do
    if ← accept .flowSequenceEnd then return []
    else
      if !atStart then require .flowEntry
      if ← accept .key then
        let pair ← readFlowPair (readNode fuel false false)
        return pair :: (← readFlowItems fuel false)
      else if ← accept .flowSequenceEnd then return []
      else
        let item ← readNode fuel false false
        return item :: (← readFlowItems fuel false)

def readFlowEntries : (fuel : Nat) → (atStart : Bool) → Grammar (List (Tree × Tree))
  | 0, _ => failure
  | fuel + 1, atStart => do
    if ← accept .flowMappingEnd then return []
    else
      if !atStart then require .flowEntry
      if ← accept .key then
        let key ← orBlank [.value, .flowEntry, .flowMappingEnd] (readNode fuel false false)
        let value ←
          if ← accept .value then orBlank [.flowEntry, .flowMappingEnd] (readNode fuel false false)
          else pure .blank
        return (key, value) :: (← readFlowEntries fuel false)
      else if ← accept .flowMappingEnd then return []
      else
        let key ← readNode fuel false false
        return (key, .blank) :: (← readFlowEntries fuel false)

end

/-- The handles that need no directive. -/
def standardHandles : List (String × TagText) :=
  [("!", TagText.ofChars ['!']), ("!!", TagText.ofChars "tag:yaml.org,2002:".toList)]

/-- Reads directives: at most one version, which must be 1.1 or 1.2, and each handle at most once. -/
def readDirectives : (fuel : Nat) → (versioned : Bool) → Grammar Unit
  | 0, _ => failure
  | fuel + 1, versioned => do
    match ← peek with
    | some (.version major minor) =>
      if versioned || major ≠ 1 || (minor ≠ 1 && minor ≠ 2) then failure
      else
        skip
        readDirectives fuel true
    | some (.handle name text) =>
      let u ← get
      if u.handles.any (·.1 == name) then failure
      else
        set { u with handles := u.handles ++ [(name, text)] }
        skip
        readDirectives fuel versioned
    | _ => modify fun u => { u with handles := u.handles ++ standardHandles }

def isDirective : Token → Bool
  | .version _ _ => true
  | .handle _ _ => true
  | _ => false

/-- Reads the root of a document, after its directives and its mark if it has them. -/
def readRoot (fuel : Nat) : Grammar Tree := do
  let first ← peek
  readDirectives fuel false
  if first.any isDirective || first == some .documentStart then
    require .documentStart
    match ← peek with
    | none => return .blank
    | some token =>
      if isDirective token || token = .documentStart || token = .documentEnd then return .blank
      else readNode fuel true false
  else readNode fuel true false

end Grammar

/-- The tree of a text and the nodes that its aliases name, a later node of a number before an earlier. -/
structure Document where
  /-- Absent when the text holds no document. -/
  root : Option Tree
  targets : List (Nat × Tree)

namespace Document

def ofTokens? (tokens : List Token) : Option Document :=
  if tokens.isEmpty then some ⟨none, []⟩
  else do
    let (root, unread) ← (Grammar.readRoot (2 * tokens.length + 2)).run ⟨tokens, [], []⟩
    if unread.tokens.all (· = .documentEnd) then some ⟨some root, root.anchored.reverse⟩ else none

/-- The document that a text consists of. -/
def ofText? (text : String) : Option Document := do ofTokens? (← tokens? text)

/-- How many aliases may be followed in all while the document is read. -/
def aliasLimit (d : Document) : Nat := 100 * (d.root.map Tree.steps).getD 1

end Document

end CapabilityArena.Yaml
