import CapabilityArena.Yaml.Scalar.Gap

/-!
Plain scalars: words without quotation marks. They end at a comment, before a colon that ends a word, in
flow style at a bracket or a comma, and in block style on a line that is not indented enough.
-/

namespace CapabilityArena.Yaml.Plain

/-- A plain scalar may start here. -/
def starts (inFlow : Bool) : List Char → Bool
  | [] => false
  | c :: rest =>
    !(isWhiteOrBreak c || isIndicator c) ||
      (c = '-' && !(rest.head?.any isWhite)) ||
      (!inFlow && (c = '?' || c = ':') && !endsWord rest)

/-- The next word, which is empty where the scalar ends. In flow style a colon must not stand directly
    before a bracket, a comma or a question mark. -/
def word? (inFlow : Bool) : List Char → Option (List Char)
  | [] => some []
  | c :: rest =>
    if isWhiteOrBreak c then some []
    else if inFlow && c = ':' && rest.head?.any (fun next => isFlowMark next || next = '?') then none
    else if (c = ':' && endsWord rest) || (inFlow && isFlowMark c) then some []
    else (word? inFlow rest).map (c :: ·)

/-- A plain scalar as read: its text, whether its last line has ended, and what follows. -/
structure Result where
  text : List Char
  endsLine : Bool
  next : Cursor

/-- Reads on after a gap, which belongs to the scalar only if a word follows. -/
def readOn (inFlow : Bool) (column : Nat) : (fuel : Nat) → Gap → Cursor → Option Result
  | 0, _, _ => none
  | fuel + 1, gap, c =>
    if c.atDocumentMark || c.sees '#' then some ⟨[], gap.breaksLine, c⟩
    else do
      let word ← word? inFlow c.rest
      if word.isEmpty then some ⟨[], gap.breaksLine, c⟩
      else
        let text := gap.text ++ word
        let next := c.advance word.length
        if next.seesAny isWhiteOrBreak then
          let (gap, next) ← Gap.read? column next
          if !inFlow && next.column < column then some ⟨text, gap.breaksLine, next⟩
          else
            let result ← readOn inFlow column fuel gap next
            some { result with text := text ++ result.text }
        else some ⟨text, false, next⟩

/-- In block style the lines after the first start at the column given or further right. -/
def read? (inFlow : Bool) (column : Nat) (c : Cursor) : Option Result :=
  readOn inFlow column (c.rest.length + 1) .empty c

end CapabilityArena.Yaml.Plain
