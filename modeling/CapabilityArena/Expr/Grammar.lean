import CapabilityArena.Expr.Basic
import CapabilityArena.Expr.Token

/-!
From text to expression. Alternatives are separated by `|`, the conditions of one alternative by `+`, a
condition is a name, an expression in parentheses, or `!` before a condition.
-/

namespace CapabilityArena.Expr

/-- How many `!` and `(` may be open around a token. -/
def maxNesting : Nat := 128

/-- One item, and one more after each separator. No text has more separators than tokens, so the number
    of tokens is fuel enough. -/
def chain (separator : Token) (item : List Token → Except Problem (Expr × List Token)) :
    (fuel : Nat) → List Token → Except Problem (List Expr × List Token)
  | 0, tokens => (item tokens).map fun (term, rest) => ([term], rest)
  | fuel + 1, tokens => do
    let (term, rest) ← item tokens
    match rest with
    | [] => .ok ([term], [])
    | token :: after =>
      if token = separator then do
        let (terms, rest) ← chain separator item fuel after
        .ok (term :: terms, rest)
      else .ok ([term], token :: after)

/-- A single term stands for itself. -/
def joined (wrap : List Expr → Expr) : List Expr → Expr
  | [term] => term
  | terms => wrap terms

def conditions (condition : List Token → Except Problem (Expr × List Token)) (tokens : List Token) :
    Except Problem (Expr × List Token) :=
  (chain .plus condition tokens.length tokens).map fun (terms, rest) => (joined .all terms, rest)

def alternatives (condition : List Token → Except Problem (Expr × List Token))
    (tokens : List Token) : Except Problem (Expr × List Token) :=
  (chain .pipe (conditions condition) tokens.length tokens).map fun (terms, rest) =>
    (joined .any terms, rest)

/-- A condition, where `room` more `!` and `(` may be opened. -/
def condition : (room : Nat) → List Token → Except Problem (Expr × List Token)
  | _, [] => .error (.expectedName none)
  | _, .name n :: rest => .ok (.name n, rest)
  | 0, .bang :: _ => .error .tooDeep
  | 0, .opening :: _ => .error .tooDeep
  | room + 1, .bang :: rest => (condition room rest).map fun (term, rest) => (.not term, rest)
  | room + 1, .opening :: rest => do
    let (inner, rest) ← alternatives (condition room) rest
    match rest with
    | .closing :: rest => .ok (inner, rest)
    | _ => .error .unclosed
  | _, token :: _ => .error (.expectedName (some token))

/-- The expression that the whole text spells. -/
def parse (source : String) : Except Problem Expr :=
  match tokens source.toList with
  | .error found => .error (.unexpectedCharacter found source)
  | .ok tokens => do
    let (e, rest) ← alternatives (condition maxNesting) tokens
    match rest with
    | [] => .ok e
    | token :: _ => .error (.unexpectedToken token source)

end CapabilityArena.Expr
