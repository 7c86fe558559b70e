import CapabilityArena.Decimal.Numeral
import CapabilityArena.Text.Hex

/-!
What the text of a plain scalar can stand for: null, a truth value, a whole number or a decimal one.
-/

namespace CapabilityArena.Yaml.Schema

def isNull (text : String) : Bool :=
  text = "null" || text = "Null" || text = "NULL" || text = "~"

def bool? (text : String) : Option Bool :=
  if text = "true" || text = "True" || text = "TRUE" then some true
  else if text = "false" || text = "False" || text = "FALSE" then some false
  else none

/-- The number that digits of a radix up to sixteen name. -/
def natural? (radix : Nat) (digits : List Char) : Option Nat :=
  if digits.isEmpty then none
  else digits.foldlM (fun n c => do
    let digit ← Text.Hex.digitValue? c
    if digit < radix then some (radix * n + digit) else none) 0

/-- Digits of which the first is a needless zero; these are no number. -/
def isPadded (cs : List Char) : Bool :=
  1 < cs.length && cs.head? == some '0' && cs.all Char.isDigit

/-- A number without a sign, where a radix other than ten is stated in front. -/
def magnitude? (cs : List Char) : Option Nat :=
  match cs with
  | '0' :: 'x' :: digits => natural? 16 digits
  | '0' :: 'o' :: digits => natural? 8 digits
  | '0' :: 'b' :: digits => natural? 2 digits
  | _ => if isPadded cs then none else natural? 10 cs

/-- A whole number that is not written with a minus sign. -/
def unsigned? (text : String) : Option Nat :=
  match text.toList with
  | '+' :: rest => magnitude? rest
  | cs => magnitude? cs

def integer? (text : String) : Option Int :=
  match text.toList with
  | '-' :: rest => (magnitude? rest).map fun n => -(n : Int)
  | _ => (unsigned? text).map fun n => (n : Int)

def isDigits (cs : List Char) : Bool := !cs.isEmpty && cs.all Char.isDigit

/-- The exponent after its letter, with or without a sign. -/
def exponent? : List Char → Option (Bool × List Char)
  | '+' :: digits => if isDigits digits then some (false, digits) else none
  | '-' :: digits => if isDigits digits then some (true, digits) else none
  | digits => if isDigits digits then some (false, digits) else none

/-- A decimal number without a sign: digits before or after the point, or both. -/
def numeral? (negative : Bool) (cs : List Char) : Option Decimal.Numeral := do
  let whole := cs.takeWhile Char.isDigit
  let rest := cs.dropWhile Char.isDigit
  let (fraction, rest) := match rest with
    | '.' :: rest => (rest.takeWhile Char.isDigit, rest.dropWhile Char.isDigit)
    | _ => ([], rest)
  if whole.isEmpty && fraction.isEmpty then none
  else match rest with
    | [] => some ⟨negative, whole, fraction, none⟩
    | letter :: rest =>
      if letter = 'e' ∨ letter = 'E' then
        return ⟨negative, whole, fraction, some (← exponent? rest)⟩
      else none

def isInfinity (cs : List Char) : Bool :=
  cs = ".inf".toList || cs = ".Inf".toList || cs = ".INF".toList

def isNaN (cs : List Char) : Bool :=
  cs = ".nan".toList || cs = ".NaN".toList || cs = ".NAN".toList

/-- The number nearest to a decimal without a sign; none if it is too large for a finite one. -/
def finite? (negative : Bool) (cs : List Char) : Option Decimal.Binary64 := do
  let x := (← numeral? negative cs).nearest
  if x.isInfinite then none else some x

/-- A decimal number, an infinity or, without a sign, what is not a number. -/
def float? (text : String) : Option Decimal.Binary64 :=
  match text.toList with
  | '+' :: rest => if isInfinity rest then some (.infinity false) else finite? false rest
  | '-' :: rest => if isInfinity rest then some (.infinity true) else finite? true rest
  | cs =>
    if isInfinity cs then some (.infinity false)
    else if isNaN cs then some .nan
    else finite? false cs

end CapabilityArena.Yaml.Schema
