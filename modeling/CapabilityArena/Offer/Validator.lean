import CapabilityArena.Dictionary.Basic
import CapabilityArena.Offer.Basic
import CapabilityArena.Text.Hex
import CapabilityArena.Text.Quoted

/-!
Deciding whether an offer is accepted, and the keyed digest that signs one.
-/

namespace CapabilityArena

/-- Accepts an offer or gives the reason against it. -/
abbrev Validator := Offer → Except String Unit

/-- A key of thirty-two bytes. -/
abbrev DigestKey := Vector UInt8 32

namespace DigestKey

/-- The key that a passphrase stands for. -/
def ofSecret (secret : String) : DigestKey :=
  ⟨(Blake3.deriveKey "modus negotiation digest v1".toUTF8.data.toList
      secret.toUTF8.data.toList).toArray, by simp [Blake3.deriveKey, Blake3.length_hashWith]⟩

end DigestKey

namespace Offer

/-- The keyed hash of the canonical text. -/
def digestWith (key : DigestKey) (o : Offer) : List UInt8 :=
  Blake3.keyedHash key.toList o.canonicalBytes

def signed (key : DigestKey) (o : Offer) : Offer :=
  { o with digest := some (String.ofList (Text.Hex.ofBytes (o.digestWith key))) }

end Offer

namespace Validator

def rejectAll : Validator := fun o =>
  .error ("offers from " ++ o.origin ++ " are not accepted")

def allowOrigins (origins : KeySet String) : Validator := fun o =>
  if origins.contains o.origin then .ok () else .error ("origin " ++ o.origin ++ " is not allowed")

/-- Why a text is not the hexadecimal form of thirty-two bytes. -/
inductive DigestProblem where
  | length (received : Nat)
  /-- The first byte that is no digit. -/
  | character (byte : UInt8)
  deriving DecidableEq

def DigestProblem.message : DigestProblem → String
  | .length received => "expected 64 hex bytes, received " ++ toString received
  | .character byte =>
    "invalid hex character: " ++
      if byte < 128 then Text.quotedChar (Char.ofNat byte.toNat)
      else "0x" ++ String.ofList (Text.Hex.plain byte.toNat)

def byteDigit (byte : UInt8) : Except DigestProblem Nat :=
  match Text.Hex.digitValue? (Char.ofNat byte.toNat) with
  | some value => .ok value
  | none => .error (.character byte)

/-- The bytes that pairs of digits stand for. -/
def pairs : List UInt8 → Except DigestProblem (List UInt8)
  | high :: low :: rest => do
    let h ← byteDigit high
    let l ← byteDigit low
    let bytes ← pairs rest
    .ok (UInt8.ofNat (16 * h + l) :: bytes)
  | _ => .ok []

/-- Reads a digest. The length is that of its UTF-8 form and is checked first. -/
def readDigest (text : String) : Except DigestProblem (List UInt8) :=
  let bytes := text.toUTF8.data.toList
  if bytes.length = 64 then pairs bytes else .error (.length bytes.length)

/-- Accepts offers that were signed with a key and not changed since. -/
def keyedDigest (key : DigestKey) : Validator := fun o =>
  match o.digest with
  | none => .error "offer carries no digest"
  | some text =>
    match readDigest text with
    | .error problem => .error ("malformed digest: " ++ problem.message)
    | .ok carried =>
      if carried = o.digestWith key then .ok () else .error "digest mismatch"

end Validator

end CapabilityArena
