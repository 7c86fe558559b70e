import CapabilityArena.Blake3.Tree
import CapabilityArena.Json.Reader
import CapabilityArena.Json.Writer

/-!
Offers of capabilities from outside. What is signed is the canonical text of an offer: its JSON without the
digest.
-/

namespace CapabilityArena

structure Offer where
  origin : String
  capabilities : List String
  /-- The digest of the canonical text in hexadecimal, as the offer carries it. -/
  digest : Option String
  deriving DecidableEq

namespace Offer

def unsigned (origin : String) (capabilities : List String) : Offer := ⟨origin, capabilities, none⟩

/-- The member for the digest is left out when there is none. -/
def toJson (o : Offer) : Json :=
  .obj ([("origin", .str o.origin), ("capabilities", .ofList .str o.capabilities)] ++
    match o.digest with
    | some digest => [("digest", .str digest)]
    | none => [])

def canonicalText (o : Offer) : String :=
  (Json.obj [("origin", .str o.origin), ("capabilities", .ofList .str o.capabilities)]).compact

def canonicalBytes (o : Offer) : List UInt8 := o.canonicalText.toUTF8.data.toList

def textOf? : Json → Option String
  | .str s => some s
  | _ => none

def textsOf? : Json → Option (List String)
  | .arr items => items.mapM textOf?
  | _ => none

def digestOf? : Json → Option (Option String)
  | .null => some none
  | .str s => some (some s)
  | _ => none

/-- A known member occurs once. -/
def single? (name : String) (members : List (String × Json)) : Option (Option Json) :=
  match members.filter (·.1 == name) with
  | [] => some none
  | [(_, value)] => some (some value)
  | _ => none

/-- An offer is an object, whose unknown members are ignored, or an array of its parts in order. -/
def ofJson? : Json → Option Offer
  | .obj members => do
    let origin ← (← single? "origin" members).bind textOf?
    let capabilities ← (← single? "capabilities" members).bind textsOf?
    let digest ← ((← single? "digest" members).getD .null |> digestOf?)
    some ⟨origin, capabilities, digest⟩
  | .arr [origin, capabilities] => do
    some ⟨← textOf? origin, ← textsOf? capabilities, none⟩
  | .arr [origin, capabilities, digest] => do
    some ⟨← textOf? origin, ← textsOf? capabilities, ← digestOf? digest⟩
  | _ => none

def read? (text : String) : Option Offer := (Json.read? text).bind ofJson?

end Offer

end CapabilityArena
