import CapabilityArena.Offer.Validator
import CapabilityArena.Proofs.Offer.Canonical
import CapabilityArena.Proofs.Reading

/-!
What a keyed digest vouches for. A digest is read exactly if it is sixty-four hexadecimal digits, and then
it is accepted exactly if they spell the keyed hash of the offer that carries it. A digest taken from another
offer is therefore good for the offers with the same origin and capabilities and for no others, as long as
the hash tells the two canonical texts apart.
-/

namespace CapabilityArena

namespace Validator

variable {bytes digits : List UInt8} {text : String} {key : DigestKey} {o : Offer}

theorem byteDigit_eq_ok_iff {b : UInt8} {value : Nat} :
    byteDigit b = .ok value ↔ Text.Hex.digitValue? (Char.ofNat b.toNat) = some value := by
  unfold byteDigit
  cases Text.Hex.digitValue? (Char.ofNat b.toNat) <;> simp

/-- Pairs of bytes are read as the digits that they are the numbers of. -/
theorem pairs_eq_ok_iff (heven : digits.length % 2 = 0) :
    pairs digits = .ok bytes ↔ Text.Hex.Spells (digits.map fun b => Char.ofNat b.toNat) bytes := by
  fun_induction pairs digits generalizing bytes with
  | case1 high low rest ih =>
    have hrest : rest.length % 2 = 0 := by simp only [List.length_cons] at heven; omega
    rw [List.map_cons, List.map_cons]
    constructor
    · intro hpairs
      obtain ⟨h, hhigh, hpairs⟩ := read_bind_eq_ok.1 hpairs
      obtain ⟨l, hlow, hpairs⟩ := read_bind_eq_ok.1 hpairs
      obtain ⟨later, hlater, hpairs⟩ := read_bind_eq_ok.1 hpairs
      cases hpairs
      exact .cons (byteDigit_eq_ok_iff.1 hhigh) (byteDigit_eq_ok_iff.1 hlow) ((ih hrest).1 hlater)
    · rintro (_ | ⟨hhigh, hlow, hspells⟩)
      rw [byteDigit_eq_ok_iff.2 hhigh, byteDigit_eq_ok_iff.2 hlow, (ih hrest).2 hspells]
      rfl
  | case2 digits hshort =>
    have hempty : digits = [] := by
      match digits, hshort, heven with
      | [], _, _ => rfl
      | [_], _, heven => cases heven
      | _ :: _ :: _, hshort, _ => exact absurd rfl (hshort _ _ _)
    subst hempty
    constructor
    · intro hpairs
      cases hpairs
      exact .nil
    · rintro ⟨⟩
      rfl

theorem ascii_of_spells (hspells : Text.Hex.Spells text.toList bytes) : ∀ c ∈ text.toList, c.toNat < 128 :=
  fun c hc => Text.Hex.lt_of_isDigit (hspells.isDigit c hc)

/-- Digits have one byte each, and only digits have bytes that spell anything. -/
theorem spells_utf8_iff :
    Text.Hex.Spells (text.toUTF8.data.toList.map fun b => Char.ofNat b.toNat) bytes ↔
      Text.Hex.Spells text.toList bytes := by
  constructor
  · intro hspells
    have hbytes : ∀ b ∈ text.toUTF8.data.toList, b.toNat < 128 := by
      intro b hb
      have hdigit := Text.Hex.lt_of_isDigit (hspells.isDigit _ (List.mem_map_of_mem hb))
      rwa [Text.toNat_ofNat_byte] at hdigit
    rwa [Text.map_utf8_of_ascii (Text.ascii_of_utf8 hbytes)] at hspells
  · intro hspells
    rwa [Text.map_utf8_of_ascii (ascii_of_spells hspells)]

/-- A digest is read exactly if it is sixty-four digits. -/
theorem readDigest_eq_ok_iff :
    readDigest text = .ok bytes ↔ text.length = 64 ∧ Text.Hex.Spells text.toList bytes := by
  unfold readDigest
  constructor
  · intro hread
    simp only at hread
    split at hread
    next hlength =>
      have hspells := spells_utf8_iff.1 ((pairs_eq_ok_iff (by rw [hlength])).1 hread)
      rw [Text.length_utf8_of_ascii (ascii_of_spells hspells)] at hlength
      exact ⟨hlength, hspells⟩
    next => cases hread
  · rintro ⟨hlength, hspells⟩
    rw [← Text.length_utf8_of_ascii (ascii_of_spells hspells)] at hlength
    simp only
    rw [if_pos hlength, (pairs_eq_ok_iff (by rw [hlength])).2 (spells_utf8_iff.2 hspells)]

/-- When a digest is good for an offer. -/
theorem keyedDigest_eq_ok_iff :
    keyedDigest key o = .ok () ↔
      ∃ text, o.digest = some text ∧ text.length = 64 ∧ Text.Hex.Spells text.toList (o.digestWith key) := by
  unfold keyedDigest
  cases hdigest : o.digest with
  | none => simp
  | some text =>
    simp only [Option.some.injEq, exists_eq_left', ← readDigest_eq_ok_iff]
    cases hread : readDigest text with
    | error problem => simp
    | ok carried => simp

end Validator

namespace Offer

/-- A signed offer carries sixty-four digits that spell its keyed hash. -/
theorem digest_signed (key : DigestKey) (o : Offer) :
    ∃ text, (o.signed key).digest = some text ∧ text.length = 64 ∧
      Text.Hex.Spells text.toList (o.digestWith key) := by
  refine ⟨_, rfl, ?_, ?_⟩
  · rw [← String.length_toList, String.toList_ofList, Text.Hex.length_ofBytes, digestWith, Blake3.keyedHash,
      Blake3.length_hashWith]
  · rw [String.toList_ofList]
    exact Text.Hex.spells_ofBytes _

/-- With the digest of another offer, an offer is good if it hashes to the same bytes. -/
theorem keyedDigest_eq_ok_iff_of_digest {key : DigestKey} {o o' : Offer}
    (hdigest : o'.digest = (o.signed key).digest) :
    Validator.keyedDigest key o' = .ok () ↔ o'.digestWith key = o.digestWith key := by
  obtain ⟨text, hsigned, hlength, hspells⟩ := o.digest_signed key
  rw [Validator.keyedDigest_eq_ok_iff, hdigest, hsigned]
  constructor
  · rintro ⟨_, ⟨⟩, _, hspells'⟩
    exact hspells'.unique hspells
  · intro hsame
    rw [← hsame] at hspells
    exact ⟨text, rfl, hlength, hspells⟩

/-- An offer that was signed is accepted under its key, in whatever case its digest is written. In general an
    offer is accepted exactly if its digest is sixty-four digits that spell the keyed hash of its canonical
    bytes. So a digest can be carried over to another offer only if origin and capabilities are the same,
    unless the hash collides on the two. -/
theorem signing_binds (key : DigestKey) (o : Offer) :
    Validator.keyedDigest key (o.signed key) = .ok () ∧
    Validator.keyedDigest key { o.signed key with digest := (o.signed key).digest.map String.toUpper } =
      .ok () ∧
    (Validator.keyedDigest key o = .ok () ↔
      ∃ text, o.digest = some text ∧ text.length = 64 ∧ (∀ c ∈ text.toList, Text.Hex.IsDigit c) ∧
        Text.Hex.Spells text.toList (Blake3.keyedHash key.toList o.canonicalBytes)) ∧
    ∀ o' : Offer, o'.digest = (o.signed key).digest →
      (Blake3.keyedHash key.toList o'.canonicalBytes = Blake3.keyedHash key.toList o.canonicalBytes →
        o'.canonicalBytes = o.canonicalBytes) →
      (Validator.keyedDigest key o' = .ok () ↔ o'.origin = o.origin ∧ o'.capabilities = o.capabilities) := by
  obtain ⟨text, hsigned, hlength, hspells⟩ := o.digest_signed key
  refine ⟨?_, ?_, ?_, fun o' hdigest hcollision => ?_⟩
  · exact Validator.keyedDigest_eq_ok_iff.2 ⟨text, hsigned, hlength, hspells⟩
  · refine Validator.keyedDigest_eq_ok_iff.2 ⟨text.toUpper, by rw [hsigned]; rfl, ?_, ?_⟩
    · rw [← String.length_toList, String.toUpper, String.toList_map, List.length_map, String.length_toList,
        hlength]
    · rw [String.toUpper, String.toList_map]
      exact hspells.toUpper
  · rw [Validator.keyedDigest_eq_ok_iff]
    constructor
    · rintro ⟨text, hdigest, hlength, hspells⟩
      exact ⟨text, hdigest, hlength, hspells.isDigit, hspells⟩
    · rintro ⟨text, hdigest, hlength, _, hspells⟩
      exact ⟨text, hdigest, hlength, hspells⟩
  · calc Validator.keyedDigest key o' = .ok ()
      _ ↔ o'.digestWith key = o.digestWith key := keyedDigest_eq_ok_iff_of_digest hdigest
      _ ↔ o'.canonicalBytes = o.canonicalBytes := by
        rw [digestWith, digestWith]
        exact ⟨hcollision, fun hsame => by rw [hsame]⟩
      _ ↔ o'.origin = o.origin ∧ o'.capabilities = o.capabilities := canonicalBytes_eq_iff

/-- A message of at most one block takes one compression. -/
theorem keyedHash_of_short {key bytes : List UInt8} (hshort : bytes.length ≤ 64) :
    Blake3.keyedHash key bytes =
      (Blake3.Node.mk (Blake3.chainOf key) (Blake3.blockOf bytes) 0 (UInt32.ofNat bytes.length)
        (16 ||| 1 ||| 2)).root := by
  rw [Blake3.keyedHash, Blake3.hashWith, Blake3.tree, dif_pos (by omega), Blake3.chunk, Blake3.chunkFrom,
    if_pos hshort]
  rfl

def zeroKey : DigestKey := .replicate 32 0

/-- An offer, and the same offer after a name was added to it on its way. -/
def premium : Offer := unsigned "partner" ["Premium"]

def pushed : Offer := { premium.signed zeroKey with capabilities := ["Premium", "Admin"] }

theorem signing_binds_pushed : pushed.digest = (premium.signed zeroKey).digest ∧
    Blake3.keyedHash zeroKey.toList pushed.canonicalBytes ≠
      Blake3.keyedHash zeroKey.toList premium.canonicalBytes ∧
    Validator.keyedDigest zeroKey (premium.signed zeroKey) = .ok () ∧
    Validator.keyedDigest zeroKey pushed ≠ .ok () := by
  have hhash : Blake3.keyedHash zeroKey.toList pushed.canonicalBytes ≠
      Blake3.keyedHash zeroKey.toList premium.canonicalBytes := by
    rw [keyedHash_of_short (by decide +kernel), keyedHash_of_short (by decide +kernel)]
    decide +kernel
  obtain ⟨haccepted, _, _, hbinds⟩ := signing_binds zeroKey premium
  refine ⟨rfl, hhash, haccepted, fun hpushed => ?_⟩
  have hsame := (hbinds pushed rfl fun hcollision => absurd hcollision hhash).1 hpushed
  exact absurd hsame.2 (by decide)

end Offer

end CapabilityArena
