import CapabilityArena.Offer.Basic
import CapabilityArena.Proofs.Json.RoundTrip
import CapabilityArena.Proofs.Text.Utf8

/-!
The canonical text of an offer says who offers what, and nothing else: offers have the same canonical bytes
exactly if they come from the same origin and list the same capabilities in the same order. No origin or
name can be chosen so that its text runs into that of its neighbour, because the text is read back.
-/

namespace CapabilityArena

namespace Offer

variable {o o' : Offer}

theorem written_toJson (o : Offer) : o.toJson.Written := by
  refine .obj fun member hmember => ?_
  simp only [List.mem_append, List.mem_cons, List.not_mem_nil, or_false] at hmember
  rcases hmember with (rfl | rfl) | hdigest
  · exact .str o.origin
  · exact Json.written_strs o.capabilities
  · split at hdigest
    next digest _ =>
      rw [List.mem_singleton.1 hdigest]
      exact .str digest
    next => cases hdigest

/-- What is signed is the JSON of the offer before it is signed. -/
theorem canonicalText_eq (o : Offer) : o.canonicalText = { o with digest := none }.toJson.compact := rfl

theorem toJson_injective (heq : o.toJson = o'.toJson) :
    o.origin = o'.origin ∧ o.capabilities = o'.capabilities := by
  have hmembers := Json.obj.inj heq
  simp only [List.cons_append, List.cons.injEq, Prod.mk.injEq, Json.str.injEq, true_and] at hmembers
  obtain ⟨horigin, hlist, _⟩ := hmembers
  exact ⟨horigin, (List.map_inj_right fun _ _ => Json.str.inj).1 (Json.arr.inj hlist)⟩

theorem canonicalBytes_eq_iff :
    o.canonicalBytes = o'.canonicalBytes ↔ o.origin = o'.origin ∧ o.capabilities = o'.capabilities := by
  constructor
  · intro hbytes
    have htext := Text.eq_of_utf8_eq hbytes
    rw [canonicalText_eq, canonicalText_eq] at htext
    have hparts := toJson_injective (Json.compact_injective (written_toJson _) (written_toJson _) htext)
    exact hparts
  · rintro ⟨horigin, hcapabilities⟩
    rw [canonicalBytes, canonicalBytes, canonicalText, canonicalText, horigin, hcapabilities]

/-- The canonical bytes determine origin and capabilities, whatever characters these contain. They are those
    of the JSON text of the offer without a digest, so that no digest has a part in them. -/
theorem canonical_encoding_injective (o o' : Offer) :
    (o.canonicalBytes = o'.canonicalBytes ↔ o.origin = o'.origin ∧ o.capabilities = o'.capabilities) ∧
    (∀ digest, { o with digest := digest }.canonicalBytes = o.canonicalBytes) ∧
    o.canonicalBytes = { o with digest := none }.toJson.compact.toUTF8.data.toList :=
  ⟨canonicalBytes_eq_iff, fun _ => rfl, rfl⟩

end Offer

end CapabilityArena
