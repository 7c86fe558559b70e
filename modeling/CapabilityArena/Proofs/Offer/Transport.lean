import CapabilityArena.Proofs.Offer.Digest

/-!
Offers on their way. An offer is read back from its JSON text as it was written, with its digest or without one,
so nothing that is decided about it changes on the way; a signature made before is good after.
-/

namespace CapabilityArena.Offer

theorem textsOf?_ofList (names : List String) : textsOf? (Json.ofList Json.str names) = some names := by
  rw [Json.ofList, textsOf?]
  induction names with
  | nil => rfl
  | cons name names ih => simp [textOf?, ih]

/-- A digest that was left out is read as absent. -/
theorem ofJson?_toJson (o : Offer) : ofJson? o.toJson = some o := by
  obtain ⟨origin, capabilities, _ | digest⟩ := o
  · simp [toJson, ofJson?, single?, textOf?, textsOf?_ofList, digestOf?]
  · simp [toJson, ofJson?, single?, textOf?, textsOf?_ofList, digestOf?]

theorem read?_compact_toJson (o : Offer) : read? o.toJson.compact = some o := by
  rw [read?, Json.read?_compact (written_toJson o), Option.bind_some, ofJson?_toJson]

/-- Every offer survives transport, whatever its origin, its names and its digest are. An offer that was signed is
    accepted under the key by whoever receives it, and any validator decides about what is received as it does
    about what was sent. -/
theorem survives_transport (o : Offer) :
    read? o.toJson.compact = some o ∧
    (∀ key : DigestKey, ∃ received, read? (o.signed key).toJson.compact = some received ∧
      Validator.keyedDigest key received = .ok ()) ∧
    ∀ validator : Validator, (read? o.toJson.compact).map validator = some (validator o) := by
  refine ⟨read?_compact_toJson o, fun key => ⟨o.signed key, read?_compact_toJson (o.signed key), ?_⟩, ?_⟩
  · exact (keyedDigest_eq_ok_iff_of_digest rfl).2 rfl
  · intro validator
    rw [read?_compact_toJson, Option.map_some]

end CapabilityArena.Offer
