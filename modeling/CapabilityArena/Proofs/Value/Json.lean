import CapabilityArena.Proofs.Decimal.Whole
import CapabilityArena.Proofs.Dictionary.Overwriting
import CapabilityArena.Proofs.Json.Nesting
import CapabilityArena.Proofs.Value.References
import CapabilityArena.Value.Json

/-!
Values and their JSON. The text of a value without floats is read back as the value, unless it nests deeper than
texts may; how deep the value itself lies is then the only thing that can keep it from coming back. Values with
different contents have different texts at any depth, since a reader with enough room would tell them apart.
-/

namespace CapabilityArena

theorem Json.isNumber_ofInt (i : Int) : Json.IsNumber (.ofInt i) where
  whole := by
    by_cases hzero : i.natAbs = 0
    · left
      rw [Decimal.Numeral.ofInt, hzero, Nat.toDigits_zero]
    · right
      exact ⟨⟨Nat.toDigits_ne_nil, fun c hc => Decimal.isDigit_of_mem_toDigits hc⟩,
        Decimal.head?_toDigits_ne_zero (Nat.pos_of_ne_zero hzero)⟩
  fraction := List.forall_mem_nil _
  exponent := fun _ _ hpower => nomatch hpower

theorem Json.written_ofInt (i : Int) : (Json.ofInt i).Written := .number (Json.isNumber_ofInt i)

namespace Value

/-- No part of the value is a float. -/
def FloatFree (v : Value) : Prop := ∀ x, ¬PartOf (.float x) v

variable {v : Value} {items : List Value} {entries : List (String × Value)} {room : Nat}

theorem floatFree_list_iff : (list items).FloatFree ↔ ∀ item ∈ items, item.FloatFree := by
  constructor
  · exact fun hfloat item hitem x hpart => hfloat x (.item hitem hpart)
  · rintro hall x (_ | ⟨hitem, hpart⟩)
    exact hall _ hitem x hpart

theorem floatFree_map_iff : (map entries).FloatFree ↔ ∀ entry ∈ entries, entry.2.FloatFree := by
  constructor
  · exact fun hfloat entry hentry x hpart => hfloat x (.entry hentry hpart)
  · rintro hall x (_ | _ | ⟨hentry, hpart⟩)
    exact hall _ hentry x hpart

theorem itemsToJson_eq (items : List Value) : itemsToJson items = items.map toJson := by
  induction items with
  | nil => rfl
  | cons item items ih => rw [itemsToJson, List.map_cons, ih]

theorem entriesToJson_eq (entries : List (String × Value)) :
    entriesToJson entries = entries.map fun (key, value) => (key, toJson value) := by
  induction entries with
  | nil => rfl
  | cons entry entries ih => rw [entriesToJson, List.map_cons, ih]

theorem written_member {kind : String} {content : Json} (hcontent : content.Written) :
    (Json.obj [(kind, content)]).Written :=
  .obj (List.forall_mem_singleton.2 hcontent)

theorem written_toJson (hfloat : v.FloatFree) : v.toJson.Written := by
  induction v using inductionOn with
  | null => exact .str "Null"
  | bool b => exact written_member (.bool b)
  | int i => exact written_member (Json.written_ofInt i.toInt)
  | float x => exact absurd .self (hfloat x)
  | str text => exact written_member (.str text)
  | address a | weak a => exact written_member (Json.written_ofInt a.raw.toNat)
  | list items ih =>
    apply written_member
    rw [itemsToJson_eq]
    exact .arr (List.forall_mem_map.2 fun item hitem => ih item hitem (floatFree_list_iff.1 hfloat item hitem))
  | map entries ih =>
    apply written_member
    rw [entriesToJson_eq]
    exact .obj (List.forall_mem_map.2 fun entry hentry => ih entry hentry (floatFree_map_iff.1 hfloat entry hentry))

/-- With some room a value is read back from its tree, and with less it is not read at all. -/
def FitsIn (room : Nat) (v : Value) : Prop :=
  ofJson? room v.toJson = if v.toJson.nesting < room then some v else none

/-- Two results that are there under two conditions are both there under both. -/
theorem bind_ite_some {α β γ : Type} {p q : Prop} [Decidable p] [Decidable q] (a : α) (b : β)
    (f : α → β → γ) :
    ((if p then some a else none).bind fun a => (if q then some b else none).bind fun b => some (f a b)) =
      if p ∧ q then some (f a b) else none := by
  by_cases hp : p
  · by_cases hq : q <;> simp [hp, hq]
  · simp [hp]

theorem itemsOfJson?_itemsToJson (hroom : 0 < room) (hall : ∀ item ∈ items, item.FitsIn room) :
    itemsOfJson? room (itemsToJson items) =
      if Json.itemsNesting (itemsToJson items) < room then some items else none := by
  induction items with
  | nil => exact (if_pos hroom).symm
  | cons item items ih =>
    obtain ⟨hitem, hitems⟩ := List.forall_mem_cons.1 hall
    rw [itemsToJson, itemsOfJson?, hitem, ih hitems, Json.itemsNesting]
    simp only [Nat.max_lt]
    exact bind_ite_some item items List.cons

theorem entriesOfJson?_entriesToJson (hroom : 0 < room) (hall : ∀ entry ∈ entries, entry.2.FitsIn room) :
    entriesOfJson? room (entriesToJson entries) =
      if Json.membersNesting (entriesToJson entries) < room then some entries else none := by
  induction entries with
  | nil => exact (if_pos hroom).symm
  | cons entry entries ih =>
    obtain ⟨hentry, hentries⟩ := List.forall_mem_cons.1 hall
    rw [entriesToJson, entriesOfJson?, hentry, ih hentries, Json.membersNesting]
    simp only [Nat.max_lt]
    exact bind_ite_some entry.2 entries fun value entries => (entry.1, value) :: entries

theorem ofPairs_of_sorted (hsorted : Entries.Sorted entries) : ofPairs entries = map entries := by
  have hentries := Dictionary.ofList_entries ⟨entries, hsorted⟩
  rw [ofPairs_eq, hentries]

theorem scalarOf?_int (i : Int64) : scalarOf? "Int" (.ofInt i.toInt) = some (.int i) := by
  have hlow := i.le_toInt
  have hhigh := i.toInt_lt
  rw [Json.ofInt, scalarOf?, if_pos rfl, Decimal.Numeral.integer?_ofInt (by omega) (by omega), Option.bind_some,
    if_pos ⟨hlow, hhigh⟩, Int64.ofInt_toInt]

/-- The word of an address is read as the number it is, up to the largest. -/
theorem addressOf?_ofNat (a : Address) :
    (Decimal.Numeral.ofInt a.raw.toNat).integer?.bind addressOf? = some a := by
  have hraw := a.raw.toNat_lt
  rw [Decimal.Numeral.integer?_ofInt (by omega) (by omega), Option.bind_some, addressOf?, if_pos (by omega),
    Int.toNat_natCast, UInt64.ofNat_toNat]

theorem scalarOf?_address (a : Address) : scalarOf? "Address" (.ofNat a.raw.toNat) = some (.address a) :=
  congrArg (Option.map address) (addressOf?_ofNat a)

theorem scalarOf?_weak (a : Address) : scalarOf? "Weak" (.ofNat a.raw.toNat) = some (.weak a) :=
  congrArg (Option.map weak) (addressOf?_ofNat a)

/-- A scalar takes the one brace around it. -/
theorem fitsIn_of_scalarOf? {kind : String} {content : Json} (hscalar : scalarOf? kind content = some v)
    (hread : ofJson? room v.toJson = if 1 < room then scalarOf? kind content else none)
    (hnesting : v.toJson.nesting = 1) : v.FitsIn room := by
  rw [FitsIn, hread, hscalar, hnesting]

theorem nesting_list (items : List Value) :
    (list items).toJson.nesting = Json.itemsNesting (itemsToJson items) + 2 := by
  simp [toJson, Json.nesting, Json.membersNesting]

theorem nesting_map (entries : List (String × Value)) :
    (map entries).toJson.nesting = Json.membersNesting (entriesToJson entries) + 2 := by
  simp [toJson, Json.nesting, Json.membersNesting]

theorem fitsIn_list (hall : ∀ item ∈ items, ∀ room > 0, item.FitsIn room) : (list items).FitsIn room := by
  rw [FitsIn, nesting_list, toJson, ofJson?]
  by_cases hroom : 2 < room
  · have hinside : 0 < room - 2 := Nat.sub_pos_of_lt hroom
    have hitems := itemsOfJson?_itemsToJson hinside fun item hitem => hall item hitem _ hinside
    rw [if_pos ⟨rfl, hroom⟩, hitems]
    by_cases hdeep : Json.itemsNesting (itemsToJson items) < room - 2
    · rw [if_pos hdeep, if_pos (by omega), Option.map_some]
    · rw [if_neg hdeep, if_neg (by omega), Option.map_none]
  · rw [if_neg fun h => hroom h.2, if_neg (by omega)]

theorem fitsIn_map (hsorted : Entries.Sorted entries)
    (hall : ∀ entry ∈ entries, ∀ room > 0, entry.2.FitsIn room) :
    (map entries).FitsIn room := by
  rw [FitsIn, nesting_map, toJson, ofJson?]
  by_cases hroom : 2 < room
  · have hinside : 0 < room - 2 := Nat.sub_pos_of_lt hroom
    have hentries := entriesOfJson?_entriesToJson hinside fun entry hentry => hall entry hentry _ hinside
    rw [if_pos ⟨rfl, hroom⟩, hentries]
    by_cases hdeep : Json.membersNesting (entriesToJson entries) < room - 2
    · rw [if_pos hdeep, if_pos (by omega), Option.map_some, ofPairs_of_sorted hsorted]
    · rw [if_neg hdeep, if_neg (by omega), Option.map_none]
  · rw [if_neg fun h => hroom h.2, if_neg (by omega)]

theorem fitsIn (hordered : v.WellFormed) (hfloat : v.FloatFree) (room : Nat) (hroom : 0 < room) :
    v.FitsIn room := by
  induction v using inductionOn generalizing room with
  | null => exact (if_pos hroom).symm
  | bool b => rfl
  | int i => exact fitsIn_of_scalarOf? (scalarOf?_int i) rfl rfl
  | float x => exact absurd .self (hfloat x)
  | str text => rfl
  | address a => exact fitsIn_of_scalarOf? (scalarOf?_address a) rfl rfl
  | weak a => exact fitsIn_of_scalarOf? (scalarOf?_weak a) rfl rfl
  | list items ih =>
    refine fitsIn_list fun item hitem => ?_
    exact ih item hitem (wellFormed_of_mem_items hordered item hitem) (floatFree_list_iff.1 hfloat item hitem)
  | map entries ih =>
    refine fitsIn_map hordered.1 fun entry hentry => ?_
    exact ih entry hentry (wellFormed_of_mem_entries hordered.2 entry hentry)
      (floatFree_map_iff.1 hfloat entry hentry)

/-- The text of a value is read back as the value, or not at all where it nests too deep. -/
theorem read?_compact_toJson (hordered : v.WellFormed) (hfloat : v.FloatFree) :
    read? v.toJson.compact = if Json.textNesting v.toJson.compact < maxNesting then some v else none := by
  have hwritten := written_toJson hfloat
  rw [read?, Json.read?_compact hwritten, Option.bind_some, Json.textNesting_compact hwritten]
  exact fitsIn hordered hfloat maxNesting (by decide)

/-- With room for a tree, the value that it was made from can be told. -/
theorem eq_of_toJson_eq {w : Value} (hordered : v.WellFormed) (hfloat : v.FloatFree) (hordered' : w.WellFormed)
    (hfloat' : w.FloatFree) (heq : w.toJson = v.toJson) : w = v := by
  have hroom : v.toJson.nesting < v.toJson.nesting + 1 := Nat.lt_add_one _
  have hv := fitsIn hordered hfloat _ (Nat.zero_lt_of_lt hroom)
  have hw := fitsIn hordered' hfloat' _ (Nat.zero_lt_of_lt hroom)
  rw [FitsIn, if_pos hroom] at hv
  rw [FitsIn, heq, if_pos hroom, hv] at hw
  exact (Option.some.inj hw).symm

/-- A value without floats survives its JSON: what is read from its text is the value itself, whatever its numbers,
    addresses, texts and keys are. Only the nesting of the text counts, and from 128 open brackets on the text is
    not read. Such values have the same text only if they are the same value, at any depth. -/
theorem survives_json (hordered : v.WellFormed) (hfloat : v.FloatFree) :
    read? v.toJson.compact = (if Json.textNesting v.toJson.compact < 128 then some v else none) ∧
    ∀ w : Value, w.WellFormed → w.FloatFree → (w.toJson.compact = v.toJson.compact ↔ w = v) := by
  refine ⟨read?_compact_toJson hordered hfloat, fun w hordered' hfloat' => ?_⟩
  constructor
  · intro htext
    have htree := Json.compact_injective (written_toJson hfloat') (written_toJson hfloat) htext
    exact eq_of_toJson_eq hordered hfloat hordered' hfloat' htree
  · intro hsame
    rw [hsame]

/-- A key and a text that are written with escapes, the least number, the largest address, a list without items
    and a map without entries. -/
def parcel : Value :=
  .map [("", .list []), ("\x22[\n", .list [.int Int64.minValue, .str "\x01\\\u2603", .map [], .null]),
    ("to", .weak ⟨0xffffffffffffffff⟩)]

theorem survives_json_parcel : parcel.WellFormed ∧ parcel.FloatFree ∧
    Json.textNesting parcel.toJson.compact < 128 ∧ read? parcel.toJson.compact = some parcel ∧
    (map []).toJson.compact ≠ parcel.toJson.compact := by
  have hordered : parcel.WellFormed :=
    ⟨by decide, trivial, ⟨trivial, trivial, ⟨by decide, trivial⟩, trivial, trivial⟩, trivial, trivial⟩
  have hfloat : parcel.FloatFree := by
    simp only [parcel, floatFree_map_iff, floatFree_list_iff, List.forall_mem_cons, List.not_mem_nil,
      false_imp_iff, implies_true, true_and, and_true]
    refine ⟨⟨?_, ?_, ?_⟩, ?_⟩
    all_goals rintro x ⟨⟩
  have hnesting : Json.textNesting parcel.toJson.compact < 128 := by
    rw [Json.textNesting_compact (written_toJson hfloat)]
    decide
  obtain ⟨hread, hinjective⟩ := survives_json hordered hfloat
  refine ⟨hordered, hfloat, hnesting, hread.trans (if_pos hnesting), fun htext => ?_⟩
  cases (hinjective (map []) ⟨by decide, trivial⟩ (floatFree_map_iff.2 (List.forall_mem_nil _))).1 htext

end Value
end CapabilityArena
