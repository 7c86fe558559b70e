import Mathlib.Data.List.Forall2
import CapabilityArena.Proofs.Dictionary.Overwriting
import CapabilityArena.Proofs.Yaml.Value

/-!
How nodes convert. A node has a value exactly if nothing that would become part of the value is tagged and all
keys are texts. Keys are looked at through their tags, so keys that differ in a tag alone become one; where no key
is tagged nothing is lost.
-/

namespace CapabilityArena.Yaml.Node

/-- A node inside a tree: an item, a key, the value of an entry or what stands behind a tag, at any depth; the
    whole tree is one, too. -/
inductive PartOf (part : Node) : Node → Prop where
  | self : PartOf part part
  | item {items : List Node} {item : Node} (hitem : item ∈ items) (hpart : PartOf part item) :
    PartOf part (.sequence items)
  | key {entries : List (Node × Node)} {entry : Node × Node} (hentry : entry ∈ entries)
    (hpart : PartOf part entry.1) : PartOf part (.mapping entries)
  | value {entries : List (Node × Node)} {entry : Node × Node} (hentry : entry ∈ entries)
    (hpart : PartOf part entry.2) : PartOf part (.mapping entries)
  | content {tag : String} {content : Node} (hpart : PartOf part content) : PartOf part (.tagged tag content)

/-- All keys are texts, seen through their tags, and no tag is anywhere else. -/
inductive Plain : Node → Prop where
  | null : Plain .null
  | bool (b : Bool) : Plain (.bool b)
  | int (i : Int) : Plain (.int i)
  | float (x : Decimal.Binary64) : Plain (.float x)
  | str (text : String) : Plain (.str text)
  | sequence {items : List Node} (hitems : ∀ item ∈ items, Plain item) : Plain (.sequence items)
  | mapping {entries : List (Node × Node)} (hkeys : ∀ entry ∈ entries, ∃ text, entry.1.text? = some text)
    (hvalues : ∀ entry ∈ entries, Plain entry.2) : Plain (.mapping entries)

/-- What a node becomes. A whole number of sixty-four bits stays as it is; a sequence becomes a list of as many
    items in the same order; of the entries of a mapping whose keys have the same text the last one counts. -/
inductive Becomes : Node → Value → Prop where
  | null : Becomes .null .null
  | bool (b : Bool) : Becomes (.bool b) (.bool b)
  | int (n : Int64) : Becomes (.int n.toInt) (.int n)
  | large {i : Int} (hlarge : ∀ n : Int64, n.toInt ≠ i) :
    Becomes (.int i) (.float (Decimal.Binary64.ofRatio (decide (i < 0)) i.natAbs 1))
  | float (x : Decimal.Binary64) : Becomes (.float x) (.float x)
  | str (text : String) : Becomes (.str text) (.str text)
  | sequence {items : List Node} {values : List Value} (hitems : List.Forall₂ Becomes items values) :
    Becomes (.sequence items) (.list values)
  | mapping {entries : List (Node × Node)} {pairs : List (String × Value)}
    (hkeys : entries.map (·.1.text?) = pairs.map (some ·.1))
    (hvalues : List.Forall₂ Becomes (entries.map (·.2)) (pairs.map (·.2))) :
    Becomes (.mapping entries) (.map (Dictionary.ofList pairs).entries)

/-- Nothing in the tree is tagged, and every key is a text. -/
structure Bare (node : Node) : Prop where
  untagged : ∀ tag content, ¬PartOf (.tagged tag content) node
  keys : ∀ entries, PartOf (.mapping entries) node → ∀ entry ∈ entries, ∃ text, entry.1 = .str text

/-- An entry becomes a pair of the text of its key and of what its item becomes. -/
def EntryBecomes (entry : Node × Node) (pair : String × Value) : Prop :=
  entry.1.text? = some pair.1 ∧ Becomes entry.2 pair.2

/-- No key of a mapping is tagged, whatever the depth. -/
def UntaggedKeys (node : Node) : Prop :=
  ∀ entries, PartOf (.mapping entries) node → ∀ entry ∈ entries, ∀ tag content, entry.1 ≠ .tagged tag content

variable {node : Node} {value : Value} {items : List Node} {values : List Value} {entries : List (Node × Node)}
  {pairs : List (String × Value)} {i : Int}

/-- Induction on a node, with all items and all values of entries at once. -/
@[elab_as_elim]
theorem inductionOn {motive : Node → Prop} (node : Node) (null : motive .null) (bool : ∀ b, motive (.bool b))
    (int : ∀ i, motive (.int i)) (float : ∀ x, motive (.float x)) (str : ∀ text, motive (.str text))
    (sequence : ∀ items, (∀ item ∈ items, motive item) → motive (.sequence items))
    (mapping : ∀ entries, (∀ entry ∈ entries, motive entry.2) → motive (.mapping entries))
    (tagged : ∀ tag content, motive (.tagged tag content)) : motive node :=
  match node with
  | .null => null
  | .bool b => bool b
  | .int i => int i
  | .float x => float x
  | .str text => str text
  | .sequence items =>
    sequence items fun item _ => inductionOn item null bool int float str sequence mapping tagged
  | .mapping entries => mapping entries fun (key, item) hentry =>
    have : sizeOf item < 1 + sizeOf entries := by
      have hlt := List.sizeOf_lt_of_mem hentry
      rw [Prod.mk.sizeOf_spec] at hlt
      omega
    inductionOn item null bool int float str sequence mapping tagged
  | .tagged tag content => tagged tag content

/-! ### Conversion and the relation -/

theorem forall₂_entryBecomes_iff : List.Forall₂ EntryBecomes entries pairs ↔
    entries.map (·.1.text?) = pairs.map (some ·.1) ∧
      List.Forall₂ Becomes (entries.map (·.2)) (pairs.map (·.2)) := by
  induction entries generalizing pairs with
  | nil => cases pairs <;> simp
  | cons entry entries ih =>
    cases pairs with
    | nil => simp
    | cons pair pairs =>
      simp only [List.forall₂_cons, ih, EntryBecomes, List.map_cons, List.cons.injEq]
      exact and_and_and_comm

theorem becomes_sequence_iff : Becomes (.sequence items) value ↔
    ∃ values, List.Forall₂ Becomes items values ∧ .list values = value := by
  constructor
  · intro hbecomes
    cases hbecomes with
    | sequence hitems => exact ⟨_, hitems, rfl⟩
  · rintro ⟨values, hitems, rfl⟩
    exact .sequence hitems

theorem becomes_mapping_iff : Becomes (.mapping entries) value ↔
    ∃ pairs, List.Forall₂ EntryBecomes entries pairs ∧ .map (Dictionary.ofList pairs).entries = value := by
  constructor
  · intro hbecomes
    cases hbecomes with
    | mapping hkeys hvalues => exact ⟨_, forall₂_entryBecomes_iff.2 ⟨hkeys, hvalues⟩, rfl⟩
  · rintro ⟨pairs, hpairs, rfl⟩
    obtain ⟨hkeys, hvalues⟩ := forall₂_entryBecomes_iff.1 hpairs
    exact .mapping hkeys hvalues

theorem ofInteger_toInt (n : Int64) : ofInteger n.toInt = .int n := by
  rw [ofInteger, if_pos ⟨n.le_toInt, n.toInt_lt⟩, Int64.ofInt_toInt]

theorem ofInteger_of_large (hlarge : ∀ n : Int64, n.toInt ≠ i) :
    ofInteger i = .float (Decimal.Binary64.ofRatio (decide (i < 0)) i.natAbs 1) := by
  refine if_neg fun hfits => ?_
  exact hlarge (.ofInt i) (Int64.toInt_ofInt_of_le hfits.1 hfits.2)

theorem ofInteger_eq_iff : ofInteger i = value ↔ Becomes (.int i) value := by
  constructor
  · rintro rfl
    by_cases hfits : ∃ n : Int64, n.toInt = i
    · obtain ⟨n, rfl⟩ := hfits
      rw [ofInteger_toInt]
      exact .int n
    · have hlarge : ∀ n : Int64, n.toInt ≠ i := fun n hn => hfits ⟨n, hn⟩
      rw [ofInteger_of_large hlarge]
      exact .large hlarge
  · intro hbecomes
    cases hbecomes with
    | int n => exact ofInteger_toInt n
    | large hlarge => exact ofInteger_of_large hlarge

mutual

/-- Conversion follows the relation. -/
theorem toValue_eq_ok_iff {node : Node} {value : Value} : toValue node = .ok value ↔ Becomes node value := by
  cases node with
  | null | bool _ | float _ | str _ =>
    constructor
    all_goals
      rintro ⟨⟩
      constructor
  | int i =>
    rw [toValue, Except.ok.injEq]
    exact ofInteger_eq_iff
  | sequence items =>
    simp only [toValue, read_map_eq_ok, itemsToValues_eq_ok_iff, becomes_sequence_iff]
  | mapping entries =>
    simp only [toValue, read_map_eq_ok, entriesToValues_eq_ok_iff, becomes_mapping_iff, Value.ofPairs_eq]
  | tagged tag content =>
    constructor
    all_goals rintro ⟨⟩

theorem itemsToValues_eq_ok_iff {items : List Node} {values : List Value} :
    itemsToValues items = .ok values ↔ List.Forall₂ Becomes items values := by
  cases items with
  | nil => simp [itemsToValues, eq_comm]
  | cons item items =>
    simp only [itemsToValues, read_bind_eq_ok, toValue_eq_ok_iff, itemsToValues_eq_ok_iff,
      List.forall₂_cons_left_iff, pure, Except.pure, Except.ok.injEq]
    grind

theorem entriesToValues_eq_ok_iff {entries : List (Node × Node)} {pairs : List (String × Value)} :
    entriesToValues entries = .ok pairs ↔ List.Forall₂ EntryBecomes entries pairs := by
  cases entries with
  | nil => simp [entriesToValues, eq_comm]
  | cons entry entries =>
    obtain ⟨key, item⟩ := entry
    rw [entriesToValues, List.forall₂_cons_left_iff]
    cases hkey : key.text? with
    | none => simp [EntryBecomes, hkey]
    | some text =>
      simp only [read_bind_eq_ok, toValue_eq_ok_iff, entriesToValues_eq_ok_iff, EntryBecomes, hkey,
        pure, Except.pure, Except.ok.injEq, Option.some.injEq]
      constructor
      · rintro ⟨value, hvalue, others, hothers, rfl⟩
        exact ⟨(text, value), others, ⟨rfl, hvalue⟩, hothers, rfl⟩
      · rintro ⟨⟨_, value⟩, others, ⟨rfl, hvalue⟩, hothers, rfl⟩
        exact ⟨value, hvalue, others, hothers, rfl⟩

end

/-! ### When a node has a value -/

/-- A plain node has a value. -/
theorem Plain.exists_becomes (hplain : Plain node) : ∃ value, Becomes node value := by
  induction hplain with
  | null => exact ⟨_, .null⟩
  | bool b => exact ⟨_, .bool b⟩
  | int i => exact ⟨_, ofInteger_eq_iff.1 rfl⟩
  | float x => exact ⟨_, .float x⟩
  | str text => exact ⟨_, .str text⟩
  | sequence _ ih =>
    obtain ⟨values, hvalues⟩ := exists_forall₂ ih
    exact ⟨_, .sequence hvalues⟩
  | mapping hkeys _ ih =>
    obtain ⟨pairs, hpairs⟩ : ∃ pairs, List.Forall₂ EntryBecomes _ pairs := exists_forall₂ fun entry hentry => by
      obtain ⟨text, htext⟩ := hkeys entry hentry
      obtain ⟨value, hvalue⟩ := ih entry hentry
      exact ⟨(text, value), htext, hvalue⟩
    exact ⟨_, becomes_mapping_iff.2 ⟨pairs, hpairs, rfl⟩⟩

/-- And only a plain one has. -/
theorem Becomes.plain (hbecomes : Becomes node value) : Plain node := by
  induction node using inductionOn generalizing value with
  | null => exact .null
  | bool b => exact .bool b
  | int i => exact .int i
  | float x => exact .float x
  | str text => exact .str text
  | sequence items ih =>
    obtain ⟨values, hitems, _⟩ := becomes_sequence_iff.1 hbecomes
    refine .sequence fun item hitem => ?_
    obtain ⟨_, _, hitem'⟩ := exists_of_forall₂ hitems item hitem
    exact ih item hitem hitem'
  | mapping entries ih =>
    obtain ⟨pairs, hpairs, _⟩ := becomes_mapping_iff.1 hbecomes
    have hentries := exists_of_forall₂ hpairs
    refine .mapping (fun entry hentry => ?_) fun entry hentry => ?_
    · obtain ⟨pair, _, hkey, _⟩ := hentries entry hentry
      exact ⟨pair.1, hkey⟩
    · obtain ⟨pair, _, _, hvalue⟩ := hentries entry hentry
      exact ih entry hentry hvalue
  | tagged tag content => cases hbecomes

theorem exists_toValue_iff : (∃ value, toValue node = .ok value) ↔ Plain node := by
  simp only [toValue_eq_ok_iff]
  exact ⟨fun ⟨_, hbecomes⟩ => hbecomes.plain, Plain.exists_becomes⟩

/-! ### Trees without tags on keys -/

theorem UntaggedKeys.of_item (huntagged : UntaggedKeys (.sequence items)) {item : Node} (hitem : item ∈ items) :
    UntaggedKeys item :=
  fun entries hpart => huntagged entries (.item hitem hpart)

theorem UntaggedKeys.of_entry (huntagged : UntaggedKeys (.mapping entries)) {entry : Node × Node}
    (hentry : entry ∈ entries) : UntaggedKeys entry.2 :=
  fun entries hpart => huntagged entries (.value hentry hpart)

/-- A key that is not tagged is looked at as it is. -/
theorem eq_str_of_text? {key : Node} {text : String} (htext : key.text? = some text)
    (huntagged : ∀ tag content, key ≠ .tagged tag content) : key = .str text := by
  cases key with
  | str found => rw [Option.some.inj htext]
  | tagged tag content => exact absurd rfl (huntagged tag content)
  | _ => cases htext

theorem Plain.bare (hplain : Plain node) (huntagged : UntaggedKeys node) : Bare node := by
  induction hplain with
  | null | bool _ | int _ | float _ | str _ => exact ⟨nofun, nofun⟩
  | sequence _ ih =>
    constructor
    case untagged =>
      rintro tag content (_ | ⟨hitem, hpart⟩)
      exact (ih _ hitem (huntagged.of_item hitem)).untagged tag content hpart
    case keys =>
      rintro entries (_ | ⟨hitem, hpart⟩)
      exact (ih _ hitem (huntagged.of_item hitem)).keys entries hpart
  | @mapping entries hkeys _ ih =>
    have hstr : ∀ entry ∈ entries, ∃ text, entry.1 = .str text := fun entry hentry =>
      (hkeys entry hentry).imp fun _ htext => eq_str_of_text? htext (huntagged entries .self entry hentry)
    -- a key that is a text has no other part
    have hkey : ∀ {part entry}, entry ∈ entries → PartOf part entry.1 → ∃ text, part = .str text := by
      intro part entry hentry hpart
      obtain ⟨text, htext⟩ := hstr entry hentry
      rw [htext] at hpart
      cases hpart
      exact ⟨text, rfl⟩
    constructor
    case untagged =>
      rintro tag content (_ | _ | ⟨hentry, hpart⟩ | ⟨hentry, hpart⟩)
      · obtain ⟨text, htext⟩ := hkey hentry hpart
        cases htext
      · exact (ih _ hentry (huntagged.of_entry hentry)).untagged tag content hpart
    case keys =>
      rintro entries (_ | _ | ⟨hentry, hpart⟩ | ⟨hentry, hpart⟩)
      · exact hstr
      · obtain ⟨text, htext⟩ := hkey hentry hpart
        cases htext
      · exact (ih _ hentry (huntagged.of_entry hentry)).keys entries hpart

theorem Bare.of_item (hbare : Bare (.sequence items)) {item : Node} (hitem : item ∈ items) : Bare item where
  untagged := fun tag content hpart => hbare.untagged tag content (.item hitem hpart)
  keys := fun entries hpart => hbare.keys entries (.item hitem hpart)

theorem Bare.of_entry (hbare : Bare (.mapping entries)) {entry : Node × Node} (hentry : entry ∈ entries) :
    Bare entry.2 where
  untagged := fun tag content hpart => hbare.untagged tag content (.value hentry hpart)
  keys := fun entries hpart => hbare.keys entries (.value hentry hpart)

theorem Bare.plain (hbare : Bare node) : Plain node := by
  induction node using inductionOn with
  | null => exact .null
  | bool b => exact .bool b
  | int i => exact .int i
  | float x => exact .float x
  | str text => exact .str text
  | sequence items ih => exact .sequence fun item hitem => ih item hitem (hbare.of_item hitem)
  | mapping entries ih =>
    refine .mapping (fun entry hentry => ?_) fun entry hentry => ih entry hentry (hbare.of_entry hentry)
    obtain ⟨text, htext⟩ := hbare.keys entries .self entry hentry
    exact ⟨text, by rw [htext, text?]⟩
  | tagged tag content => exact absurd .self (hbare.untagged tag content)

/-- What is left to stand in the way of bareness is a tag on a key. -/
theorem bare_iff : Bare node ↔ Plain node ∧ UntaggedKeys node := by
  refine ⟨fun hbare => ⟨hbare.plain, fun entries hpart entry hentry tag content htagged => ?_⟩,
    fun hboth => hboth.1.bare hboth.2⟩
  obtain ⟨text, htext⟩ := hbare.keys entries hpart entry hentry
  cases htext.symm.trans htagged

/-! ### Nothing is lost -/

theorem nodup_of_distinct (hkeys : ∀ entry ∈ entries, ∃ text, entry.1 = .str text)
    (hdistinct : distinct (entries.map (·.1)) = true) : (entries.map (·.1.text?)).Nodup := by
  induction entries with
  | nil => exact List.nodup_nil
  | cons entry entries ih =>
    obtain ⟨⟨text, htext⟩, hkeys⟩ := List.forall_mem_cons.1 hkeys
    rw [List.map_cons, distinct, Bool.and_eq_true, Bool.not_eq_true', List.any_eq_false] at hdistinct
    obtain ⟨hnew, hdistinct⟩ := hdistinct
    refine List.nodup_cons.2 ⟨fun hmem => ?_, ih hkeys hdistinct⟩
    obtain ⟨other, hother, hsame⟩ := List.mem_map.1 hmem
    obtain ⟨found, hfound⟩ := hkeys other hother
    have hsame : other.1 = entry.1 := by
      change other.1.text? = entry.1.text? at hsame
      rw [htext, hfound] at hsame ⊢
      exact congrArg Node.str (Option.some.inj hsame)
    refine hnew other.1 (List.mem_map.2 ⟨other, hother, rfl⟩) ?_
    rw [hsame, htext, same, beq_self_eq_true]

/-- Entries whose keys have different texts stay apart. -/
theorem entries_of_nodup (hpairs : List.Forall₂ EntryBecomes entries pairs)
    (hnodup : (entries.map (·.1.text?)).Nodup) :
    (Dictionary.ofList pairs).entries.length = entries.length ∧
    ∀ entry ∈ entries, ∃ pair ∈ (Dictionary.ofList pairs).entries, EntryBecomes entry pair := by
  have hkeys : (pairs.map (·.1)).Nodup := by
    rw [(forall₂_entryBecomes_iff.1 hpairs).1] at hnodup
    exact .of_map some (by rwa [List.map_map])
  refine ⟨(Dictionary.size_ofList hkeys).trans hpairs.length_eq.symm, fun entry hentry => ?_⟩
  obtain ⟨pair, hpair, hbecomes⟩ := exists_of_forall₂ hpairs entry hentry
  refine ⟨pair, ?_, hbecomes⟩
  exact Dictionary.mem_entries_iff.2 ((Dictionary.get?_ofList_eq_some_iff hkeys).2 hpair)

/-- A node has a value exactly if its keys are texts, seen through their tags, and nothing else in it is tagged;
    if no key is tagged either, this says that nothing at all is tagged and every key is a text. The value is the
    one that the node becomes; it names no address, so it may be stored anywhere. A mapping whose keys differ and
    are not tagged becomes a map of as many entries, with what its items become under its keys. -/
theorem converts_plain_nodes (node : Node) :
    ((∃ value, node.toValue = .ok value) ↔ Plain node) ∧
    (Bare node ↔ Plain node ∧ UntaggedKeys node) ∧
    (∀ value, node.toValue = .ok value ↔ Becomes node value) ∧
    (∀ value, node.toValue = .ok value →
      (∀ address, ¬Value.PartOf (.address address) value ∧ ¬Value.PartOf (.weak address) value) ∧
      ∀ arena, value.checkStorable arena = .ok ()) ∧
    ∀ entries, node = .mapping entries → distinct (entries.map (·.1)) = true →
      (∀ entry ∈ entries, ∀ tag content, entry.1 ≠ .tagged tag content) →
      ∀ value, node.toValue = .ok value → ∃ found, value = .map found ∧ found.length = entries.length ∧
        ∀ entry ∈ entries, ∃ pair ∈ found, entry.1 = .str pair.1 ∧ Becomes entry.2 pair.2 := by
  refine ⟨exists_toValue_iff, bare_iff, fun value => toValue_eq_ok_iff, fun value hvalue => ?_, ?_⟩
  · have hnone : ∀ reference : Reference, ¬Value.PartOf reference.value value := by
      intro reference hpart
      have hmem := Value.mem_references_iff.2 hpart
      rw [references_toValue hvalue] at hmem
      cases hmem
    refine ⟨fun address => ⟨hnone ⟨address, false⟩, hnone ⟨address, true⟩⟩, fun arena => ?_⟩
    exact Value.checkStorable_eq_ok_iff.2 (homeIn_of_toValue hvalue arena)
  · rintro entries rfl hdistinct huntagged value hvalue
    obtain ⟨pairs, hpairs, rfl⟩ := becomes_mapping_iff.1 (toValue_eq_ok_iff.1 hvalue)
    have hkeys : ∀ entry ∈ entries, ∃ text, entry.1 = .str text := fun entry hentry => by
      obtain ⟨pair, _, htext, _⟩ := exists_of_forall₂ hpairs entry hentry
      exact ⟨pair.1, eq_str_of_text? htext (huntagged entry hentry)⟩
    obtain ⟨hlength, hentries⟩ := entries_of_nodup hpairs (nodup_of_distinct hkeys hdistinct)
    refine ⟨_, rfl, hlength, fun entry hentry => ?_⟩
    obtain ⟨pair, hpair, htext, hbecomes⟩ := hentries entry hentry
    exact ⟨pair, hpair, eq_str_of_text? htext (huntagged entry hentry), hbecomes⟩

/-- A list and a map inside a map, with the largest whole number of sixty-four bits and one that is larger. -/
def limits : List (Node × Node) :=
  [(.str "slots", .sequence [.int 0x7fffffffffffffff, .mapping [(.str "deep", .null)]]),
    (.str "beyond", .int 0x8000000000000000)]

theorem converts_plain_nodes_limits : Plain (.mapping limits) ∧ distinct (limits.map (·.1)) = true ∧
    (∀ entry ∈ limits, ∀ tag content, entry.1 ≠ .tagged tag content) ∧
    ∃ found, toValue (.mapping limits) = .ok (.map found) ∧ found.length = 2 ∧
      (∃ pair ∈ found, Node.str "slots" = .str pair.1 ∧
        Becomes (.sequence [.int 0x7fffffffffffffff, .mapping [(.str "deep", .null)]]) pair.2) ∧
      ∀ arena, (Value.map found).checkStorable arena = .ok () := by
  obtain ⟨hplain, _, _, hstorable, hkept⟩ := converts_plain_nodes (.mapping limits)
  have hvalue : toValue (.mapping limits) = .ok (.map [
      ("beyond", .float (Decimal.Binary64.ofRatio false 0x8000000000000000 1)),
      ("slots", .list [.int 0x7fffffffffffffff, .map [("deep", .null)]])]) := rfl
  have hdistinct : distinct (limits.map (·.1)) = true := by decide
  have huntagged : ∀ entry ∈ limits, ∀ tag content, entry.1 ≠ .tagged tag content := by
    simp [limits]
  obtain ⟨found, hfound, hlength, hentries⟩ := hkept limits rfl hdistinct huntagged _ hvalue
  rw [hfound] at hvalue
  exact ⟨hplain.1 ⟨_, hvalue⟩, hdistinct, huntagged, found, hvalue, hlength,
    hentries _ List.mem_cons_self, (hstorable _ hvalue).2⟩

/-- Two keys that differ in a tag alone: the tag is no obstacle, and one of the entries is lost. -/
theorem tagged_key_overwritten : ∃ entries, distinct (entries.map (·.1)) = true ∧ ¬Bare (.mapping entries) ∧
    entries.length = 2 ∧ toValue (.mapping entries) = .ok (.map [("k", .int 2)]) := by
  refine ⟨[(.tagged "t" (.str "k"), .int 1), (.str "k", .int 2)], by decide, fun hbare => ?_, rfl, rfl⟩
  exact hbare.untagged "t" (.str "k") (.key List.mem_cons_self .self)

end CapabilityArena.Yaml.Node
