import CapabilityArena.Proofs.Manifest.Attaching
import CapabilityArena.Proofs.Transaction.Independence

/-!
Modifiers of a manifest in any order. What such a modifier writes can be read off its entry, and so can the
fields that it declares; modifiers whose entries have no key in common commute.
-/

namespace CapabilityArena

namespace ModifierEntry

/-- The fields that a modifier has to do with: those that it declares, and the one in which its machine shows
    its state. -/
def keys (entry : ModifierEntry) (r : Registry) : List String :=
  entry.declares.keys ++ ((entry.machine.bind r.machines.get?).bind (·.stateKey)).toList

variable {entry other : ModifierEntry} {fields : List Field} {r : Registry} {m : Modifier} {key : String}
  {a b : Addition}

theorem mem_keys_of_written {value : Value} (hwritten : entry.written? r key = some value) :
    key ∈ entry.keys r := by
  rw [keys, List.mem_append, Option.mem_toList]
  rcases Option.or_eq_some_iff.1 hwritten with hshown | ⟨_, hdefault⟩
  · obtain ⟨machine, hmachine, hstate⟩ := Option.bind_eq_some_iff.1 hshown
    split at hstate
    next hkey => exact .inr (Option.bind_eq_some_iff.2 ⟨machine, hmachine, hkey⟩)
    next => cases hstate
  · obtain ⟨declared, hdeclared, _⟩ := Option.bind_eq_some_iff.1 hdefault
    exact .inl (Dictionary.mem_keys_iff.2 (by rw [Dictionary.contains, hdeclared, Option.isSome_some]))

theorem Makes.mem_keys_of_declares (hmakes : entry.Makes m fields) {shape : Shape}
    (hshape : m.declares.get? key = some shape) : key ∈ entry.keys r := by
  rw [hmakes.declares_eq] at hshape
  obtain ⟨field, hfield, hpair⟩ := List.mem_map.1 (Dictionary.mem_of_get?_ofList hshape)
  cases hpair
  obtain ⟨declared, hdeclared, _⟩ := hmakes.declared field hfield
  refine List.mem_append_left _ (Dictionary.mem_keys_iff.2 ?_)
  rw [Dictionary.contains, hdeclared, Option.isSome_some]

/-- An entry as an addition, which has to do with the keys of the entry only. -/
structure Adds (entry : ModifierEntry) (r : Registry) (a : Addition) : Prop where
  name_eq : a.name = entry.name
  registered : a.Registered r
  written : ∀ key value, a.written? r key = some value → key ∈ entry.keys r
  declared : ∀ key shape, a.capability.shapes.get? key = some shape → key ∈ entry.keys r

theorem Makes.adds (hmakes : entry.Makes m fields)
    (hknown : r.capability? m.name = some (.modifier m)) : entry.Adds r ⟨entry.name, .modifier m, fields⟩ where
  name_eq := rfl
  registered := ⟨hmakes.name_eq ▸ hknown, .modifier hmakes.onAdd_eq hmakes.onRemove_eq⟩
  written := fun key _ hwritten => mem_keys_of_written ((hmakes.get?_overlay key).symm.trans hwritten)
  declared := fun _ _ hshape => hmakes.mem_keys_of_declares hshape

theorem Adds.spares (ha : entry.Adds r a) (hb : other.Adds r b)
    (hdisjoint : (entry.keys r).Disjoint (other.keys r)) : a.Spares r b := by
  intro key value hwritten
  have hforeign : key ∉ other.keys r := hdisjoint (ha.written key value hwritten)
  exact ⟨Option.eq_none_iff_forall_ne_some.2 fun value hvalue => hforeign (hb.written key value hvalue),
    Option.eq_none_iff_forall_ne_some.2 fun shape hshape => hforeign (hb.declared key shape hshape)⟩

theorem Adds.apart (ha : entry.Adds r a) (hb : other.Adds r b)
    (hdisjoint : (entry.keys r).Disjoint (other.keys r)) : a.Apart r b :=
  ⟨ha.spares hb hdisjoint, hb.spares ha (List.disjoint_symm hdisjoint)⟩

end ModifierEntry

theorem Manifest.adds_of_build {manifest : Manifest} {registry : Registry}
    (hbuild : manifest.build = .ok registry) : ∃ addition : ModifierEntry → Addition,
      ∀ entry ∈ manifest.modifiers, entry.Adds registry (addition entry) := by
  obtain ⟨registrations, hregistrations, hmodifiers⟩ := of_build_eq_ok hbuild
  have hadds : ∀ entry ∈ manifest.modifiers, ∃ a, entry.Adds registry a := by
    intro entry hentry
    obtain ⟨m, hm, hregistered⟩ := hmodifiers entry hentry
    obtain ⟨fields, hmakes⟩ := ModifierEntry.makes_of_toModifier hm
    exact ⟨_, hmakes.adds (Registry.capability?_of_modifier hregistrations hregistered)⟩
  choose! addition haddition using hadds
  exact ⟨addition, haddition⟩

/-- Additions that keep out of each other's way can be attached by calls in any order or in none, and leave the
    same fields, machine and active capabilities. -/
theorem RealmOp.forM_attach_perm {r : Realm} {registry : Registry} {address : Address} {e : Entity}
    {additions order : List Addition} (hentity : r.EntityAt registry address e)
    (hnamed : registry.MachinesNamed) (hdefined : registry.MachinesDefined)
    (hregistered : ∀ a ∈ additions, a.Registered registry)
    (hapart : additions.Pairwise (Addition.Apart registry)) (hperm : additions.Perm order) :
    ((∃ r', ((additions.map Addition.name).forM (attach address)).run r = .ok () r') ↔
      ∃ r', ((order.map Addition.name).forM (attach address)).run r = .ok () r') ∧
    (∀ r₁ r₂, ((additions.map Addition.name).forM (attach address)).run r = .ok () r₁ →
      ((order.map Addition.name).forM (attach address)).run r = .ok () r₂ → ∃ e₁ e₂,
      r₁.heap.entity address = .ok e₁ ∧ r₂.heap.entity address = .ok e₂ ∧
      e₁.state = e₂.state ∧ e₁.machine = e₂.machine ∧ e₁.active.Perm e₂.active) := by
  obtain ⟨hcounted, rfl, hstored, hwellFormed, hvalid⟩ := hentity
  let s := r.surroundings address.arena
  have hknown : ∀ name ∈ e.active, r.registry.isKnown name = true := fun _ => hwellFormed.isKnown
  have hregistered' : ∀ a ∈ order, a.Registered r.registry :=
    fun a hmem => hregistered a (hperm.mem_iff.2 hmem)
  have hapart' := (hperm.pairwise_iff Addition.Apart.symm).1 hapart
  have hrun : ∀ names : List String, (∃ r', (names.forM (attach address)).run r = .ok () r') ↔
      ∃ e', (names.forM (r.surroundings address.arena).attach).run e = .ok () e' := by
    intro names
    simp only [forM_attach_eq_ok_iff hcounted hstored]
    exact ⟨fun ⟨_, e', hattach, _⟩ => ⟨e', hattach⟩, fun ⟨e', hattach⟩ => ⟨_, e', hattach, rfl⟩⟩
  refine ⟨?_, fun r₁ r₂ hfirst hsecond => ?_⟩
  · rw [hrun, hrun]
    exact Addition.exists_forM_attach_perm (s := s) hnamed hdefined hregistered hapart hknown hvalid hperm
  · obtain ⟨e₁, hattach, rfl⟩ := (forM_attach_eq_ok_iff hcounted hstored).1 hfirst
    obtain ⟨e₂, hattach', rfl⟩ := (forM_attach_eq_ok_iff hcounted hstored).1 hsecond
    obtain ⟨_, hcompatible⟩ := (Addition.exists_forM_attach_iff (s := s) hnamed hdefined hregistered hapart
      hknown hvalid).1 ⟨e₁, hattach⟩
    have hcompatible' := (hperm.pairwise_iff Addition.Compatible.symm).1 hcompatible
    refine ⟨e₁, e₂, Heap.entity_putEntity_self hcounted hstored e₁,
      Heap.entity_putEntity_self hcounted hstored e₂, ?_⟩
    exact (Addition.outcome_of_forM_attach (s := s) hdefined hregistered hapart hcompatible hattach).unique
      hperm (Addition.outcome_of_forM_attach (s := s) hdefined hregistered' hapart' hcompatible' hattach')

namespace Realm

/-- Independent modifiers of a manifest commute, in every realm that calls can reach over a registry that is
    built from the manifest. If the entries of some modifiers have no keys in common, the modifiers can be
    attached one after the other in one order exactly if they can in another; and then the fields, the
    machine and the active capabilities are the same in the end. -/
theorem attach_modifiers_commute_of_run {manifest : Manifest} {registry : Registry}
    (hbuild : manifest.build = .ok registry) (maxSlots maxContexts : Nat) (calls : List RealmCall)
    (address : Address) {e : Entity}
    (hentity : ((empty registry maxSlots maxContexts).run calls).heap.entity address = .ok e)
    {entries order : List ModifierEntry} (hentries : ∀ entry ∈ entries, entry ∈ manifest.modifiers)
    (hdisjoint : entries.Pairwise fun first second => (first.keys registry).Disjoint (second.keys registry))
    (hperm : entries.Perm order) :
    let r := (empty registry maxSlots maxContexts).run calls
    let attachEach := fun entries : List ModifierEntry =>
      ((entries.map (·.name)).forM (RealmOp.attach address)).run r
    ((∃ r', attachEach entries = .ok () r') ↔ ∃ r', attachEach order = .ok () r') ∧
    (∀ r₁ r₂, attachEach entries = .ok () r₁ → attachEach order = .ok () r₂ → ∃ e₁ e₂,
      r₁.heap.entity address = .ok e₁ ∧ r₂.heap.entity address = .ok e₂ ∧
      e₁.state = e₂.state ∧ e₁.machine = e₂.machine ∧ e₁.active.Perm e₂.active) := by
  intro r attachEach
  obtain ⟨registrations, hregistrations, _⟩ := Manifest.of_build_eq_ok hbuild
  obtain ⟨addition, hadds⟩ := Manifest.adds_of_build hbuild
  have hadds : ∀ entry ∈ entries, entry.Adds registry (addition entry) :=
    fun entry hentry => hadds entry (hentries entry hentry)
  have hregistered : ∀ a ∈ entries.map addition, a.Registered registry := by
    intro a hmem
    obtain ⟨entry, hentry, rfl⟩ := List.mem_map.1 hmem
    exact (hadds entry hentry).registered
  have hapart : (entries.map addition).Pairwise (Addition.Apart registry) := by
    refine List.pairwise_map.2 (hdisjoint.imp_of_mem fun hfirst hsecond hkeys => ?_)
    exact (hadds _ hfirst).apart (hadds _ hsecond) hkeys
  have hnames : ∀ list : List ModifierEntry, (∀ entry ∈ list, entry ∈ entries) →
      list.map (·.name) = (list.map addition).map Addition.name := by
    intro list hlist
    rw [List.map_map]
    exact List.map_congr_left fun entry hentry => (hadds entry (hlist entry hentry)).name_eq.symm
  simp only [attachEach, hnames entries fun _ => id, hnames order fun _ => hperm.mem_iff.2]
  exact RealmOp.forM_attach_perm (entityAt_of_run hregistrations maxSlots maxContexts calls address hentity)
    (Registry.machinesNamed_of_build hregistrations) (Registry.machinesDefined_of_build hregistrations)
    hregistered hapart (hperm.map addition)

/-- Articles that can be priced, and reviewed, which takes a machine. -/
def priced : ModifierEntry := ⟨"Priced", .ofList [("price", ⟨.str, .str "low"⟩)], none⟩

def reviewed : ModifierEntry := ⟨"Reviewed", .ofList [("reviewer", ⟨.any, .null⟩)], some "Review"⟩

def shopManifest : Manifest where
  machines := [⟨"Review", ["pending", "passed"], .ofList [("pending", ["passed"])], some "review"⟩]
  concepts := [⟨"Article", .ofList [("title", .str)], none⟩]
  modifiers := [priced, reviewed]
  groups := []

def shop : Registry :=
  match shopManifest.build with
  | .ok registry => registry
  | .error _ => .empty

def newArticle : List RealmCall :=
  [.heap .createArena, .createEntity ⟨1⟩ (.ofList [("title", .str "lamp")]) ["Article"]]

theorem attach_modifiers_commute_reviewed : ∃ e r₁ r₂ e₁ e₂,
    ((empty shop 8 8).run newArticle).heap.entity (.ofParts ⟨1⟩ 0) = .ok e ∧
    (["Priced", "Reviewed"].forM (RealmOp.attach (.ofParts ⟨1⟩ 0))).run ((empty shop 8 8).run newArticle) =
      .ok () r₁ ∧
    (["Reviewed", "Priced"].forM (RealmOp.attach (.ofParts ⟨1⟩ 0))).run ((empty shop 8 8).run newArticle) =
      .ok () r₂ ∧
    r₁.heap.entity (.ofParts ⟨1⟩ 0) = .ok e₁ ∧ r₂.heap.entity (.ofParts ⟨1⟩ 0) = .ok e₂ ∧
    e₁.active = ["Article", "Priced", "Reviewed"] ∧ e₂.active = ["Article", "Reviewed", "Priced"] ∧
    e₁.machine = some ⟨"Review", "pending"⟩ ∧ e₂.machine = some ⟨"Review", "pending"⟩ ∧
    e₁.state = e₂.state ∧ e₁.state.get? "review" = some (.str "pending") := by
  have hbuild : shopManifest.build = .ok shop := rfl
  have hkeys : (priced.keys shop).Disjoint (reviewed.keys shop) := by
    change ["price"].Disjoint ["reviewer", "review"]
    simp
  obtain ⟨hsucceed, hsame⟩ := attach_modifiers_commute_of_run hbuild 8 8 newArticle (.ofParts ⟨1⟩ 0) rfl
    (fun _ => id) (List.pairwise_pair.2 hkeys) (.swap reviewed priced [])
  obtain ⟨r₂, hsecond⟩ := hsucceed.1 ⟨_, rfl⟩
  obtain ⟨e₁, e₂, hread, hread', hstate, _⟩ := hsame _ r₂ rfl hsecond
  cases hsecond
  cases hread
  cases hread'
  exact ⟨_, _, _, _, _, rfl, rfl, rfl, rfl, rfl, rfl, rfl, rfl, rfl, hstate, rfl⟩

end Realm

end CapabilityArena
