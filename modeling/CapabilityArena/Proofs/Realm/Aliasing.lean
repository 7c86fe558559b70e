import CapabilityArena.Proofs.Realm.History

/-!
No alias escapes. Whatever way a value takes into the heap, it is at home in the arena that stores it: it
holds no address that counts, and no weak one of another arena. So an arena that is torn down leaves no trace
in what is stored.
-/

namespace CapabilityArena

namespace Heap

/-- A value that is stored in some slot of an arena, as its value or as a field of its entity. -/
def Stores (h : Heap) (id : ArenaId) (v : Value) : Prop :=
  ∃ a, h.arenas.get? id = some a ∧ ∃ slot ∈ a.slots, ∃ content, slot.content = some content ∧
    v ∈ content.values

/-- Everything that is stored is at home where it is stored. -/
def AtHome (h : Heap) : Prop :=
  ∀ address content, h.content? address = some content → content.HomeIn address.arena

variable {h h' : Heap} {id : ArenaId} {v : Value}

theorem atHome_empty (maxSlots : Nat) : (empty maxSlots).AtHome := by
  intro address content hcontent
  simp [empty, content?] at hcontent

theorem Logged.atHome {id? : Option ArenaId} {address? : Option Address}
    (hlogged : h.Logged h' id? address?) (hsound : h.Sound) (hhome : h.AtHome) : h'.AtHome := by
  intro address content hcontent
  rcases hlogged.content_of hsound hcontent with hold | ⟨hnew, _⟩
  · exact hhome address content hold
  · exact hnew

/-- Every slot has an address, so what is at home at all addresses is at home in all slots. -/
theorem AtHome.homeIn_of_stores (hhome : h.AtHome) (hcounted : h.Counted) (hstores : h.Stores id v) :
    v.HomeIn id := by
  obtain ⟨a, harena, slot, hslot, content, hcontent, hmem⟩ := hstores
  obtain ⟨position, hinside, hat⟩ := Array.mem_iff_getElem.1 hslot
  have hfits : position < 0x100000000 := Nat.lt_of_lt_of_le hinside (hcounted id a harena).2.size_le
  have hstored : h.content? (.ofParts id (.ofNat position)) = some content := by
    rw [content?, Address.arena_ofParts, harena, Option.bind_some, Arena.content?, Arena.slot?,
      Address.offset_ofParts, UInt32.toNat_ofNat_of_lt' hfits, Array.getElem?_eq_getElem hinside, hat]
    exact hcontent
  have hhere := hhome _ content hstored v hmem
  rwa [Address.arena_ofParts] at hhere

end Heap

/-- A value at home in one arena has no address of another among its parts. -/
theorem Value.HomeIn.not_partOf {id : ArenaId} {v : Value} (hhome : v.HomeIn id) {address : Address}
    (hforeign : address.arena ≠ id) :
    ¬ PartOf (.address address) v ∧ ¬ PartOf (.weak address) v :=
  ⟨hhome.no_strong address, fun hpart => hforeign (hhome.weak_inside address hpart)⟩

namespace Realm

variable {r : Realm} {address : Address}

theorem atHome_run (registry : Registry) (maxSlots maxContexts : Nat) (calls : List RealmCall) :
    ((empty registry maxSlots maxContexts).run calls).heap.AtHome :=
  keeps_run (fun _ _ _ _ hsound hhome hlogged => hlogged.atHome hsound hhome)
    (Heap.sound_empty maxSlots) (Heap.atHome_empty maxSlots) calls

/-- What a method answers has been checked, whatever the method does. -/
theorem homeIn_of_invoke (hcounted : r.heap.Counted) {method : String} {arguments : List Value}
    {v : Value} {r' : Realm} (hinvoke : (RealmOp.invoke address method arguments).run r = .ok v r') :
    v.HomeIn address.arena := by
  have hspec : AllOrNothing (RealmOp.invoke address method arguments) r
      fun v _ => v.HomeIn address.arena := by
    unfold RealmOp.invoke
    refine .read_bind (RealmOp.run_reading _) fun _ _ => .read_bind (RealmOp.run_reading _) fun e _ =>
      .get_bind ?_
    cases r.method? e method with
    | none => exact .throw
    | some body =>
      refine (RealmOp.transact_spec hcounted _).mono fun v r' htransact => ?_
      obtain ⟨before, after, _, hrun, _⟩ := htransact
      obtain ⟨result, _, _, hrest⟩ := bind_eq_ok.1 hrun
      obtain ⟨_, _, hread, hpure⟩ := bind_eq_ok.1 hrest
      obtain ⟨hstorable, _⟩ := EntityOp.reading_eq_ok hread
      cases hpure
      exact Value.checkStorable_eq_ok_iff.1 hstorable
  exact hspec.of_ok hinvoke

/-- No stored alias ever escapes, in every realm that calls can reach. What is stored in the slots of an
    arena, as a value or as a field of an entity, holds no strong address at any depth, and every weak one in
    it belongs to that arena. So does what a method of an entity answers, for the arena of the entity. And no
    stored value mentions an address of an arena that has been torn down. -/
theorem no_alias_of_run (registry : Registry) (maxSlots maxContexts : Nat) (calls : List RealmCall) :
    let r := (empty registry maxSlots maxContexts).run calls
    (∀ id v, r.heap.Stores id v → v.HomeIn id) ∧
    (∀ address method arguments v r', (RealmOp.invoke address method arguments).run r = .ok v r' →
      v.HomeIn address.arena) ∧
    (∀ gone, r.heap.isTornDown gone = true → ∀ id v, r.heap.Stores id v →
      ∀ address : Address, address.arena = gone →
        ¬ Value.PartOf (.address address) v ∧ ¬ Value.PartOf (.weak address) v) := by
  intro r
  have hsound : r.heap.Sound := sound_run (Heap.sound_empty maxSlots) calls
  have hhome : r.heap.AtHome := atHome_run registry maxSlots maxContexts calls
  refine ⟨fun id v hstores => ?_, fun address method arguments v r' hinvoke => ?_,
    fun gone hgone id v hstores address harena => ?_⟩
  · exact hhome.homeIn_of_stores hsound.counted hstores
  · exact homeIn_of_invoke hsound.counted hinvoke
  · -- The arena that stores the value is present, so it is another one.
    have hforeign : address.arena ≠ id := by
      rintro rfl
      obtain ⟨a, hpresent, _⟩ := hstores
      rw [harena, (hsound.retired gone hgone).1] at hpresent
      cases hpresent
    exact (hhome.homeIn_of_stores hsound.counted hstores).not_partOf hforeign

/-- A box keeps what it is given, and gives it back in a list. -/
def boxDefinitions : List Registration :=
  [.concept ⟨"Box", .empty, .ofList [("keep", fun arguments => do
    modify fun state => state.insert "kept" (.list arguments)
    pure (.list [.list arguments]))], none⟩]

def boxes : Registry :=
  match Registry.build boxDefinitions with
  | .ok registry => registry
  | .error _ => .empty

/-- A box that keeps a weak reference to itself, in vain tries to keep one into another arena, and outlives
    that arena. -/
def keptInBox : List RealmCall :=
  [.heap .createArena, .heap .createArena, .createEntity ⟨1⟩ .empty ["Box"],
    .heap (.allocate ⟨2⟩ .null), .entity (.ofParts ⟨1⟩ 0) (.invoke "keep" [.weak (.ofParts ⟨1⟩ 0)]),
    .entity (.ofParts ⟨1⟩ 0) (.invoke "keep" [.weak (.ofParts ⟨2⟩ 0)]), .heap (.exitScope ⟨2⟩)]

theorem no_alias_keptInBox : ∃ v result r',
    ((empty boxes 8 8).run keptInBox).getState (.ofParts ⟨1⟩ 0) "kept" = .ok (some v) ∧
    v.references = [⟨.ofParts ⟨1⟩ 0, true⟩] ∧ v.HomeIn ⟨1⟩ ∧
    (RealmOp.invoke (.ofParts ⟨1⟩ 0) "keep" [v]).run ((empty boxes 8 8).run keptInBox) =
      .ok result r' ∧
    result.HomeIn (Address.ofParts ⟨1⟩ 0).arena ∧
    ((empty boxes 8 8).run keptInBox).heap.isTornDown ⟨2⟩ = true ∧
    ¬ Value.PartOf (.weak (.ofParts ⟨2⟩ 0)) v := by
  obtain ⟨hstored, hanswer, hgone⟩ := no_alias_of_run boxes 8 8 keptInBox
  have hstores : ((empty boxes 8 8).run keptInBox).heap.Stores ⟨1⟩
      (.list [.weak (.ofParts ⟨1⟩ 0)]) := by
    refine ⟨_, rfl, _, Array.mem_of_getElem? (i := 0) rfl, _, rfl, ?_⟩
    exact List.mem_cons_self
  refine ⟨.list [.weak (.ofParts ⟨1⟩ 0)], _, _, rfl, rfl, hstored ⟨1⟩ _ hstores, rfl,
    hanswer (.ofParts ⟨1⟩ 0) "keep" [.list [.weak (.ofParts ⟨1⟩ 0)]] _ _ rfl, rfl, ?_⟩
  exact (hgone ⟨2⟩ rfl ⟨1⟩ _ hstores (.ofParts ⟨2⟩ 0) rfl).2

end Realm

end CapabilityArena
