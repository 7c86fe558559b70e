import CapabilityArena.Proofs.Heap.Content
import CapabilityArena.Proofs.Transaction.Machine
import CapabilityArena.Realm.Capabilities
import CapabilityArena.Realm.Entities
import CapabilityArena.Realm.Merge

/-!
Calls on one entity. Whatever such a call does, it does it to the entity at its address, by changes that its
surroundings allow, or else it leaves the realm as it was.
-/

namespace CapabilityArena

/-- What a successful call on the entity at an address does: it exchanges that entity for another, which
    comes from it by changes and is valid, unless nothing had to be changed. -/
structure Realm.Transacted (r : Realm) (address : Address) (before after : Entity) (r' : Realm) :
    Prop where
  stored : r.heap.content? address = some (.entity before)
  changes : (r.surroundings address.arena).Changes before after
  valid : after = before ∨ (r.surroundings address.arena).validate after = .ok ()
  realm_eq : r' = { r with heap := r.heap.putEntity address after }

theorem Realm.Transacted.content? {r r' : Realm} {address : Address} {before after : Entity}
    (hdone : r.Transacted address before after r') (hcounted : r.heap.Counted) (query : Address) :
    r'.heap.content? query = if query = address then some (.entity after) else r.heap.content? query := by
  rw [hdone.realm_eq]
  exact Heap.content?_putEntity hcounted hdone.stored after query

/-- Calls on one entity, with any arguments. -/
inductive EntityCall where
  | setState (key : String) (value : Value)
  | removeState (key : String)
  | invoke (method : String) (arguments : List Value)
  | transition (target : String)
  | attach (name : String)
  | detach (name : String)
  | addModifier (name : String)
  | removeModifier (name : String)
  | applyGroup (group : String) (direction : GroupDirection)
  | acquire (required : List String)
  | merge (offer : Offer) (validator : Validator)

def EntityCall.perform (address : Address) : EntityCall → RealmOp Unit
  | .setState key value => RealmOp.setState address key value
  | .removeState key => silently (RealmOp.removeState address key)
  | .invoke method arguments => silently (RealmOp.invoke address method arguments)
  | .transition target => RealmOp.transition address target
  | .attach name => RealmOp.attach address name
  | .detach name => RealmOp.detach address name
  | .addModifier name => RealmOp.addModifier address name
  | .removeModifier name => RealmOp.removeModifier address name
  | .applyGroup group direction => RealmOp.applyGroup address group direction
  | .acquire required => silently (RealmOp.acquire address required)
  | .merge offer validator => silently (RealmOp.merge address offer validator)

/-- What a successful call on an entity does to the realm. -/
def Realm.TransactedAt (r : Realm) (address : Address) (r' : Realm) : Prop :=
  ∃ before after, r.Transacted address before after r'

/-- The same, with what is done to the machine of the entity. -/
def Realm.TransactedOn (r : Realm) (address : Address) (request : Request) (r' : Realm) : Prop :=
  ∃ before after, r.Transacted address before after r' ∧
    r.registry.MachineStep request before.machine after.machine

theorem Realm.TransactedOn.transactedAt {r r' : Realm} {address : Address} {request : Request}
    (hdone : r.TransactedOn address request r') : r.TransactedAt address r' := by
  obtain ⟨before, after, hdone, _⟩ := hdone
  exact ⟨before, after, hdone⟩

/-- Whether the entity at an address has a machine that shows its state in this field. -/
def Realm.shows (r : Realm) (address : Address) (key : String) : Bool :=
  match r.heap.entity address with
  | .ok e => (r.shownMachine? e).any (·.2 = key)
  | .error _ => false

/-- What a call asks for. Writing a text to the field that shows the state of a machine asks for a move. -/
def EntityCall.request (r : Realm) (address : Address) : EntityCall → Request
  | .setState key (.str target) => if r.shows address key then .move target else .fields
  | .setState _ _ => .fields
  | .removeState _ => .fields
  | .invoke _ _ => .fields
  | .transition target => .move target
  | .attach _ => .add
  | .detach _ => .remove
  | .addModifier _ => .add
  | .removeModifier _ => .remove
  | .applyGroup _ direction => direction.request
  | .acquire _ => .add
  | .merge _ _ => .add

namespace RealmOp

variable {r : Realm} {address : Address} {α : Type}

/-- A transaction, spelled out: the change runs on the entity at the address, and what it leaves is stored if
    it succeeds and the entity is valid. -/
theorem run_transact (hcounted : r.heap.Counted) {before : Entity}
    (hstored : r.heap.content? address = some (.entity before)) (change : Surroundings → EntityOp α) :
    (transact address change).run r =
      match ((change (r.surroundings address.arena)).validated
        (r.surroundings address.arena)).run before with
      | .ok a after => .ok a { r with heap := r.heap.putEntity address after }
      | .error failure _ => .error failure r := by
  unfold transact
  rw [EStateM.run_bind, run_reading, hcounted.entity_eq_ok_iff.2 hstored]
  simp only [unchanged, EStateM.run_bind, EStateM.run_get]
  simp only [EStateM.run]
  cases (change (r.surroundings address.arena)).validated (r.surroundings address.arena) before with
  | ok a after => rfl
  | error failure edited =>
    change EStateM.Result.error failure
      { r with heap := (r.heap.putEntity address edited).putEntity address before } = .error failure r
    rw [hcounted.putEntity_putEntity hstored, hcounted.putEntity_self hstored]

theorem transact_spec (hcounted : r.heap.Counted) (change : Surroundings → EntityOp α) :
    AllOrNothing (transact address change) r fun a r' => ∃ before after,
      r.heap.content? address = some (.entity before) ∧
      (change (r.surroundings address.arena)).run before = .ok a after ∧
      (r.surroundings address.arena).validate after = .ok () ∧
      r' = { r with heap := r.heap.putEntity address after } := by
  unfold AllOrNothing
  cases hentity : r.heap.entity address with
  | error failure =>
    unfold transact
    rw [EStateM.run_bind, run_reading, hentity]
    rfl
  | ok before =>
    have hstored := hcounted.entity_eq_ok_iff.1 hentity
    rw [run_transact hcounted hstored]
    cases hrun : ((change (r.surroundings address.arena)).validated
      (r.surroundings address.arena)).run before with
    | ok a after =>
      obtain ⟨hchange, hvalid⟩ := EntityOp.validated_eq_ok_iff.1 hrun
      exact ⟨before, after, hstored, hchange, hvalid, rfl⟩
    | error failure edited => rfl

/-- A transaction succeeds exactly if its change does and leaves a valid entity. -/
theorem transact_eq_ok_iff (hcounted : r.heap.Counted) {change : Surroundings → EntityOp α} {a : α}
    {r' : Realm} : (transact address change).run r = .ok a r' ↔ ∃ before after,
      r.heap.content? address = some (.entity before) ∧
      (change (r.surroundings address.arena)).run before = .ok a after ∧
      (r.surroundings address.arena).validate after = .ok () ∧
      r' = { r with heap := r.heap.putEntity address after } := by
  refine ⟨(transact_spec hcounted change).of_ok, ?_⟩
  rintro ⟨before, after, hstored, hrun, hvalid, rfl⟩
  rw [run_transact hcounted hstored, EntityOp.validated_eq_ok_iff.2 ⟨hrun, hvalid⟩]

theorem transact_of_changes (hcounted : r.heap.Counted) {change : Surroundings → EntityOp α}
    {request : Request} (hchange : ∀ s e a e', (change s).run e = .ok a e' →
      s.Changes e e' ∧ s.registry.MachineStep request e.machine e'.machine) :
    AllOrNothing (transact address change) r fun _ r' => r.TransactedOn address request r' := by
  refine (transact_spec hcounted change).mono fun a r' htransact => ?_
  obtain ⟨before, after, hstored, hrun, hvalid, rfl⟩ := htransact
  obtain ⟨hchanges, hmachine⟩ := hchange _ _ _ _ hrun
  exact ⟨before, after, ⟨hstored, hchanges, .inr hvalid, rfl⟩, hmachine⟩

/-- A change of the fields leaves the machine alone. -/
theorem transact_of_fields (hcounted : r.heap.Counted) {change : Surroundings → EntityOp α}
    (hchange : ∀ s e a e', (change s).run e = .ok a e' → ∃ state, e' = { e with state := state }) :
    AllOrNothing (transact address change) r fun _ r' => r.TransactedOn address .fields r' := by
  refine transact_of_changes hcounted fun s e a e' hrun => ?_
  obtain ⟨state, rfl⟩ := hchange s e a e' hrun
  exact ⟨.single (.fields state), .keep nofun⟩

/-- A call that finds nothing to do. -/
theorem transactedOn_self (hcounted : r.heap.Counted) {e : Entity}
    (hentity : r.heap.entity address = .ok e) : r.TransactedOn address .add r := by
  have hstored := hcounted.entity_eq_ok_iff.1 hentity
  refine ⟨e, e, ⟨hstored, .refl, .inl rfl, ?_⟩, .keep nofun⟩
  rw [hcounted.putEntity_self hstored]

theorem attach_spec (hcounted : r.heap.Counted) (name : String) :
    AllOrNothing (attach address name) r fun _ r' => r.TransactedOn address .add r' :=
  transact_of_changes hcounted fun _ _ _ _ hattach =>
    ⟨.single (Surroundings.change_of_attach hattach), Surroundings.machineStep_of_attach hattach⟩

theorem detach_spec (hcounted : r.heap.Counted) (name : String) :
    AllOrNothing (detach address name) r fun _ r' => r.TransactedOn address .remove r' :=
  transact_of_changes hcounted fun _ _ _ _ hdetach =>
    ⟨.single (Surroundings.change_of_detach hdetach), Surroundings.machineStep_of_detach hdetach⟩

theorem transact_applyGroup (hcounted : r.heap.Counted) (group : String) (members : List String)
    (direction : GroupDirection) :
    AllOrNothing (transact address (·.applyGroup group members direction)) r
      fun _ r' => r.TransactedOn address direction.request r' :=
  transact_of_changes hcounted fun _ _ _ _ happly =>
    ⟨Surroundings.changes_of_applyGroup happly, Surroundings.machineStep_of_applyGroup happly⟩

theorem applyGroup_spec (hcounted : r.heap.Counted) (group : String) (direction : GroupDirection) :
    AllOrNothing (applyGroup address group direction) r
      fun _ r' => r.TransactedOn address direction.request r' := by
  unfold applyGroup
  refine .get_bind ?_
  cases r.registry.groups.get? group with
  | none => exact .throw
  | some found => exact transact_applyGroup hcounted group found.members direction

theorem transition_spec (hcounted : r.heap.Counted) (target : String) :
    AllOrNothing (transition address target) r
      fun _ r' => r.TransactedOn address (.move target) r' :=
  transact_of_changes hcounted fun _ _ _ _ hmove =>
    ⟨.single (Surroundings.change_of_transition hmove), Surroundings.machineStep_of_transition hmove⟩

theorem setState_spec (hcounted : r.heap.Counted) (key : String) (value : Value) :
    AllOrNothing (setState address key value) r fun _ r' =>
      r.TransactedOn address (EntityCall.request r address (.setState key value)) r' := by
  unfold setState
  refine .read_bind (run_reading _) fun e hentity => .get_bind ?_
  have hshows : r.shows address key = (r.shownMachine? e).any (·.2 = key) := by
    rw [Realm.shows, hentity]
  have hwrite : AllOrNothing (transact address fun _ =>
      modify fun e => { e with state := e.state.insert key value }) r
      fun _ r' => r.TransactedOn address .fields r' :=
    transact_of_fields hcounted fun s before _ after hrun => by
      cases hrun
      exact ⟨_, rfl⟩
  -- The field that shows a machine's state is written by a move, and by nothing but a text.
  cases hshown : r.shownMachine? e with
  | none =>
    rw [hshown, Option.any_none] at hshows
    cases value <;> simp only [EntityCall.request, hshows] <;> exact hwrite
  | some shown =>
    rw [hshown, Option.any_some] at hshows
    by_cases hkey : shown.2 = key
    · simp only [hkey, ↓reduceIte]
      cases value with
      | str target =>
        simp only [EntityCall.request, hshows, hkey, decide_true, ↓reduceIte]
        exact transition_spec hcounted target
      | _ => exact .throw
    · simp only [hkey, ↓reduceIte]
      rw [decide_eq_false hkey] at hshows
      cases value <;> simp only [EntityCall.request, hshows] <;> exact hwrite

theorem removeState_spec (hcounted : r.heap.Counted) (key : String) :
    AllOrNothing (removeState address key) r fun _ r' => r.TransactedOn address .fields r' := by
  refine transact_of_fields hcounted fun s before _ after hrun => ?_
  cases hrun
  exact ⟨_, rfl⟩

theorem invoke_spec (hcounted : r.heap.Counted) (method : String) (arguments : List Value) :
    AllOrNothing (invoke address method arguments) r
      fun _ r' => r.TransactedOn address .fields r' := by
  unfold invoke
  refine .read_bind (run_reading _) fun _ _ => .read_bind (run_reading _) fun e _ => .get_bind ?_
  cases r.method? e method with
  | none => exact .throw
  | some body =>
    refine transact_of_fields hcounted fun s before _ after hrun => ?_
    obtain ⟨_, _, hbody, hrest⟩ := bind_eq_ok.1 hrun
    obtain ⟨state, rfl⟩ := EntityOp.onState_eq_ok hbody
    obtain ⟨_, _, hread, hpure⟩ := bind_eq_ok.1 hrest
    obtain ⟨_, rfl⟩ := EntityOp.reading_eq_ok hread
    cases hpure
    exact ⟨state, rfl⟩

theorem acquire_spec (hcounted : r.heap.Counted) (required : List String) :
    AllOrNothing (acquire address required) r fun _ r' => r.TransactedOn address .add r' := by
  unfold acquire
  refine .read_bind (run_reading _) fun missing hmissing => ?_
  by_cases hempty : missing.isEmpty = true
  · obtain ⟨e, hentity, _⟩ := read_bind_eq_ok.1 hmissing
    simp only [hempty, ↓reduceIte]
    exact .pure (transactedOn_self hcounted hentity)
  · simp only [hempty]
    refine .read_bind (run_reading _) fun allowed _ => ?_
    cases allowed with
    | false => exact .throw_bind
    | true => exact .bind_pure (transact_applyGroup hcounted "acquire" _ .add)

/-- Nothing is merged unless the validator accepts the offer. -/
theorem merge_spec (hcounted : r.heap.Counted) (offer : Offer) (validator : Validator) :
    AllOrNothing (merge address offer validator) r fun _ r' =>
      validator offer = .ok () ∧ r.TransactedOn address .add r' := by
  unfold merge
  refine .read_bind (run_reading _) fun e _ => ?_
  cases hvalidator : validator offer with
  | error reason => exact .throw
  | ok _ =>
    refine .get_bind (.bind_pure ?_)
    exact (transact_applyGroup hcounted _ _ .add).mono fun _ _ hdone => ⟨rfl, hdone⟩

end RealmOp

/-- Every call on an entity is a transaction, and does to its machine what it asks for at most. -/
theorem EntityCall.perform_on {r : Realm} {address : Address} (hcounted : r.heap.Counted)
    (call : EntityCall) :
    AllOrNothing (call.perform address) r
      fun _ r' => r.TransactedOn address (call.request r address) r' := by
  cases call with
  | setState key value => exact RealmOp.setState_spec hcounted key value
  | removeState key =>
    exact (RealmOp.removeState_spec hcounted key).silently.mono fun _ _ ⟨_, hdone⟩ => hdone
  | invoke method arguments =>
    exact (RealmOp.invoke_spec hcounted method arguments).silently.mono fun _ _ ⟨_, hdone⟩ => hdone
  | transition target => exact RealmOp.transition_spec hcounted target
  | attach name => exact RealmOp.attach_spec hcounted name
  | detach name => exact RealmOp.detach_spec hcounted name
  | addModifier name =>
    exact .read_bind (RealmOp.run_reading _) fun _ _ => RealmOp.attach_spec hcounted name
  | removeModifier name =>
    exact .read_bind (RealmOp.run_reading _) fun _ _ => RealmOp.detach_spec hcounted name
  | applyGroup group direction => exact RealmOp.applyGroup_spec hcounted group direction
  | acquire required =>
    exact (RealmOp.acquire_spec hcounted required).silently.mono fun _ _ ⟨_, hdone⟩ => hdone
  | merge offer validator =>
    exact (RealmOp.merge_spec hcounted offer validator).silently.mono fun _ _ ⟨_, hdone⟩ => hdone.2

theorem EntityCall.perform_spec {r : Realm} {address : Address} (hcounted : r.heap.Counted)
    (call : EntityCall) :
    AllOrNothing (call.perform address) r fun _ r' => r.TransactedAt address r' :=
  (call.perform_on hcounted).mono fun _ _ hdone => hdone.transactedAt

end CapabilityArena
