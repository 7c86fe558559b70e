import CapabilityArena.Proofs.Entity.WellFormed
import CapabilityArena.Proofs.Realm.Atomicity

/-!
No way around the contexts. A name becomes active, or stops being active, only if the contexts permit it for
the entity at that moment; so what they deny all the time stays as it is.
-/

namespace CapabilityArena

namespace Surroundings

variable {s : Surroundings} {e e' : Entity}

theorem Change.permits (hchange : s.Change e e') {name : String}
    (hdiffers : e'.hasActive name ≠ e.hasActive name) : s.contexts.permits e.id name = true := by
  have hmem : ¬ (name ∈ e'.active ↔ name ∈ e.active) := by
    intro hiff
    apply hdiffers
    rwa [Bool.eq_iff_iff, Entity.hasActive_iff, Entity.hasActive_iff]
  cases hchange with
  | fields state => exact absurd Iff.rfl hmem
  | move state _ _ _ => exact absurd Iff.rfl hmem
  | @attach attached capability machine state hadmitted _ =>
    have hiff : name ∈ (e.activated attached capability).active ↔ name = attached ∨ name ∈ e.active :=
      Entity.mem_active_activated
    by_cases hname : name = attached
    · rw [hname]
      exact (admission_eq_ok hadmitted).2.2.1
    · exact absurd (hiff.trans (or_iff_right hname)) hmem
  | @detach detached capability state hdismissed =>
    have hiff : name ∈ (e.deactivate detached).active ↔ name ∈ e.active ∧ name ≠ detached :=
      Entity.mem_active_deactivate
    by_cases hname : name = detached
    · rw [hname]
      exact (dismiss_eq_ok hdismissed).2.2
    · exact absurd (hiff.trans (and_iff_left hname)) hmem

theorem Changes.permits (hchanges : s.Changes e e') {name : String}
    (hdiffers : e'.hasActive name ≠ e.hasActive name) : s.contexts.permits e.id name = true := by
  induction hchanges with
  | refl => exact absurd rfl hdiffers
  | @tail between last hbefore hchange ih =>
    by_cases hsame : between.hasActive name = e.hasActive name
    · rw [← hsame] at hdiffers
      rw [← Changes.id_eq hbefore]
      exact hchange.permits hdiffers
    · exact ih hsame

end Surroundings

namespace Realm

variable {r r' : Realm} {address : Address}

/-- An entity after a step is the entity that was there before, but for what the contexts permit; or it is
    new, at an address that was never given out, and has only what they permit. -/
theorem Step.permitted (hstep : r.Step r') (hcounted : r.heap.Counted) {e' : Entity}
    (hstored : r'.heap.content? address = some (.entity e')) :
    (∃ e, r.heap.content? address = some (.entity e) ∧ e'.id = e.id ∧
      ∀ name, e'.hasActive name ≠ e.hasActive name → r.contexts.permits e.id name = true) ∨
    (¬ r.heap.Issued address ∧ r.heap.content? address = none ∧
      ∀ name, e'.hasActive name = true → r.contexts.permits e'.id name = true) := by
  have hkept : r.heap.content? address = some (.entity e') →
      ∃ e, r.heap.content? address = some (.entity e) ∧ e'.id = e.id ∧
        ∀ name, e'.hasActive name ≠ e.hasActive name → r.contexts.permits e.id name = true :=
    fun hsame => ⟨e', hsame, rfl, fun _ hdiffers => absurd rfl hdiffers⟩
  cases hstep with
  | heap hstep =>
    rcases hstep.content_of hcounted hstored with hold | ⟨_, _, v, hvalue⟩
    · exact .inl (hkept hold)
    · cases hvalue
  | refuse => exact .inl (hkept hstored)
  | create hchanges _ hstep =>
    rcases hstep.content_of hcounted hstored with hold | ⟨hfresh, hnone, hnew⟩
    · exact .inl (hkept hold)
    · cases hnew
      refine .inr ⟨hfresh, hnone, fun name hactive => ?_⟩
      rw [hchanges.id_eq]
      apply hchanges.permits
      rw [hactive]
      simp [Entity.hasActive, Entity.active, Entity.bare]
  | @change changed before after _ hdone =>
    rw [hdone.content? hcounted] at hstored
    by_cases haddress : address = changed
    · rw [if_pos haddress] at hstored
      cases hstored
      rw [haddress]
      exact .inl ⟨before, hdone.stored, hdone.changes.id_eq, fun _ => hdone.changes.permits⟩
    · rw [if_neg haddress] at hstored
      exact .inl (hkept hstored)
  | contexts contexts => exact .inl (hkept hstored)
  | policy policy => exact .inl (hkept hstored)

theorem Step.numbered (hstep : r.Step r') (hcounted : r.heap.Counted) (hnumbered : r.heap.Numbered) :
    r'.heap.Numbered := by
  cases hstep with
  | heap hstep => exact hstep.numbered hcounted hnumbered
  | refuse => exact hnumbered
  | create _ _ hstep => exact hstep.numbered hcounted hnumbered
  | change hdone =>
    rw [hdone.realm_eq]
    exact Heap.numbered_putEntity hcounted hdone.stored _ hnumbered
  | contexts contexts => exact hnumbered
  | policy policy => exact hnumbered

theorem Step.issued (hstep : r.Step r') (hcounted : r.heap.Counted) (hissued : r.heap.Issued address) :
    r'.heap.Issued address := by
  cases hstep with
  | heap hstep => exact hstep.issued hcounted hissued
  | refuse => exact hissued
  | create _ _ hstep => exact hstep.issued hcounted hissued
  | change hdone =>
    rw [hdone.realm_eq]
    exact Heap.issued_putEntity hcounted hdone.stored _ hissued
  | contexts contexts => exact hissued
  | policy policy => exact hissued

/-- Whether a name is active at an address; nothing is where no entity is. -/
def isActive (r : Realm) (address : Address) (name : String) : Bool :=
  match r.heap.entity address with
  | .ok e => e.hasActive name
  | .error _ => false

/-- Whenever a call of the run begins, the contexts deny the name for the entity. -/
def DeniesThroughout (id : EntityId) (name : String) : List RealmCall → Realm → Prop
  | [], _ => True
  | call :: calls, r =>
    r.contexts.permits id name = false ∧ DeniesThroughout id name calls (after call.perform r)

/-- The address has been given out, and no entity is there but this one, with this activity of the name. -/
def Fixed (address : Address) (id : EntityId) (name : String) (activity : Bool) (r : Realm) : Prop :=
  r.heap.Issued address ∧ ∀ e, r.heap.content? address = some (.entity e) →
    e.id = id ∧ e.hasActive name = activity

variable {id : EntityId} {name : String} {activity : Bool}

theorem Step.fixed (hstep : r.Step r') (hcounted : r.heap.Counted)
    (hdenied : r.contexts.permits id name = false) (hfixed : r.Fixed address id name activity) :
    r'.Fixed address id name activity := by
  obtain ⟨hissued, hfixed⟩ := hfixed
  refine ⟨hstep.issued hcounted hissued, fun e' hstored => ?_⟩
  rcases hstep.permitted hcounted hstored with ⟨e, hold, hid, hpermitted⟩ | ⟨hfresh, _⟩
  · obtain ⟨heid, hactivity⟩ := hfixed e hold
    refine ⟨hid.trans heid, ?_⟩
    by_cases hsame : e'.hasActive name = e.hasActive name
    · rw [hsame, hactivity]
    · have hpermits := hpermitted name hsame
      rw [heid, hdenied] at hpermits
      cases hpermits
  · exact absurd hissued hfresh

theorem fixed_run {calls : List RealmCall} (hcounted : r.heap.Counted)
    (hdenied : DeniesThroughout id name calls r) (hfixed : r.Fixed address id name activity) :
    (r.run calls).Fixed address id name activity := by
  induction calls generalizing r with
  | nil => exact hfixed
  | cons call calls ih =>
    obtain ⟨hnow, hlater⟩ := hdenied
    rcases call.step_perform hcounted with hsame | hdone
    · rw [hsame] at hlater
      simp only [run, List.foldl_cons, hsame]
      exact ih hcounted hlater hfixed
    · exact ih (hdone.counted hcounted) hlater (hdone.fixed hcounted hnow hfixed)

theorem isActive_eq_of_content (hcounted : r.heap.Counted) {e : Entity}
    (hstored : r.heap.content? address = some (.entity e)) (name : String) :
    r.isActive address name = e.hasActive name := by
  rw [isActive, hcounted.entity_eq_ok_iff.2 hstored]

theorem isActive_eq_false (hcounted : r.heap.Counted) (hnone : r.heap.content? address = none)
    (name : String) : r.isActive address name = false := by
  unfold isActive
  split
  next e hentity => cases hnone.symm.trans (hcounted.entity_eq_ok_iff.1 hentity)
  next => rfl

/-- What a step may change about the entity at an address, in terms of what can be read there. -/
theorem Step.permits_of_isActive_ne (hstep : r.Step r') (hcounted : r.heap.Counted) {e' : Entity}
    (hentity : r'.heap.entity address = .ok e') :
    (∀ e, r.heap.entity address = .ok e → e'.id = e.id) ∧
    ∀ name, e'.hasActive name ≠ r.isActive address name → r.contexts.permits e'.id name = true := by
  have hstored := (hstep.counted hcounted).entity_eq_ok_iff.1 hentity
  rcases hstep.permitted hcounted hstored with ⟨e, hold, hid, hpermitted⟩ | ⟨_, hnone, hpermitted⟩
  · refine ⟨fun found hfound => ?_, fun name hdiffers => ?_⟩
    · cases hold.symm.trans (hcounted.entity_eq_ok_iff.1 hfound)
      exact hid
    · rw [isActive_eq_of_content hcounted hold] at hdiffers
      rw [hid]
      exact hpermitted name hdiffers
  · refine ⟨fun found hfound => ?_, fun name hdiffers => hpermitted name ?_⟩
    · cases hnone.symm.trans (hcounted.entity_eq_ok_iff.1 hfound)
    · rw [isActive_eq_false hcounted hnone] at hdiffers
      exact (Bool.not_eq_false _).mp hdiffers

theorem hasActive_eq_of_denied {e e' : Entity} {calls : List RealmCall} (hcounted : r.heap.Counted)
    (hnumbered : r.heap.Numbered) (hentity : r.heap.entity address = .ok e)
    (hdenied : DeniesThroughout e.id name calls r)
    (hentity' : (r.run calls).heap.entity address = .ok e') :
    e'.id = e.id ∧ e'.hasActive name = e.hasActive name := by
  have hstored := hcounted.entity_eq_ok_iff.1 hentity
  have hfixed : r.Fixed address e.id name (e.hasActive name) := by
    refine ⟨Heap.issued_of_content hnumbered hstored, fun found hfound => ?_⟩
    cases hstored.symm.trans hfound
    exact ⟨rfl, rfl⟩
  have hafter := (counted_run hcounted calls).entity_eq_ok_iff.1 hentity'
  exact (fixed_run hcounted hdenied hfixed).2 e' hafter

theorem after_merge_of_refused (hcounted : r.heap.Counted) (address : Address) {offer : Offer}
    {validator : Validator} (hrefused : validator offer ≠ .ok ()) :
    after (RealmOp.merge address offer validator) r = r := by
  have hmerge : AllOrNothing (RealmOp.merge address offer validator) r _ :=
    RealmOp.merge_spec hcounted offer validator
  rcases hmerge.after_eq_or with hsame | ⟨_, haccepted, _⟩
  · exact hsame
  · exact absurd haccepted hrefused

/-- In every realm that calls can reach: whatever the next call is, names become active or inactive on an
    entity only where the contexts permit them for it at that moment, and a new entity has only such names.
    So while the contexts deny a name for an entity, no run of calls changes whether the name is active as
    long as the entity is there. And an offer that its validator does not accept changes nothing. -/
theorem permits_of_isActive_changed (registry : Registry) (maxSlots maxContexts : Nat)
    (calls : List RealmCall) :
    let r := (empty registry maxSlots maxContexts).run calls
    (∀ (call : RealmCall) address e', (after call.perform r).heap.entity address = .ok e' →
      (∀ e, r.heap.entity address = .ok e → e'.id = e.id) ∧
      ∀ name, e'.hasActive name ≠ r.isActive address name →
        r.contexts.permits e'.id name = true) ∧
    (∀ address e name more, r.heap.entity address = .ok e → DeniesThroughout e.id name more r →
      ∀ e', (r.run more).heap.entity address = .ok e' →
        e'.id = e.id ∧ e'.hasActive name = e.hasActive name) ∧
    (∀ address offer (validator : Validator), validator offer ≠ .ok () →
      after (RealmOp.merge address offer validator) r = r) := by
  intro r
  have hempty : (empty registry maxSlots maxContexts).heap.Numbered := by
    intro id a harena
    simp [empty, Heap.empty] at harena
  obtain ⟨hcounted, hnumbered⟩ : r.heap.Counted ∧ r.heap.Numbered :=
    run_induction (P := (·.heap.Numbered)) (fun _ _ hcounted hnumbered hstep =>
      hstep.numbered hcounted hnumbered) (Heap.counted_empty maxSlots) hempty calls
  refine ⟨fun call address e' hentity => ?_, fun address e name more hentity hdenied e' hentity' =>
    hasActive_eq_of_denied hcounted hnumbered hentity hdenied hentity', fun address offer validator hrefused =>
    after_merge_of_refused hcounted address hrefused⟩
  rcases call.step_perform hcounted with hsame | hdone
  · rw [hsame] at hentity
    refine ⟨fun e he => ?_, fun name hdiffers => ?_⟩
    · cases hentity.symm.trans he
      rfl
    · rw [isActive, hentity] at hdiffers
      exact absurd rfl hdiffers
  · exact hdone.permits_of_isActive_ne hcounted hentity

def frozenTicket : List RealmCall :=
  openTicket ++ [.enter ⟨⟨1⟩, "frozen", .deny (.ofList ["Urgent"]), .everyone⟩]

def attempts : List RealmCall :=
  [.entity (.ofParts ⟨1⟩ 0) (.attach "Urgent"),
    .entity (.ofParts ⟨1⟩ 0) (.applyGroup "Escalated" .add),
    .entity (.ofParts ⟨1⟩ 0) (.merge (.unsigned "desk" ["Urgent"]) fun _ => .ok ())]

/-- Urgent stays off while it is denied; before, it could be attached because it was permitted. -/
theorem permits_of_isActive_changed_ticket : ∃ e attached e',
    ((empty desk 8 8).run frozenTicket).heap.entity (.ofParts ⟨1⟩ 0) = .ok e ∧
    DeniesThroughout e.id "Urgent" attempts ((empty desk 8 8).run frozenTicket) ∧
    (((empty desk 8 8).run frozenTicket).run attempts).heap.entity (.ofParts ⟨1⟩ 0) = .ok e' ∧
    e'.hasActive "Urgent" = e.hasActive "Urgent" ∧ e.hasActive "Urgent" = false ∧
    (after (RealmCall.entity (.ofParts ⟨1⟩ 0) (.attach "Urgent")).perform
      ((empty desk 8 8).run openTicket)).heap.entity (.ofParts ⟨1⟩ 0) = .ok attached ∧
    attached.hasActive "Urgent" = true ∧
    ((empty desk 8 8).run openTicket).contexts.permits attached.id "Urgent" = true ∧
    after (RealmOp.merge (.ofParts ⟨1⟩ 0) (.unsigned "desk" ["Urgent"]) Validator.rejectAll)
      ((empty desk 8 8).run openTicket) = (empty desk 8 8).run openTicket := by
  obtain ⟨_, hfrozen, _⟩ := permits_of_isActive_changed desk 8 8 frozenTicket
  obtain ⟨hopen, _, hmerge⟩ := permits_of_isActive_changed desk 8 8 openTicket
  refine ⟨_, _, _, rfl, ⟨rfl, rfl, rfl, trivial⟩, rfl, ?_, rfl, rfl, rfl, ?_, ?_⟩
  · exact (hfrozen (.ofParts ⟨1⟩ 0) _ "Urgent" attempts rfl ⟨rfl, rfl, rfl, trivial⟩ _ rfl).2
  · exact (hopen (.entity (.ofParts ⟨1⟩ 0) (.attach "Urgent")) (.ofParts ⟨1⟩ 0) _ rfl).2 "Urgent"
      Bool.noConfusion
  · exact hmerge (.ofParts ⟨1⟩ 0) _ Validator.rejectAll fun haccepted => by cases haccepted

end Realm

end CapabilityArena
