import CapabilityArena.Proofs.Entity.WellFormed
import CapabilityArena.Proofs.Realm.Atomicity

/-!
Well-formedness over runs. Hooks and methods may do to the fields of an entity what they like; still every
entity that can be read is well-formed, because entities are put together by changes that keep them in order
and stored only when they are valid.
-/

namespace CapabilityArena.Realm

def EntitiesWellFormed (r : Realm) : Prop :=
  ∀ address e, r.heap.content? address = some (.entity e) → e.WellFormed r.registry

variable {r r' : Realm}

theorem Step.registry_eq (hstep : r.Step r') : r'.registry = r.registry := by
  cases hstep with
  | change hdone => rw [hdone.realm_eq]
  | _ => rfl

theorem Transacted.wellFormed {address : Address} {before after : Entity}
    (hnamed : r.registry.MachinesNamed) (hwellFormed : r.EntitiesWellFormed)
    (hdone : r.Transacted address before after r') : after.WellFormed r.registry := by
  have hbefore := hwellFormed address before hdone.stored
  rcases hdone.valid with rfl | hvalid
  · exact hbefore
  · exact Surroundings.wellFormed_of_validate (hbefore.toAssembled.changes hnamed hdone.changes) hvalid

theorem Step.entitiesWellFormed (hnamed : r.registry.MachinesNamed) (hcounted : r.heap.Counted)
    (hwellFormed : r.EntitiesWellFormed) (hstep : r.Step r') : r'.EntitiesWellFormed := by
  intro address e hstored
  cases hstep with
  | heap hstep =>
    rcases hstep.content_of hcounted hstored with hold | ⟨_, _, v, hvalue⟩
    · exact hwellFormed address e hold
    · cases hvalue
  | refuse => exact hwellFormed address e hstored
  | create hchanges hvalid hstep =>
    rcases hstep.content_of hcounted hstored with hold | ⟨_, _, hnew⟩
    · exact hwellFormed address e hold
    · cases hnew
      have hassembled := (Entity.assembled_bare r.registry ..).changes hnamed hchanges
      exact Surroundings.wellFormed_of_validate hassembled hvalid
  | @change changed before after _ hdone =>
    have hafter := hdone.wellFormed hnamed hwellFormed
    rw [hdone.content? hcounted] at hstored
    rw [hdone.realm_eq]
    by_cases haddress : address = changed
    · rw [if_pos haddress] at hstored
      cases hstored
      exact hafter
    · rw [if_neg haddress] at hstored
      exact hwellFormed address e hstored
  | contexts contexts => exact hwellFormed address e hstored
  | policy policy => exact hwellFormed address e hstored

theorem entitiesWellFormed_empty (registry : Registry) (maxSlots maxContexts : Nat) :
    (empty registry maxSlots maxContexts).EntitiesWellFormed := by
  intro address e hstored
  simp [empty, Heap.empty, Heap.content?] at hstored

theorem registry_perform (hcounted : r.heap.Counted) (call : RealmCall) :
    (after call.perform r).registry = r.registry := by
  rcases call.step_perform hcounted with hsame | hstep
  · rw [hsame]
  · exact hstep.registry_eq

theorem entitiesWellFormed_perform (hnamed : r.registry.MachinesNamed) (hcounted : r.heap.Counted)
    (hwellFormed : r.EntitiesWellFormed) (call : RealmCall) :
    (after call.perform r).EntitiesWellFormed := by
  rcases call.step_perform hcounted with hsame | hstep
  · rwa [hsame]
  · exact hstep.entitiesWellFormed hnamed hcounted hwellFormed

theorem entitiesWellFormed_run {registrations : List Registration} {registry : Registry}
    (hbuild : Registry.build registrations = .ok registry) (maxSlots maxContexts : Nat)
    (calls : List RealmCall) :
    let r := (empty registry maxSlots maxContexts).run calls
    r.heap.Counted ∧ r.registry = registry ∧ r.EntitiesWellFormed := by
  have hnamed := Registry.machinesNamed_of_build hbuild
  refine run_induction (P := fun r => r.registry = registry ∧ r.EntitiesWellFormed)
    (fun r r' hcounted hwellFormed hstep => ?_) (Heap.counted_empty maxSlots)
    ⟨rfl, entitiesWellFormed_empty registry maxSlots maxContexts⟩ calls
  obtain ⟨rfl, hwellFormed⟩ := hwellFormed
  exact ⟨hstep.registry_eq, hstep.entitiesWellFormed hnamed hcounted hwellFormed⟩

/-- Every entity that can be read in a realm over a built registry is well-formed, whatever calls have been
    made. -/
theorem wellFormed_of_run {registrations : List Registration} {registry : Registry}
    (hbuild : Registry.build registrations = .ok registry) (maxSlots maxContexts : Nat)
    (calls : List RealmCall) (address : Address) {e : Entity}
    (hentity : ((empty registry maxSlots maxContexts).run calls).heap.entity address = .ok e) :
    e.WellFormed registry := by
  obtain ⟨hcounted, hregistry, hwellFormed⟩ :=
    entitiesWellFormed_run hbuild maxSlots maxContexts calls
  have he := hwellFormed address e (hcounted.entity_eq_ok_iff.1 hentity)
  rwa [hregistry] at he

theorem wellFormed_openTicket : ∃ e, Registry.build deskDefinitions = .ok desk ∧
    ((empty desk 8 8).run openTicket).heap.entity (.ofParts ⟨1⟩ 0) = .ok e ∧
    e.active = ["Ticket"] ∧ e.machine = some ⟨"Flow", "open"⟩ ∧ e.WellFormed desk := by
  have hbuild : Registry.build deskDefinitions = .ok desk := rfl
  exact ⟨_, hbuild, rfl, rfl, rfl, wellFormed_of_run hbuild 8 8 openTicket (.ofParts ⟨1⟩ 0) rfl⟩

end CapabilityArena.Realm
