import CapabilityArena.Proofs.Transaction.Attaching
import CapabilityArena.Proofs.Transaction.Declarative

/-!
Additions that keep out of each other's way. Of declarative capabilities none of which writes a field that
another one writes or declares, each finds its own fields as if it came alone, whichever come before it; what
is left to conflicts between them is symmetric. So they can be attached in turn exactly if each of them could
be attached alone and no two of them are in conflict, and what they leave can be told without their order.
-/

namespace CapabilityArena

/-- A declarative capability that is to be attached: its name, its definition, and its fields. -/
structure Addition where
  name : String
  capability : Capability
  fields : List Field

namespace Addition

instance : Nonempty Addition := ⟨⟨"", .concept ⟨"", .empty, .empty, none⟩, []⟩⟩

/-- What is written to a field, if anything is. -/
def written? (a : Addition) (r : Registry) (key : String) : Option Value :=
  (r.overlay a.capability a.fields).get? key

/-- The entity afterwards. -/
def applied (a : Addition) (s : Surroundings) (e : Entity) : Entity :=
  s.attached a.name a.capability a.fields e

structure Registered (a : Addition) (r : Registry) : Prop where
  known : r.capability? a.name = some a.capability
  declarative : a.capability.Declarative a.fields

/-- What one writes the other neither writes nor declares. -/
def Spares (r : Registry) (a b : Addition) : Prop :=
  ∀ key value, a.written? r key = some value →
    b.written? r key = none ∧ b.capability.shapes.get? key = none

def Apart (r : Registry) (a b : Addition) : Prop := a.Spares r b ∧ b.Spares r a

/-- Both can be active at once. -/
structure Compatible (a b : Addition) : Prop where
  name_ne : a.name ≠ b.name
  methods_disjoint : ∀ method, a.capability.methods.contains method = true →
    b.capability.methods.contains method = false
  machine : a.capability.machine = none ∨ b.capability.machine = none

/-- An entity to which an addition can be attached. -/
structure Fits (s : Surroundings) (e : Entity) (a : Addition) : Prop where
  inactive : e.hasActive a.name = false
  permitted : s.contexts.permits e.id a.name = true
  clear : s.checkAmbiguity e a.capability = .ok ()
  valid : s.validate (a.applied s e) = .ok ()

theorem Apart.symm {r : Registry} {a b : Addition} (hapart : a.Apart r b) : b.Apart r a :=
  ⟨hapart.2, hapart.1⟩

theorem Compatible.symm {a b : Addition} (hcompatible : a.Compatible b) : b.Compatible a where
  name_ne := hcompatible.name_ne.symm
  methods_disjoint := by
    intro method hmethod
    rw [← Bool.not_eq_true]
    intro hshared
    rw [hcompatible.methods_disjoint method hshared] at hmethod
    cases hmethod
  machine := hcompatible.machine.symm

end Addition

namespace Surroundings

variable {s : Surroundings} {e : Entity} {capability : Capability}

/-- A capability is in no conflict exactly if it shares no method with the active ones, and brings no machine
    where one runs. -/
theorem checkAmbiguity_eq_ok_iff : s.checkAmbiguity e capability = .ok () ↔
    (∀ name ∈ e.active, ∀ c, s.registry.capability? name = some c →
      ∀ method, capability.methods.contains method = true → c.methods.contains method = false) ∧
    (capability.machine = none ∨ e.machine = none) := by
  refine ⟨checkAmbiguity_eq_ok, fun ⟨hmethods, hmachine⟩ => ?_⟩
  have hnoMethod : s.methodClash? e capability = none := by
    refine List.findSome?_eq_none_iff.2 fun method hmethod => Option.map_eq_none_iff.2 ?_
    refine List.find?_eq_none.2 fun name hmem hprovides => ?_
    obtain ⟨c, hc, hshared⟩ := (Option.any_eq_true _ _).1 hprovides
    rw [hmethods name hmem c hc method (Dictionary.mem_keys_iff.1 hmethod)] at hshared
    cases hshared
  have hnoMachine : s.machineClash? e capability = none := by
    unfold machineClash?
    rcases hmachine with hnone | hnone <;> rw [hnone]
    cases capability.machine <;> rfl
  rw [checkAmbiguity, hnoMethod, hnoMachine]
  rfl

/-- What a field has to hold, with these capabilities active and this machine running. -/
structure FieldInOrder (s : Surroundings) (active : List String) (machine : Option RunningMachine)
    (key : String) (held : Option Value) : Prop where
  shaped : ∀ name ∈ active, ∀ c shape, s.registry.capability? name = some c →
    c.shapes.get? key = some shape → ∃ value, held = some value ∧ shape.admits value = true
  home : ∀ value, held = some value → value.HomeIn s.arena
  shown : ∀ running m, machine = some running → s.registry.machines.get? running.machine = some m →
    m.stateKey = some key → held = some (.str running.current)

/-- A field remains in order where only others are asked for more. -/
theorem FieldInOrder.of_asked {active active' : List String} {machine machine' : Option RunningMachine}
    {key : String} {held : Option Value} (hfield : s.FieldInOrder active machine key held)
    (hactive : ∀ name ∈ active', ∀ c shape, s.registry.capability? name = some c →
      c.shapes.get? key = some shape → name ∈ active)
    (hmachine : ∀ running m, machine' = some running →
      s.registry.machines.get? running.machine = some m → m.stateKey = some key →
      machine = some running) : s.FieldInOrder active' machine' key held where
  shaped := fun name hmem c shape hc hshape =>
    hfield.shaped name (hactive name hmem c shape hc hshape) c shape hc hshape
  home := hfield.home
  shown := fun running m hrunning hdefined hkey =>
    hfield.shown running m (hmachine running m hrunning hdefined hkey) hdefined hkey

/-- An entity is valid if every single field is in order. -/
theorem validate_iff_fields (hknown : ∀ name ∈ e.active, s.registry.isKnown name = true) :
    s.validate e = .ok () ↔ ∀ key, s.FieldInOrder e.active e.machine key (e.state.get? key) := by
  rw [validate_eq_ok_iff]
  constructor
  · rintro ⟨hshapes, hhome, hshown⟩ key
    constructor
    case shaped =>
      intro name hmem c shape hc hshape
      obtain ⟨found, hfound, hall⟩ := hshapes name hmem
      cases hfound.symm.trans hc
      exact hall key shape hshape
    case home =>
      intro value hvalue
      exact hhome value (List.mem_map.2 ⟨(key, value), Dictionary.mem_entries_iff.2 hvalue, rfl⟩)
    case shown => exact fun running m => hshown running m key
  · intro hfields
    refine ⟨fun name hmem => ?_, fun value hmem => ?_, fun running m key => (hfields key).shown running m⟩
    · obtain ⟨c, hc⟩ := Option.isSome_iff_exists.1 (hknown name hmem)
      exact ⟨c, hc, fun key shape => (hfields key).shaped name hmem c shape hc⟩
    · obtain ⟨⟨key, found⟩, hentry, rfl⟩ := List.mem_map.1 hmem
      exact (hfields key).home found (Dictionary.mem_entries_iff.1 hentry)

end Surroundings

namespace Addition

variable {s : Surroundings} {e e' : Entity} {a b : Addition}

theorem get?_applied (key : String) :
    (a.applied s e).state.get? key = (a.written? s.registry key).or (e.state.get? key) :=
  Surroundings.get?_attached key

theorem id_applied (a : Addition) (s : Surroundings) (e : Entity) : (a.applied s e).id = e.id := by
  cases hcapability : a.capability <;> simp only [applied, Surroundings.attached, Entity.activated, hcapability]

theorem mem_active_applied {query : String} :
    query ∈ (a.applied s e).active ↔ query = a.name ∨ query ∈ e.active :=
  Surroundings.mem_active_attached

theorem isKnown_applied (ha : a.Registered s.registry)
    (hknown : ∀ name ∈ e.active, s.registry.isKnown name = true) :
    ∀ name ∈ (a.applied s e).active, s.registry.isKnown name = true := by
  intro name hmem
  rcases mem_active_applied.1 hmem with rfl | hold
  · rw [Registry.isKnown, ha.known, Option.isSome_some]
  · exact hknown name hold

theorem machine_applied : (a.applied s e).machine =
    ((s.registry.machineOf? a.capability).map Machine.start).or e.machine :=
  rfl

/-- A machine that shows its state in a field that is not written was running before: one that is started
    writes the field. -/
theorem machine_of_applied (hnamed : s.registry.MachinesNamed) {running : RunningMachine} {m : Machine}
    {key : String} (hrunning : (a.applied s e).machine = some running)
    (hmachine : s.registry.machines.get? running.machine = some m) (hkey : m.stateKey = some key)
    (hfree : a.written? s.registry key = none) : e.machine = some running := by
  rcases Option.or_eq_some_iff.1 (machine_applied.symm.trans hrunning) with hstarted | ⟨_, hold⟩
  · obtain ⟨brought, hbrought, rfl⟩ := Option.map_eq_some_iff.1 hstarted
    obtain ⟨filed, _, hfiled⟩ := Option.bind_eq_some_iff.1 hbrought
    change s.registry.machines.get? brought.name = some m at hmachine
    rw [hnamed filed brought hfiled, hfiled] at hmachine
    cases hmachine
    cases hfree.symm.trans (Surroundings.get?_overlay_of_machine hbrought hkey)
  · exact hold

/-- A capability that asks something of a field was active before, unless it is the new one and declares the
    field. -/
theorem mem_active_of_applied (ha : a.Registered s.registry) {key : String}
    (hundeclared : a.capability.shapes.get? key = none) {query : String} {c : Capability} {shape : Shape}
    (hactive : query ∈ (a.applied s e).active) (hc : s.registry.capability? query = some c)
    (hshape : c.shapes.get? key = some shape) : query ∈ e.active := by
  rcases mem_active_applied.1 hactive with rfl | hold
  · cases ha.known.symm.trans hc
    cases hundeclared.symm.trans hshape
  · exact hold

section Pairs

variable (hnamed : s.registry.MachinesNamed) (ha : a.Registered s.registry) (hb : b.Registered s.registry)
  (hapart : a.Apart s.registry b) (hknown : ∀ name ∈ e.active, s.registry.isKnown name = true)

include hnamed ha hb hapart hknown

/-- Every field is as one of the two leaves it, and nothing that the other one asks of it is lost. -/
theorem valid_together (hfirst : s.validate (a.applied s e) = .ok ())
    (hsecond : s.validate (b.applied s e) = .ok ()) :
    s.validate (b.applied s (a.applied s e)) = .ok () := by
  have hknown' := isKnown_applied ha hknown
  have hfirst := (Surroundings.validate_iff_fields hknown').1 hfirst
  have hsecond := (Surroundings.validate_iff_fields (isKnown_applied hb hknown)).1 hsecond
  refine (Surroundings.validate_iff_fields (isKnown_applied hb hknown')).2 fun key => ?_
  cases hwritten : b.written? s.registry key with
  | some value =>
    -- The first one does not know the field.
    obtain ⟨hspared, hundeclared⟩ := hapart.2 key value hwritten
    rw [get?_applied, get?_applied, hspared, Option.none_or, ← get?_applied]
    refine (hsecond key).of_asked (fun name hmem c shape hc hshape => mem_active_applied.2 ?_)
      fun running m hrunning hdefined hkey => ?_
    · exact (mem_active_applied.1 hmem).imp_right fun hold =>
        mem_active_of_applied ha hundeclared hold hc hshape
    · rw [machine_applied, Option.or_eq_some_iff] at hrunning ⊢
      exact hrunning.imp_right fun ⟨hnone, hold⟩ =>
        ⟨hnone, machine_of_applied hnamed hold hdefined hkey hspared⟩
  | none =>
    have hmachine : ∀ running m, (b.applied s (a.applied s e)).machine = some running →
        s.registry.machines.get? running.machine = some m → m.stateKey = some key →
        (a.applied s e).machine = some running := fun running m hrunning hdefined hkey =>
      machine_of_applied hnamed hrunning hdefined hkey hwritten
    rw [get?_applied, hwritten, Option.none_or]
    cases hspared : a.written? s.registry key with
    | some value =>
      -- Nor does the second one.
      obtain ⟨_, hundeclared⟩ := hapart.1 key value hspared
      exact (hfirst key).of_asked (fun _ hmem _ _ => mem_active_of_applied hb hundeclared hmem) hmachine
    | none =>
      constructor
      case shaped =>
        intro name hmem c shape hc hshape
        rcases mem_active_applied.1 hmem with hnew | hold
        · have halone := (hsecond key).shaped name (mem_active_applied.2 (.inl hnew)) c shape hc hshape
          rw [get?_applied, hwritten] at halone
          rw [get?_applied, hspared]
          exact halone
        · exact (hfirst key).shaped name hold c shape hc hshape
      case home => exact (hfirst key).home
      case shown => exact fun running m hrunning hdefined hkey =>
          (hfirst key).shown running m (hmachine running m hrunning hdefined hkey) hdefined hkey

/-- What is in order after both is so after the second one alone, or was so from the start. -/
theorem valid_apart (hidle : a.capability.machine = none ∨ e.machine = none)
    (hvalid : s.validate e = .ok ()) (hboth : s.validate (b.applied s (a.applied s e)) = .ok ()) :
    s.validate (b.applied s e) = .ok () := by
  have hvalid := (Surroundings.validate_iff_fields hknown).1 hvalid
  have hboth := (Surroundings.validate_iff_fields (isKnown_applied hb (isKnown_applied ha hknown))).1 hboth
  refine (Surroundings.validate_iff_fields (isKnown_applied hb hknown)).2 fun key => ?_
  cases hwritten : a.written? s.registry key with
  | none =>
    have hheld : (b.applied s e).state.get? key = (b.applied s (a.applied s e)).state.get? key := by
      simp only [get?_applied, hwritten, Option.none_or]
    rw [hheld]
    refine (hboth key).of_asked (fun name hmem _ _ _ _ => mem_active_applied.2 ?_)
      fun running m hrunning _ _ => ?_
    · exact (mem_active_applied.1 hmem).imp_right fun hold => mem_active_applied.2 (.inr hold)
    · -- If a machine was running, the first one has brought none.
      rw [machine_applied, Option.or_eq_some_iff] at hrunning ⊢
      refine hrunning.imp_right fun ⟨hnone, hold⟩ => ⟨hnone, ?_⟩
      rcases hidle with hbrings | hidle
      · rw [machine_applied, Registry.machineOf?, hbrings]
        exact hold
      · cases hidle.symm.trans hold
  | some value =>
    obtain ⟨hspared, hundeclared⟩ := hapart.1 key value hwritten
    rw [get?_applied, hspared, Option.none_or]
    exact (hvalid key).of_asked (fun _ hmem _ _ => mem_active_of_applied hb hundeclared hmem)
      fun running m hrunning hdefined hkey => machine_of_applied hnamed hrunning hdefined hkey hspared

end Pairs

/-- An addition can be attached exactly where it fits. -/
theorem attach_eq_ok_iff (hdefined : s.registry.MachinesDefined) (ha : a.Registered s.registry) :
    (s.attach a.name).run e = .ok () e' ↔ a.Fits s e ∧ e' = a.applied s e := by
  constructor
  · intro hattach
    obtain ⟨hadmitted, rfl⟩ := Surroundings.attached_of_attach ha.known ha.declarative hattach
    obtain ⟨_, hinactive, hpermits, hclear⟩ := Surroundings.admission_eq_ok hadmitted
    obtain ⟨_, _, _, _, _, _, hvalid⟩ := Surroundings.attach_eq_ok hattach
    exact ⟨⟨hinactive, hpermits, hclear, hvalid⟩, rfl⟩
  · rintro ⟨hfits, rfl⟩
    have hadmitted := Surroundings.admission_of_clear ha.known hfits.inactive hfits.permitted hfits.clear
    rw [Surroundings.run_attach hadmitted ha.declarative (hdefined a.name a.capability ha.known)]
    change unchanged (a.applied s e) (s.validate (a.applied s e)) = _
    rw [hfits.valid]
    rfl

theorem hasActive_applied {query : String} : (a.applied s e).hasActive query = false ↔
    e.hasActive query = false ∧ a.name ≠ query := by
  rw [← Bool.not_eq_true, ← Bool.not_eq_true, Entity.hasActive_iff, Entity.hasActive_iff,
    mem_active_applied, not_or, and_comm, ne_comm]

theorem machine_applied_eq_none_iff (hdefined : s.registry.MachinesDefined) (ha : a.Registered s.registry) :
    (a.applied s e).machine = none ↔ e.machine = none ∧ a.capability.machine = none := by
  rw [machine_applied, Registry.machineOf?]
  cases hbrought : a.capability.machine with
  | none => simp
  | some key =>
    obtain ⟨m, hm⟩ := Option.isSome_iff_exists.1 (hdefined a.name a.capability ha.known key hbrought)
    simp [hm]

/-- Of conflicts there are those that were there before, and those between the two. -/
theorem checkAmbiguity_applied_iff (hdefined : s.registry.MachinesDefined) (ha : a.Registered s.registry) :
    s.checkAmbiguity (a.applied s e) b.capability = .ok () ↔
      s.checkAmbiguity e b.capability = .ok () ∧
      (∀ method, a.capability.methods.contains method = true →
        b.capability.methods.contains method = false) ∧
      (a.capability.machine = none ∨ b.capability.machine = none) := by
  simp only [Surroundings.checkAmbiguity_eq_ok_iff, mem_active_applied,
    machine_applied_eq_none_iff hdefined ha, forall_eq_or_imp, ha.known, Option.some.injEq]
  grind

/-- After another one an addition fits exactly if it fitted before and can be active together with it. -/
theorem fits_applied_iff (hnamed : s.registry.MachinesNamed) (hdefined : s.registry.MachinesDefined)
    (ha : a.Registered s.registry) (hb : b.Registered s.registry) (hapart : a.Apart s.registry b)
    (hknown : ∀ name ∈ e.active, s.registry.isKnown name = true) (hvalid : s.validate e = .ok ())
    (hfits : a.Fits s e) : b.Fits s (a.applied s e) ↔ b.Fits s e ∧ a.Compatible b := by
  constructor
  · rintro ⟨hinactive, hpermitted, hclear, hboth⟩
    obtain ⟨hinactive, hne⟩ := hasActive_applied.1 hinactive
    obtain ⟨hclear, hmethods, hmachine⟩ := (checkAmbiguity_applied_iff hdefined ha).1 hclear
    have hidle := (Surroundings.checkAmbiguity_eq_ok hfits.clear).2
    rw [id_applied] at hpermitted
    exact ⟨⟨hinactive, hpermitted, hclear, valid_apart hnamed ha hb hapart hknown hidle hvalid hboth⟩,
      ⟨hne, hmethods, hmachine⟩⟩
  · rintro ⟨hfitsToo, hne, hmethods, hmachine⟩
    exact ⟨hasActive_applied.2 ⟨hfitsToo.inactive, hne⟩, by rw [id_applied]; exact hfitsToo.permitted,
      (checkAmbiguity_applied_iff hdefined ha).2 ⟨hfitsToo.clear, hmethods, hmachine⟩,
      valid_together hnamed ha hb hapart hknown hfits.valid hfitsToo.valid⟩

/-! Several additions. -/

variable {additions order : List Addition}

/-- Additions can be attached in turn exactly if each of them fits on its own and any two of them can be
    active together. -/
theorem exists_forM_attach_iff (hnamed : s.registry.MachinesNamed) (hdefined : s.registry.MachinesDefined)
    (hregistered : ∀ a ∈ additions, a.Registered s.registry)
    (hapart : additions.Pairwise (Apart s.registry))
    (hknown : ∀ name ∈ e.active, s.registry.isKnown name = true) (hvalid : s.validate e = .ok ()) :
    (∃ e', ((additions.map name).forM s.attach).run e = .ok () e') ↔
      (∀ a ∈ additions, a.Fits s e) ∧ additions.Pairwise Compatible := by
  induction additions generalizing e with
  | nil => exact iff_of_true ⟨e, rfl⟩ ⟨nofun, .nil⟩
  | cons first additions ih =>
    obtain ⟨hfirst, hregistered⟩ := List.forall_mem_cons.1 hregistered
    obtain ⟨hapartFirst, hapart⟩ := List.pairwise_cons.1 hapart
    have hcons : (∃ e', (((first :: additions).map name).forM s.attach).run e = .ok () e') ↔
        first.Fits s e ∧
          ∃ e', ((additions.map name).forM s.attach).run (first.applied s e) = .ok () e' := by
      constructor
      · rintro ⟨e', hrun⟩
        obtain ⟨_, _, hattach, hrest⟩ := bind_eq_ok.1 hrun
        obtain ⟨hfits, rfl⟩ := (attach_eq_ok_iff hdefined hfirst).1 hattach
        exact ⟨hfits, e', hrest⟩
      · rintro ⟨hfits, e', hrest⟩
        exact ⟨e', bind_eq_ok.2 ⟨(), _, (attach_eq_ok_iff hdefined hfirst).2 ⟨hfits, rfl⟩, hrest⟩⟩
    rw [hcons, List.forall_mem_cons, List.pairwise_cons, and_assoc]
    refine and_congr_right fun hfits => ?_
    rw [ih hregistered hapart (isKnown_applied hfirst hknown) hfits.valid, ← and_assoc]
    refine and_congr_left fun _ => ?_
    rw [← forall₂_and]
    exact forall₂_congr fun a hmem => fits_applied_iff hnamed hdefined hfirst (hregistered a hmem)
      (hapartFirst a hmem) hknown hvalid hfits

/-- So they can be attached in any order or in none. -/
theorem exists_forM_attach_perm (hnamed : s.registry.MachinesNamed)
    (hdefined : s.registry.MachinesDefined) (hregistered : ∀ a ∈ additions, a.Registered s.registry)
    (hapart : additions.Pairwise (Apart s.registry))
    (hknown : ∀ name ∈ e.active, s.registry.isKnown name = true) (hvalid : s.validate e = .ok ())
    (hperm : additions.Perm order) :
    (∃ e', ((additions.map name).forM s.attach).run e = .ok () e') ↔
      ∃ e', ((order.map name).forM s.attach).run e = .ok () e' := by
  have hregistered' : ∀ a ∈ order, a.Registered s.registry :=
    fun a hmem => hregistered a (hperm.mem_iff.2 hmem)
  rw [exists_forM_attach_iff hnamed hdefined hregistered hapart hknown hvalid,
    exists_forM_attach_iff hnamed hdefined hregistered'
      ((hperm.pairwise_iff Apart.symm).1 hapart) hknown hvalid,
    hperm.pairwise_iff Compatible.symm]
  simp only [hperm.mem_iff]

/-- What additions leave of an entity, told without their order. -/
structure Outcome (r : Registry) (additions : List Addition) (e e' : Entity) : Prop where
  active : e'.active.Perm (additions.map name ++ e.active)
  written : ∀ a ∈ additions, ∀ key value, a.written? r key = some value →
    e'.state.get? key = some value
  kept : ∀ key, (∀ a ∈ additions, a.written? r key = none) → e'.state.get? key = e.state.get? key
  started : ∀ a ∈ additions, ∀ m, r.machineOf? a.capability = some m → e'.machine = some m.start
  running : (∀ a ∈ additions, r.machineOf? a.capability = none) → e'.machine = e.machine

theorem outcome_of_forM_attach (hdefined : s.registry.MachinesDefined)
    (hregistered : ∀ a ∈ additions, a.Registered s.registry)
    (hapart : additions.Pairwise (Apart s.registry)) (hcompatible : additions.Pairwise Compatible)
    (hattach : ((additions.map name).forM s.attach).run e = .ok () e') :
    Outcome s.registry additions e e' := by
  induction additions generalizing e with
  | nil =>
    cases hattach
    exact ⟨.refl _, nofun, fun _ _ => rfl, nofun, fun _ => rfl⟩
  | cons first additions ih =>
    obtain ⟨hfirst, hregistered⟩ := List.forall_mem_cons.1 hregistered
    obtain ⟨hapartFirst, hapart⟩ := List.pairwise_cons.1 hapart
    obtain ⟨hcompatibleFirst, hcompatible⟩ := List.pairwise_cons.1 hcompatible
    obtain ⟨_, _, hattachFirst, hrest⟩ := bind_eq_ok.1 hattach
    obtain ⟨_, rfl⟩ := (attach_eq_ok_iff hdefined hfirst).1 hattachFirst
    have hothers := ih hregistered hapart hcompatible hrest
    constructor
    case active =>
      have hnew : (first.applied s e).active.Perm (first.name :: e.active) :=
        Entity.perm_active_activated e first.name first.capability
      exact hothers.active.trans ((hnew.append_left _).trans List.perm_middle)
    case written =>
      intro a hmem key value hwritten
      rcases List.mem_cons.1 hmem with rfl | hother
      · -- Those that come after it leave the field alone.
        rw [hothers.kept key fun other hother => ((hapartFirst other hother).1 key value hwritten).1,
          get?_applied, hwritten, Option.some_or]
      · exact hothers.written a hother key value hwritten
    case kept =>
      intro key hfree
      obtain ⟨hfreeFirst, hfree⟩ := List.forall_mem_cons.1 hfree
      rw [hothers.kept key hfree, get?_applied, hfreeFirst, Option.none_or]
    case started =>
      intro a hmem m hbrings
      rcases List.mem_cons.1 hmem with rfl | hother
      · have hnone : ∀ other ∈ additions, s.registry.machineOf? other.capability = none := by
          intro other hother
          rcases (hcompatibleFirst other hother).machine with hnone | hnone
          · rw [Registry.machineOf?, hnone] at hbrings
            cases hbrings
          · rw [Registry.machineOf?, hnone, Option.bind_none]
        rw [hothers.running hnone, machine_applied, hbrings]
        rfl
      · exact hothers.started a hother m hbrings
    case running =>
      intro hnone
      obtain ⟨hnoneFirst, hnone⟩ := List.forall_mem_cons.1 hnone
      rw [hothers.running hnone, machine_applied, hnoneFirst]
      rfl

/-- The outcome is the same in every order. -/
theorem Outcome.unique {r : Registry} {e₁ e₂ : Entity} (hperm : additions.Perm order)
    (hfirst : Outcome r additions e e₁) (hsecond : Outcome r order e e₂) :
    e₁.state = e₂.state ∧ e₁.machine = e₂.machine ∧ e₁.active.Perm e₂.active := by
  refine ⟨Dictionary.ext_get? fun key => ?_, ?_, ?_⟩
  · by_cases hwritten : ∃ a ∈ additions, ∃ value, a.written? r key = some value
    · obtain ⟨a, hmem, value, hvalue⟩ := hwritten
      rw [hfirst.written a hmem key value hvalue, hsecond.written a (hperm.mem_iff.1 hmem) key value hvalue]
    · have hfree : ∀ a ∈ additions, a.written? r key = none := fun a hmem =>
        Option.eq_none_iff_forall_ne_some.2 fun value hvalue => hwritten ⟨a, hmem, value, hvalue⟩
      rw [hfirst.kept key hfree, hsecond.kept key fun a hmem => hfree a (hperm.mem_iff.2 hmem)]
  · by_cases hbrought : ∃ a ∈ additions, ∃ m, r.machineOf? a.capability = some m
    · obtain ⟨a, hmem, m, hm⟩ := hbrought
      rw [hfirst.started a hmem m hm, hsecond.started a (hperm.mem_iff.1 hmem) m hm]
    · have hnone : ∀ a ∈ additions, r.machineOf? a.capability = none := fun a hmem =>
        Option.eq_none_iff_forall_ne_some.2 fun m hm => hbrought ⟨a, hmem, m, hm⟩
      rw [hfirst.running hnone, hsecond.running fun a hmem => hnone a (hperm.mem_iff.2 hmem)]
  · exact hfirst.active.trans (((hperm.map name).append_right _).trans hsecond.active.symm)

end Addition

end CapabilityArena
