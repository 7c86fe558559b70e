import CapabilityArena.Proofs.Manifest.Building
import CapabilityArena.Proofs.Realm.Sequence
import CapabilityArena.Proofs.Transaction.Fitting
import CapabilityArena.Proofs.Yaml.Value

/-!
Attaching the modifiers of a manifest. Such a modifier runs no code, its defaults are values of documents
and its machine is defined; what is left to stand in the way can be told in advance from the entity, the
contexts and the fields that would be written.
-/

namespace CapabilityArena

namespace ModifierEntry

/-- What attaching a modifier of a manifest writes to a field: the state in which its machine starts, where
    the machine shows it, and elsewhere the default that is declared. -/
def written? (entry : ModifierEntry) (r : Registry) (key : String) : Option Value :=
  ((entry.machine.bind r.machines.get?).bind fun m =>
      if m.stateKey = some key then some (.str m.initial) else none).or
    ((entry.declares.get? key).bind (·.default.toValue.toOption))

variable {entry : ModifierEntry} {fields : List Field} {r : Registry} {m : Modifier}

theorem Makes.get?_overlay (hmakes : entry.Makes m fields) (key : String) :
    (r.overlay (.modifier m) fields).get? key = entry.written? r key := by
  rw [Registry.get?_overlay, hmakes.default?_eq, Registry.machineOf?, Capability.machine, hmakes.machine_eq]
  rfl

theorem Makes.homeIn_writes (hmakes : entry.Makes m fields) (r : Registry) (arena : ArenaId) :
    ∀ value ∈ (r.writes (.modifier m) fields).map (·.2), value.HomeIn arena := by
  intro value hmem
  rw [Registry.writes, List.map_append, List.mem_append] at hmem
  rcases hmem with hdefault | hstate
  · rw [List.map_map] at hdefault
    obtain ⟨field, hfield, rfl⟩ := List.mem_map.1 hdefault
    obtain ⟨declared, _, hmade⟩ := hmakes.declared field hfield
    obtain ⟨_, _, hvalue, _⟩ := FieldEntry.toField_eq_ok hmade
    exact Yaml.Node.homeIn_of_toValue hvalue arena
  · obtain ⟨pair, hpair, rfl⟩ := List.mem_map.1 hstate
    obtain ⟨machine, _, hshown⟩ := List.mem_flatMap.1 hpair
    rw [Machine.shownStart, Option.mem_toList] at hshown
    obtain ⟨shown, _, rfl⟩ := Option.map_eq_some_iff.1 hshown
    rw [Value.homeIn_iff]
    exact List.forall_mem_nil _

/-- Where a modifier of a manifest is registered together with its machine, it can be attached to whatever it
    suits. -/
theorem Makes.ready (hmakes : entry.Makes m fields) {s : Surroundings}
    (hknown : s.registry.capability? m.name = some (.modifier m))
    (hdefined : ∀ key, m.machine = some key → s.registry.machines.contains key = true) :
    s.Ready entry.name (.modifier m) fields where
  declarative := .modifier hmakes.onAdd_eq hmakes.onRemove_eq
  known := hmakes.name_eq ▸ hknown
  machine_defined := hdefined
  storable := hmakes.homeIn_writes s.registry s.arena
  complete := by
    intro key shape hshape
    rw [Capability.shapes, hmakes.declares_eq] at hshape
    obtain ⟨field, hfield, hpair⟩ := List.mem_map.1 (Dictionary.mem_of_get?_ofList hshape)
    cases hpair
    cases hvalue : (s.registry.overlay (.modifier m) fields).get? field.key with
    | some value => exact ⟨value, rfl⟩
    | none =>
      refine absurd ?_ (Dictionary.get?_ofList_eq_none_iff.1 hvalue)
      rw [Registry.writes, List.map_append, List.map_map]
      exact List.mem_append_left _ (List.mem_map.2 ⟨field, hfield, rfl⟩)

end ModifierEntry

namespace Realm

/-- In every realm over a registry that is built from a manifest alone, a modifier of the manifest can be
    attached to an entity exactly if it is not active, it is permitted, it brings no machine where one runs,
    and what it writes suits the entity. The fields are then the old ones with what is written laid over
    them. Otherwise it is one of these that fails, and nothing else. -/
theorem attach_modifier_entry_of_run {manifest : Manifest} {registry : Registry}
    (hbuild : manifest.build = .ok registry) (maxSlots maxContexts : Nat) (calls : List RealmCall)
    (address : Address) {e : Entity}
    (hentity : ((empty registry maxSlots maxContexts).run calls).heap.entity address = .ok e)
    (entry : ModifierEntry) (hentry : entry ∈ manifest.modifiers) :
    let r := (empty registry maxSlots maxContexts).run calls
    let attach := RealmOp.attach address entry.name
    ((∃ r', attach.run r = .ok () r') ↔
      e.hasActive entry.name = false ∧ r.contexts.permits e.id entry.name = true ∧
      (entry.machine = none ∨ e.machine = none) ∧
      registry.Suits entry.name e (entry.written? registry)) ∧
    (∀ r', attach.run r = .ok () r' → ∃ e', r'.heap.entity address = .ok e' ∧
      ∀ key, e'.state.get? key = (entry.written? registry key).or (e.state.get? key)) ∧
    (∀ failure r', attach.run r = .error failure r' →
      failure.kind ∈ [.alreadyPresent, .permissionDenied, .ambiguousCapability, .shapeMismatch,
        .illegalTransition]) := by
  intro r attach
  obtain ⟨registrations, hregistrations, hmodifiers⟩ := Manifest.of_build_eq_ok hbuild
  obtain ⟨m, hm, hregistered⟩ := hmodifiers entry hentry
  obtain ⟨fields, hmakes⟩ := ModifierEntry.makes_of_toModifier hm
  obtain ⟨hcounted, hregistry, hstored, hwellFormed, hvalid⟩ :=
    entityAt_of_run hregistrations maxSlots maxContexts calls address hentity
  change r.registry = registry at hregistry
  have hhome := Surroundings.homeIn_of_validate hvalid
  have hnamed := Registry.machinesNamed_of_build hregistrations
  have hknown := Registry.capability?_of_modifier hregistrations hregistered
  have hdefined := Registry.contains_machine_of_modifier hregistrations hregistered
  rw [← hregistry] at hwellFormed hnamed hknown hdefined
  have hready : (r.surroundings address.arena).Ready entry.name (.modifier m) fields :=
    hmakes.ready hknown hdefined
  have hoverlay : (r.registry.overlay (.modifier m) fields).get? = entry.written? registry := by
    rw [← hregistry]
    exact funext hmakes.get?_overlay
  refine ⟨?_, fun r' hattach => ?_, fun failure r' hattach => ?_⟩
  · have hcall : (∃ r', attach.run r = .ok () r') ↔ ∃ e',
        ((r.surroundings address.arena).attach entry.name).run e = .ok () e' := by
      constructor
      · rintro ⟨r', hrun⟩
        obtain ⟨e', hedit, _⟩ := (RealmOp.attach_eq_ok_iff hcounted hstored).1 hrun
        exact ⟨e', hedit⟩
      · rintro ⟨e', hedit⟩
        exact ⟨_, (RealmOp.attach_eq_ok_iff hcounted hstored).2 ⟨e', hedit, rfl⟩⟩
    have hclear : (r.surroundings address.arena).checkAmbiguity e (.modifier m) = .ok () ↔
        entry.machine = none ∨ e.machine = none := by
      rw [← hmakes.machine_eq]
      exact Surroundings.checkAmbiguity_eq_ok_iff_of_no_methods hmakes.methods_eq
    rw [hcall, ← hclear, ← hoverlay, ← hregistry]
    exact Surroundings.exists_attach_eq_ok_iff hready hnamed hwellFormed hhome
  · obtain ⟨e', hedit, rfl⟩ := (RealmOp.attach_eq_ok_iff hcounted hstored).1 hattach
    obtain ⟨_, rfl⟩ := Surroundings.attached_of_attach hready.known hready.declarative hedit
    refine ⟨_, (hcounted.putEntity hstored _).entity_eq_ok_iff.2
      (Heap.content?_putEntity_self hcounted hstored _), fun key => ?_⟩
    rw [Surroundings.get?_attached]
    exact congrArg (Option.or · _) (congrFun hoverlay key)
  · obtain ⟨_, edited, hedit⟩ := (RealmOp.attach_eq_error_iff hcounted hstored).1 hattach
    exact Surroundings.kind_of_attach hready hwellFormed hhome hedit

/-- A modifier that agrees with tickets as long as they are open. -/
def labelled : ModifierEntry where
  name := "Labelled"
  declares := .ofList [("labels", ⟨.list, .sequence [.str "new"]⟩), ("status", ⟨.any, .str "open"⟩)]
  machine := none

/-- A modifier that would take the title away. -/
def untitled : ModifierEntry where
  name := "Untitled"
  declares := .ofList [("title", ⟨.null, .null⟩)]
  machine := none

def deskManifest : Manifest where
  machines := [⟨"Flow", ["open", "closed"], .ofList [("open", ["closed"])], some "status"⟩]
  concepts := [⟨"Ticket", .ofList [("title", .str)], some "Flow"⟩]
  modifiers := [labelled, untitled]
  groups := []

def manifestDesk : Registry :=
  match deskManifest.build with
  | .ok registry => registry
  | .error _ => .empty

theorem attach_modifier_entry_labelled : ∃ e r' e' failure failed,
    ((empty manifestDesk 8 8).run openTicket).heap.entity (.ofParts ⟨1⟩ 0) = .ok e ∧
    (RealmOp.attach (.ofParts ⟨1⟩ 0) "Labelled").run ((empty manifestDesk 8 8).run openTicket) =
      .ok () r' ∧
    manifestDesk.Suits "Labelled" e (labelled.written? manifestDesk) ∧
    r'.heap.entity (.ofParts ⟨1⟩ 0) = .ok e' ∧
    e'.state.get? "labels" = some (.list [.str "new"]) ∧
    e'.state.get? "title" = some (.str "printer") ∧
    (RealmOp.attach (.ofParts ⟨1⟩ 0) "Untitled").run ((empty manifestDesk 8 8).run openTicket) =
      .error failure failed ∧
    failure.kind = .shapeMismatch ∧
    ¬ manifestDesk.Suits "Untitled" e (untitled.written? manifestDesk) := by
  have hbuild : deskManifest.build = .ok manifestDesk := rfl
  obtain ⟨hlabelled, hstate, _⟩ := attach_modifier_entry_of_run hbuild 8 8 openTicket (.ofParts ⟨1⟩ 0) rfl
    labelled List.mem_cons_self
  obtain ⟨huntitled, _⟩ := attach_modifier_entry_of_run hbuild 8 8 openTicket (.ofParts ⟨1⟩ 0) rfl
    untitled (List.mem_cons_of_mem _ List.mem_cons_self)
  obtain ⟨_, _, _, hsuits⟩ := hlabelled.1 ⟨_, rfl⟩
  obtain ⟨e', hentity, hfields⟩ := hstate _ rfl
  refine ⟨_, _, e', _, _, rfl, rfl, hsuits, hentity, hfields "labels", hfields "title", rfl, rfl,
    fun hsuited => ?_⟩
  obtain ⟨_, hattach⟩ := huntitled.2 ⟨rfl, rfl, .inl rfl, hsuited⟩
  cases hattach

end Realm

end CapabilityArena
