import CapabilityArena.Proofs.Realm.Sequence
import CapabilityArena.Proofs.Transaction.Attaching

/-!
Calling methods. The body that is called is the one of the first active capability that has any, and the
order of active capabilities is an accident of history. It does not matter: active capabilities share no
methods, so that there is one provider or none, whatever the order.
-/

namespace CapabilityArena

/-- The body that the capability of this name gives to a method. -/
def Registry.body? (r : Registry) (name method : String) : Option Method :=
  (r.capability? name).bind (·.methods.get? method)

/-- Active capabilities have no method in common. -/
theorem Entity.NamesInOrder.provider_unique {registry : Registry} {e : Entity}
    (hnames : e.NamesInOrder registry) {first second method : String} (hfirst : first ∈ e.active)
    (hsecond : second ∈ e.active) (hprovides : (registry.body? first method).isSome)
    (hprovides' : (registry.body? second method).isSome) : first = second := by
  obtain ⟨body, hbody⟩ := Option.isSome_iff_exists.1 hprovides
  obtain ⟨other, hother⟩ := Option.isSome_iff_exists.1 hprovides'
  obtain ⟨c, hc, hmethod⟩ := Option.bind_eq_some_iff.1 hbody
  obtain ⟨d, hd, hmethod'⟩ := Option.bind_eq_some_iff.1 hother
  by_contra hne
  have hshared := hnames.methods_disjoint first hfirst second hsecond hne c d hc hd method
    (by rw [Dictionary.contains, hmethod]; rfl)
  rw [Dictionary.contains, hmethod'] at hshared
  cases hshared

/-- What calling a method with this body comes to: the result, and the fields afterwards. -/
def Surroundings.call (s : Surroundings) (method : String) (body : Method) (arguments : List Value)
    (e : Entity) : Except Failure (Value × State) :=
  match body arguments e.state with
  | .error reason _ => .error (.methodFailed method reason)
  | .ok result state => do
    result.checkStorable s.arena
    s.validate { e with state := state }
    .ok (result, state)

namespace Surroundings

variable {s : Surroundings} {e e' : Entity} {method : String} {body : Method} {arguments : List Value}
  {result : Value} {state : State} {failure : Failure}

/-- For validity it does not matter in which order capabilities have become active. -/
theorem validate_congr (hactive : ∀ name, name ∈ e'.active ↔ name ∈ e.active)
    (hstate : e'.state = e.state) (hmachine : e'.machine = e.machine) :
    s.validate e' = .ok () ↔ s.validate e = .ok () := by
  simp only [validate_eq_ok_iff, hactive, hstate, hmachine, Content.HomeIn, Content.values]

theorem call_eq_ok_iff : s.call method body arguments e = .ok (result, state) ↔
    body arguments e.state = .ok result state ∧ result.checkStorable s.arena = .ok () ∧
      s.validate { e with state := state } = .ok () := by
  unfold call
  cases body arguments e.state with
  | error reason edited => simp
  | ok found edited =>
    simp only [read_bind_eq_ok]
    constructor
    · rintro ⟨_, hstorable, _, hvalid, hdone⟩
      cases hdone
      exact ⟨rfl, hstorable, hvalid⟩
    · rintro ⟨hbody, hstorable, hvalid⟩
      cases hbody
      exact ⟨(), hstorable, (), hvalid, rfl⟩

/-- Nor does it for calls, of which a body has only the fields to see. -/
theorem call_congr (hactive : ∀ name, name ∈ e'.active ↔ name ∈ e.active)
    (hstate : e'.state = e.state) (hmachine : e'.machine = e.machine) :
    s.call method body arguments e' = .ok (result, state) ↔
      s.call method body arguments e = .ok (result, state) := by
  rw [call_eq_ok_iff, call_eq_ok_iff, hstate]
  exact and_congr_right fun _ => and_congr_right fun _ => validate_congr hactive rfl hmachine

/-- What a call fails for once there is a body. -/
theorem kind_of_call (hknown : ∀ name ∈ e.active, s.registry.isKnown name = true)
    (hcall : s.call method body arguments e = .error failure) :
    failure.kind ∈ [.hook, .uncountedAlias, .shapeMismatch, .illegalTransition] := by
  unfold call at hcall
  cases hbody : body arguments e.state with
  | error reason edited =>
    rw [hbody] at hcall
    cases hcall
    simp [Failure.kind]
  | ok found edited =>
    rw [hbody] at hcall
    rcases read_bind_eq_error.1 hcall with hforeign | ⟨_, _, hrest⟩
    · simp [Value.kind_of_checkStorable hforeign]
    rcases read_bind_eq_error.1 hrest with hinvalid | ⟨_, _, hdone⟩
    · have hkind := kind_of_invalid (e := { e with state := edited }) hknown hinvalid
      grind
    · cases hdone

end Surroundings

namespace Realm

variable {r : Realm} {address other : Address} {e e' : Entity} {method : String} {failure : Failure}
  {outcome outcome' : Except Failure (Value × State)}

/-- The fields that a call leaves are stored, and a call that fails leaves everything as it was. -/
def settle (r : Realm) (address : Address) (e : Entity) :
    Except Failure (Value × State) → EStateM.Result Failure Realm Value
  | .ok (result, state) =>
    .ok result { r with heap := r.heap.putEntity address { e with state := state } }
  | .error failure => .error failure r

theorem method?_eq_none_iff :
    r.method? e method = none ↔ ∀ name ∈ e.active, r.registry.body? name method = none :=
  List.findSome?_eq_none_iff

/-- The first provider is the only one. -/
theorem method?_eq_some_iff (hnames : e.NamesInOrder r.registry) {body : Method} :
    r.method? e method = some body ↔ ∃ name ∈ e.active, r.registry.body? name method = some body := by
  refine ⟨List.exists_of_findSome?_eq_some, ?_⟩
  rintro ⟨name, hmem, hbody⟩
  cases hmethod : r.method? e method with
  | none => cases (method?_eq_none_iff.1 hmethod name hmem).symm.trans hbody
  | some found =>
    obtain ⟨first, hfirst, hfound⟩ := List.exists_of_findSome?_eq_some hmethod
    have hsame : first = name := hnames.provider_unique hfirst hmem
      (Option.isSome_of_eq_some hfound) (Option.isSome_of_eq_some hbody)
    exact hfound.symm.trans (hsame ▸ hbody)

/-- So it is found in any order. -/
theorem method?_congr (hnames : e.NamesInOrder r.registry) (hnames' : e'.NamesInOrder r.registry)
    (hactive : ∀ name, name ∈ e'.active ↔ name ∈ e.active) : r.method? e' method = r.method? e method := by
  ext body
  simp only [method?_eq_some_iff hnames, method?_eq_some_iff hnames', hactive]

theorem error_of_settle {r' : Realm} (hsettle : r.settle address e outcome = .error failure r') :
    outcome = .error failure := by
  cases outcome with
  | ok left => cases hsettle
  | error found =>
    cases hsettle
    rfl

/-- Calls that succeed alike are settled alike. -/
theorem settle_congr (hcounted : r.heap.Counted) (hstored : r.heap.content? address = some (.entity e))
    (hstored' : r.heap.content? other = some (.entity e'))
    (hsame : ∀ result state, outcome' = .ok (result, state) ↔ outcome = .ok (result, state)) :
    (∃ result state r₁ r₂, r.settle address e outcome = .ok result r₁ ∧
      r.settle other e' outcome' = .ok result r₂ ∧
      r₁.heap.entity address = .ok { e with state := state } ∧
      r₂.heap.entity other = .ok { e' with state := state }) ∨
    (∃ failure failure', r.settle address e outcome = .error failure r ∧
      r.settle other e' outcome' = .error failure' r) := by
  cases outcome with
  | ok left =>
    obtain ⟨result, state⟩ := left
    rw [(hsame result state).2 rfl]
    exact .inl ⟨result, state, _, _, rfl, rfl, Heap.entity_putEntity_self hcounted hstored _,
      Heap.entity_putEntity_self hcounted hstored' _⟩
  | error failure =>
    cases outcome' with
    | ok left => cases (hsame left.1 left.2).1 rfl
    | error failure' => exact .inr ⟨failure, failure', rfl, rfl⟩

end Realm

theorem EntityOp.run_onState {α : Type} (change : StateChange α) (failed : String → Failure) (e : Entity) :
    (onState change failed).run e = match change e.state with
      | .ok a state => .ok a { e with state := state }
      | .error reason state => .error (failed reason) { e with state := state } :=
  rfl

namespace RealmOp

variable {r : Realm} {address other : Address} {e e' : Entity} {method : String} {arguments : List Value}

theorem checkArguments_eq_ok_iff {arena : ArenaId} : checkArguments arena arguments = .ok () ↔
    ∀ argument ∈ arguments, argument.checkStorable arena = .ok () := by
  induction arguments with
  | nil => simp [checkArguments]
  | cons first arguments ih =>
    rw [checkArguments, read_bind_eq_ok, List.forall_mem_cons, ← ih]
    exact ⟨fun ⟨_, hfirst, hrest⟩ => ⟨hfirst, hrest⟩, fun ⟨hfirst, hrest⟩ => ⟨(), hfirst, hrest⟩⟩

/-- A call, spelled out: the arguments are checked, the body is looked up and run, and what it leaves is
    checked and stored. -/
theorem run_invoke (hcounted : r.heap.Counted) (hstored : r.heap.content? address = some (.entity e))
    (method : String) (arguments : List Value) : (invoke address method arguments).run r =
      match checkArguments address.arena arguments, r.method? e method with
      | .error failure, _ => .error failure r
      | .ok _, none => .error (.unknownMethod method) r
      | .ok _, some body =>
        r.settle address e ((r.surroundings address.arena).call method body arguments e) := by
  unfold invoke
  rw [EStateM.run_bind, run_reading]
  cases checkArguments address.arena arguments with
  | error failure => rfl
  | ok _ =>
    simp only [unchanged]
    rw [EStateM.run_bind, run_reading, hcounted.entity_eq_ok_iff.2 hstored]
    simp only [unchanged, EStateM.run_bind, EStateM.run_get]
    cases r.method? e method with
    | none => rfl
    | some body =>
      simp only [run_transact hcounted hstored]
      rw [EntityOp.validated, EStateM.run_bind, EStateM.run_bind, EntityOp.run_onState, Surroundings.call]
      cases body arguments e.state with
      | error reason edited => rfl
      | ok result edited =>
        simp only [EStateM.run_bind, EntityOp.run_reading, EntityOp.validate]
        cases result.checkStorable (r.surroundings address.arena).arena with
        | error failure => rfl
        | ok _ =>
          simp only [unchanged, EStateM.run_pure]
          cases (r.surroundings address.arena).validate { e with state := edited } <;> rfl

/-- With arguments that may be stored, the body that is run is that of the active capability that has one. -/
theorem run_invoke_of_body (hcounted : r.heap.Counted)
    (hstored : r.heap.content? address = some (.entity e)) (hnames : e.NamesInOrder r.registry)
    (harguments : ∀ argument ∈ arguments, argument.checkStorable address.arena = .ok ()) {name : String}
    {body : Method} (hmem : name ∈ e.active) (hbody : r.registry.body? name method = some body) :
    (invoke address method arguments).run r =
      r.settle address e ((r.surroundings address.arena).call method body arguments e) := by
  rw [run_invoke hcounted hstored, checkArguments_eq_ok_iff.2 harguments,
    (Realm.method?_eq_some_iff hnames).2 ⟨name, hmem, hbody⟩]

/-- And the method is unknown exactly if no active capability has it. -/
theorem invoke_eq_unknownMethod_iff (hcounted : r.heap.Counted)
    (hstored : r.heap.content? address = some (.entity e)) (hnames : e.NamesInOrder r.registry)
    (harguments : ∀ argument ∈ arguments, argument.checkStorable address.arena = .ok ()) :
    (∃ r', (invoke address method arguments).run r = .error (.unknownMethod method) r') ↔
      ∀ name ∈ e.active, r.registry.body? name method = none := by
  rw [← Realm.method?_eq_none_iff, run_invoke hcounted hstored, checkArguments_eq_ok_iff.2 harguments]
  cases r.method? e method with
  | none => exact iff_of_true ⟨r, rfl⟩ rfl
  | some body =>
    refine iff_of_false ?_ (Option.some_ne_none body)
    rintro ⟨r', hunknown⟩
    -- A body has no way to fail like this, nor has what it leaves.
    have hkind := Surroundings.kind_of_call (fun _ => hnames.isKnown) (Realm.error_of_settle hunknown)
    simp [Failure.kind] at hkind

/-- Entities that differ in the order of their capabilities answer the same call alike. -/
theorem invoke_alike (hcounted : r.heap.Counted) (hstored : r.heap.content? address = some (.entity e))
    (hstored' : r.heap.content? other = some (.entity e')) (hnames : e.NamesInOrder r.registry)
    (hnames' : e'.NamesInOrder r.registry) (harena : other.arena = address.arena)
    (hactive : ∀ name, name ∈ e'.active ↔ name ∈ e.active) (hstate : e'.state = e.state)
    (hmachine : e'.machine = e.machine) (method : String) (arguments : List Value) :
    (∃ result state r₁ r₂, (invoke address method arguments).run r = .ok result r₁ ∧
      (invoke other method arguments).run r = .ok result r₂ ∧
      r₁.heap.entity address = .ok { e with state := state } ∧
      r₂.heap.entity other = .ok { e' with state := state }) ∨
    (∃ failure failure', (invoke address method arguments).run r = .error failure r ∧
      (invoke other method arguments).run r = .error failure' r) := by
  rw [run_invoke hcounted hstored, run_invoke hcounted hstored', harena,
    Realm.method?_congr hnames hnames' hactive]
  cases checkArguments address.arena arguments with
  | error failure => exact .inr ⟨failure, failure, rfl, rfl⟩
  | ok _ =>
    cases r.method? e method with
    | none => exact .inr ⟨_, _, rfl, rfl⟩
    | some body => exact Realm.settle_congr hcounted hstored hstored' fun _ _ =>
        Surroundings.call_congr hactive hstate hmachine

end RealmOp

namespace Realm

/-- Methods are called without ambiguity, in every realm that calls can reach. At most one active capability
    has a method of a given name. With arguments that may be stored, its body is what is run, and that the
    method is unknown is the answer exactly if there is none. So how capabilities came to be active is
    without effect: on entities of one arena that have the same active capabilities, the same fields and the
    same machine, the same call succeeds with the same result and the same fields, or fails, on both. -/
theorem dispatch_unambiguous_of_run {registrations : List Registration} {registry : Registry}
    (hbuild : Registry.build registrations = .ok registry) (maxSlots maxContexts : Nat)
    (calls : List RealmCall) (address : Address) {e : Entity}
    (hentity : ((empty registry maxSlots maxContexts).run calls).heap.entity address = .ok e)
    (method : String) (arguments : List Value) :
    let r := (empty registry maxSlots maxContexts).run calls
    let invoke := fun address => (RealmOp.invoke address method arguments).run r
    (∀ first ∈ e.active, ∀ second ∈ e.active, (registry.body? first method).isSome →
      (registry.body? second method).isSome → first = second) ∧
    ((∀ argument ∈ arguments, argument.checkStorable address.arena = .ok ()) →
      (∀ name ∈ e.active, ∀ body, registry.body? name method = some body →
        invoke address =
          r.settle address e ((r.surroundings address.arena).call method body arguments e)) ∧
      ((∃ r', invoke address = .error (.unknownMethod method) r') ↔
        ∀ name ∈ e.active, registry.body? name method = none)) ∧
    (∀ other e', r.heap.entity other = .ok e' → other.arena = address.arena →
      (∀ name, e'.hasActive name = e.hasActive name) → e'.state = e.state → e'.machine = e.machine →
      (∃ result state r₁ r₂, invoke address = .ok result r₁ ∧ invoke other = .ok result r₂ ∧
        r₁.heap.entity address = .ok { e with state := state } ∧
        r₂.heap.entity other = .ok { e' with state := state }) ∨
      (∃ failure failure', invoke address = .error failure r ∧ invoke other = .error failure' r)) := by
  intro r invoke
  have hstands := entityAt_of_run hbuild maxSlots maxContexts calls address hentity
  have hnames : e.NamesInOrder r.registry := hstands.namesInOrder
  obtain ⟨hcounted, hregistry, hstored, _⟩ := hstands
  change r.registry = registry at hregistry
  rw [← hregistry]
  refine ⟨fun first hfirst second hsecond => hnames.provider_unique hfirst hsecond,
    fun harguments => ⟨fun name hmem body hbody => ?_, ?_⟩,
    fun other e' hentity' harena hactive hstate hmachine => ?_⟩
  · exact RealmOp.run_invoke_of_body hcounted hstored hnames harguments hmem hbody
  · exact RealmOp.invoke_eq_unknownMethod_iff hcounted hstored hnames harguments
  · have hstands' := entityAt_of_run hbuild maxSlots maxContexts calls other hentity'
    have hmem : ∀ name, name ∈ e'.active ↔ name ∈ e.active := by
      intro name
      rw [← Entity.hasActive_iff, ← Entity.hasActive_iff, hactive]
    exact RealmOp.invoke_alike hcounted hstored hstands'.stored hnames hstands'.namesInOrder harena hmem hstate
      hmachine method arguments

/-- Lamps with a switch, which may have a dimmer that is stuck. -/
def lampDefinitions : List Registration :=
  [.concept ⟨"Lamp", .ofList [("lit", .bool)],
      .ofList [("switch", fun _ => do
        modify fun state => state.insert "lit" (.bool true)
        pure (.str "on"))], none⟩,
    .modifier ⟨"Dimmed", .empty, none, none, .ofList [("dim", fun _ => throw "stuck")], none⟩,
    .modifier ⟨"Labelled", .empty, none, none, .empty, none⟩]

def lamps : Registry :=
  match Registry.build lampDefinitions with
  | .ok registry => registry
  | .error _ => .empty

/-- Two lamps that have come by their modifiers in different orders. -/
def twoLamps : List RealmCall :=
  [.heap .createArena, .createEntity ⟨1⟩ (.ofList [("lit", .bool false)]) ["Lamp"],
    .createEntity ⟨1⟩ (.ofList [("lit", .bool false)]) [],
    .entity (.ofParts ⟨1⟩ 0) (.attach "Dimmed"), .entity (.ofParts ⟨1⟩ 0) (.attach "Labelled"),
    .entity (.ofParts ⟨1⟩ 1) (.attach "Labelled"), .entity (.ofParts ⟨1⟩ 1) (.attach "Lamp"),
    .entity (.ofParts ⟨1⟩ 1) (.attach "Dimmed")]

theorem dispatch_unambiguous_lamps : ∃ e e' state r₁ r₂ failed,
    ((empty lamps 8 8).run twoLamps).heap.entity (.ofParts ⟨1⟩ 0) = .ok e ∧
    ((empty lamps 8 8).run twoLamps).heap.entity (.ofParts ⟨1⟩ 1) = .ok e' ∧
    e.active = ["Lamp", "Dimmed", "Labelled"] ∧ e'.active = ["Lamp", "Labelled", "Dimmed"] ∧
    (RealmOp.invoke (.ofParts ⟨1⟩ 0) "switch" []).run ((empty lamps 8 8).run twoLamps) =
      .ok (.str "on") r₁ ∧
    (RealmOp.invoke (.ofParts ⟨1⟩ 1) "switch" []).run ((empty lamps 8 8).run twoLamps) =
      .ok (.str "on") r₂ ∧
    r₁.heap.entity (.ofParts ⟨1⟩ 0) = .ok { e with state := state } ∧
    r₂.heap.entity (.ofParts ⟨1⟩ 1) = .ok { e' with state := state } ∧
    state.get? "lit" = some (.bool true) ∧
    (RealmOp.invoke (.ofParts ⟨1⟩ 0) "blink" []).run ((empty lamps 8 8).run twoLamps) =
      .error (.unknownMethod "blink") failed := by
  have hbuild : Registry.build lampDefinitions = .ok lamps := rfl
  obtain ⟨_, _, halike⟩ := dispatch_unambiguous_of_run hbuild 8 8 twoLamps (.ofParts ⟨1⟩ 0) rfl "switch" []
  obtain ⟨_, hblink, _⟩ := dispatch_unambiguous_of_run hbuild 8 8 twoLamps (.ofParts ⟨1⟩ 0) rfl "blink" []
  obtain ⟨failed, hunknown⟩ := (hblink nofun).2.2 (by decide)
  have hsame : ∀ name, ["Lamp", "Labelled", "Dimmed"].contains name =
      ["Lamp", "Dimmed", "Labelled"].contains name := by
    intro name
    simp only [List.contains_cons, List.contains_nil, Bool.or_comm, Bool.or_left_comm]
  rcases halike (.ofParts ⟨1⟩ 1) _ rfl rfl hsame rfl rfl with
    ⟨result, state, r₁, r₂, hfirst, hsecond, hread, hread'⟩ | ⟨failure, _, hfails, _⟩
  · cases hfirst
    cases hsecond
    cases hread
    exact ⟨_, _, _, _, _, failed, rfl, rfl, rfl, rfl, rfl, rfl, rfl, hread', rfl, hunknown⟩
  · cases hfails

end Realm

end CapabilityArena
