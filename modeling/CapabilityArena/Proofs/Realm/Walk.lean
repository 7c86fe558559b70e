import Mathlib.Data.List.Chain
import CapabilityArena.Proofs.Realm.Machine
import CapabilityArena.Proofs.Realm.Permission

/-!
Machines over runs. A machine comes and goes with the capability that brings it; in between, its current
states are a walk along the declared moves, from the first declared state on, whatever calls are made.
-/

namespace CapabilityArena

namespace Machine

variable {m : Machine} {source state : String} {states : List String}

/-- The states follow the moves of the machine from a source on. Staying is no move. -/
def Walks (m : Machine) (source : String) (states : List String) : Prop :=
  states.head? = some source ∧
    states.IsChain fun before after => after = before ∨ m.permits before after = true

theorem walks_singleton (m : Machine) (source : String) : m.Walks source [source] :=
  ⟨rfl, List.isChain_singleton _⟩

theorem Walks.cons (hwalks : m.Walks state states)
    (hmove : state = source ∨ m.permits source state = true) : m.Walks source (source :: states) := by
  obtain ⟨hhead, hchain⟩ := hwalks
  refine ⟨rfl, List.isChain_cons.2 ⟨fun next hnext => ?_, hchain⟩⟩
  cases hhead.symm.trans hnext
  exact hmove

/-- No walk leaves a terminal state. -/
theorem Walks.eq_of_isTerminal (hwalks : m.Walks source states)
    (hterminal : m.isTerminal source = true) : ∀ state ∈ states, state = source := by
  induction states with
  | nil => simp
  | cons first states ih =>
    obtain ⟨hhead, hchain⟩ := hwalks
    cases hhead
    obtain ⟨hmove, hrest⟩ := List.isChain_cons.1 hchain
    cases states with
    | nil => simp
    | cons second states =>
      have hstays : second = source := by
        rcases hmove second rfl with hsame | hpermits
        · exact hsame
        · rw [permits_of_isTerminal hterminal] at hpermits
          cases hpermits
      exact List.forall_mem_cons.2 ⟨rfl, ih ⟨congrArg some hstays, hrest⟩⟩

end Machine

namespace Realm

variable {r : Realm} {address : Address} {running : RunningMachine}

/-- The current states of the machine at an address, now and after each of the calls, for as long as one
    runs. -/
def trail (address : Address) : List RealmCall → Realm → List String
  | [], r =>
    match r.currentState address with
    | .ok (some state) => [state]
    | _ => []
  | call :: calls, r =>
    match r.currentState address with
    | .ok (some state) => state :: trail address calls (after call.perform r)
    | _ => []

theorem currentState_eq_ok (hrunning : r.running? address = some running) :
    r.currentState address = .ok (some running.current) := by
  unfold running? at hrunning
  split at hrunning
  next e hentity =>
    refine read_bind_eq_ok.2 ⟨e, hentity, ?_⟩
    rw [hrunning]
    rfl
  next => cases hrunning

theorem currentState_ne_ok (hidle : r.running? address = none) (state : String) :
    r.currentState address ≠ .ok (some state) := by
  intro hcurrent
  obtain ⟨e, hentity, hmachine⟩ := read_bind_eq_ok.1 hcurrent
  rw [running?, hentity] at hidle
  simp only at hidle
  rw [hidle] at hmachine
  cases hmachine

theorem trail_eq_nil (hidle : r.running? address = none) (calls : List RealmCall) :
    trail address calls r = [] := by
  have hnone := currentState_ne_ok hidle
  cases calls <;> unfold trail <;> split
  next state hcurrent => exact absurd hcurrent (hnone state)
  next => rfl
  next state hcurrent => exact absurd hcurrent (hnone state)
  next => rfl

/-- Whatever is called, the machine walks. -/
theorem walks_trail (hsound : r.heap.Sound) (hrunning : r.running? address = some running) {m : Machine}
    (hdefined : r.registry.machines.get? running.machine = some m) (calls : List RealmCall) :
    m.Walks running.current (trail address calls r) := by
  induction calls generalizing r running with
  | nil =>
    rw [trail, currentState_eq_ok hrunning]
    exact m.walks_singleton running.current
  | cons call calls ih =>
    rw [trail, currentState_eq_ok hrunning]
    have hsound' := call.sound hsound
    have hdefined' : (after call.perform r).registry.machines.get? running.machine = some m := by
      rwa [registry_perform hsound.counted]
    rcases running?_perform hsound hrunning hdefined call with
      hsame | ⟨c, target, _, _, _, hpermits, hmoved⟩ | ⟨hstopped, _⟩
    · exact (ih hsound' hsame hdefined').cons (.inl rfl)
    · exact (ih hsound' hmoved hdefined').cons (.inr hpermits)
    · rw [trail_eq_nil hstopped]
      exact m.walks_singleton running.current

/-- Where a machine runs, the capability that brings it is active. -/
theorem owner_of_running? (hcounted : r.heap.Counted) (hwellFormed : r.EntitiesWellFormed)
    (hrunning : r.running? address = some running) :
    ∃ owner, r.registry.Brings owner running.machine ∧ r.isActive address owner = true := by
  obtain ⟨e, hstored, hmachine⟩ := (running?_eq_some_iff hcounted).1 hrunning
  obtain ⟨owner, hactive, hbrings⟩ := (hwellFormed address e hstored).owner_of_machine running hmachine
  refine ⟨owner, hbrings, ?_⟩
  rw [isActive_eq_of_content hcounted hstored]
  exact Entity.hasActive_iff.2 hactive

theorem isActive_eq_false_of_idle (hcounted : r.heap.Counted) (hwellFormed : r.EntitiesWellFormed)
    (hidle : r.running? address = none) {owner machine : String}
    (hbrings : r.registry.Brings owner machine) : r.isActive address owner = false := by
  cases hactive : r.isActive address owner with
  | false => rfl
  | true =>
    unfold isActive at hactive
    unfold running? at hidle
    split at hactive
    next e hentity =>
      have he := hwellFormed address e (hcounted.entity_eq_ok_iff.1 hentity)
      obtain ⟨running, hmachine, _⟩ :=
        he.machine_of_owner owner (Entity.hasActive_iff.1 hactive) machine hbrings
      rw [hentity] at hidle
      cases hidle.symm.trans hmachine
    next => cases hactive

/-- A machine that a call starts comes with the capability that brings it, and walks from its first state
    on. -/
theorem walks_of_started (hnamed : r.registry.MachinesNamed) (hsound : r.heap.Sound)
    (hwellFormed : r.EntitiesWellFormed) (hidle : r.running? address = none) (call : RealmCall)
    (hrunning : (after call.perform r).running? address = some running) :
    ∃ m owner, r.registry.machines.get? running.machine = some m ∧
      r.registry.Brings owner running.machine ∧ r.isActive address owner = false ∧
      (after call.perform r).isActive address owner = true ∧
      ∀ more, m.Walks m.initial (trail address more (after call.perform r)) := by
  have hsound' := call.sound hsound
  have hregistry := registry_perform hsound.counted call
  have hwellFormed' := entitiesWellFormed_perform hnamed hsound.counted hwellFormed call
  obtain ⟨key, m, hkey, rfl⟩ := started_of_call hsound hidle call hrunning
  have hdefined : r.registry.machines.get? m.start.machine = some m := by
    rwa [Machine.start, hnamed key m hkey]
  obtain ⟨owner, hbrings, hactive⟩ := owner_of_running? hsound'.counted hwellFormed' hrunning
  rw [hregistry] at hbrings
  refine ⟨m, owner, hdefined, hbrings, ?_, hactive, fun more => ?_⟩
  · exact isActive_eq_false_of_idle hsound.counted hwellFormed hidle hbrings
  · rw [← hregistry] at hdefined
    exact walks_trail hsound' hrunning hdefined more

/-- A machine that is gone has taken the capability that brought it along. -/
theorem owner_of_stopped (hnamed : r.registry.MachinesNamed) (hsound : r.heap.Sound)
    (hwellFormed : r.EntitiesWellFormed) (hrunning : r.running? address = some running)
    (call : RealmCall) (hstopped : (after call.perform r).running? address = none) :
    ∃ owner, r.registry.Brings owner running.machine ∧ r.isActive address owner = true ∧
      (after call.perform r).isActive address owner = false := by
  have hwellFormed' := entitiesWellFormed_perform hnamed hsound.counted hwellFormed call
  obtain ⟨owner, hbrings, hactive⟩ := owner_of_running? hsound.counted hwellFormed hrunning
  refine ⟨owner, hbrings, hactive, ?_⟩
  rw [← registry_perform hsound.counted call] at hbrings
  exact isActive_eq_false_of_idle (call.sound hsound).counted hwellFormed' hstopped hbrings

/-- The machines of entities only walk declared moves, in every realm that calls can reach over a built
    registry. A call that starts a machine makes the capability active that brings it, and from then on its
    current states are a walk from the first declared state, whatever is called. A call leaves a machine
    alone, or takes it along a move that the call asks for, or ends it together with the entity or with the
    capability that brought it. Only what is allowed from the current state can be asked for with success,
    and a machine in a terminal state stays there. -/
theorem machine_walks_of_run {registrations : List Registration} {registry : Registry}
    (hbuild : Registry.build registrations = .ok registry) (maxSlots maxContexts : Nat)
    (calls : List RealmCall) (address : Address) :
    let r := (empty registry maxSlots maxContexts).run calls
    (∀ (call : RealmCall) running, r.running? address = none →
      (after call.perform r).running? address = some running →
      ∃ m owner, registry.machines.get? running.machine = some m ∧
        registry.Brings owner running.machine ∧ r.isActive address owner = false ∧
        (after call.perform r).isActive address owner = true ∧
        ∀ more, m.Walks m.initial (trail address more (after call.perform r))) ∧
    (∀ running, r.running? address = some running →
      ∃ m, registry.machines.get? running.machine = some m ∧
        (∀ call : RealmCall,
          (after call.perform r).running? address = some running ∨
          (∃ c target, call = .entity address c ∧ c.AsksMove m target ∧
            (c.perform address).run r = .ok () (after call.perform r) ∧
            m.permits running.current target = true ∧
            (after call.perform r).running? address = some { running with current := target }) ∨
          ((after call.perform r).running? address = none ∧
            ((after call.perform r).heap.content? address = none ∨
              ∃ c, call = .entity address c ∧ c.request r address = .remove) ∧
            ∃ owner, registry.Brings owner running.machine ∧ r.isActive address owner = true ∧
              (after call.perform r).isActive address owner = false)) ∧
        (∀ (c : EntityCall) target r', c.AsksMove m target → (c.perform address).run r = .ok () r' →
          m.permits running.current target = true ∧
            r'.running? address = some { running with current := target }) ∧
        ∀ more, m.Walks running.current (trail address more r) ∧
          (m.isTerminal running.current = true →
            ∀ state ∈ trail address more r, state = running.current)) := by
  intro r
  have hnamed := Registry.machinesNamed_of_build hbuild
  have hsound : r.heap.Sound := sound_run (Heap.sound_empty maxSlots) calls
  obtain ⟨_, hregistry, hwellFormed⟩ : r.heap.Counted ∧ r.registry = registry ∧
    r.EntitiesWellFormed := entitiesWellFormed_run hbuild maxSlots maxContexts calls
  rw [← hregistry] at hnamed
  constructor
  case left =>
    intro call running hidle hrunning
    have hstarted := walks_of_started hnamed hsound hwellFormed hidle call hrunning
    rwa [hregistry] at hstarted
  case right =>
    intro running hrunning
    obtain ⟨e, hstored, hmachine⟩ := (running?_eq_some_iff hsound.counted).1 hrunning
    obtain ⟨m, hdefined, _⟩ := (hwellFormed address e hstored).current_declared running hmachine
    refine ⟨m, hregistry ▸ hdefined, fun call => ?_, fun c target r' hasks hrun => ?_, fun more => ?_⟩
    · refine (running?_perform hsound hrunning hdefined call).imp_right
        (Or.imp_right fun ⟨hstopped, hcause⟩ => ⟨hstopped, hcause, ?_⟩)
      have howner := owner_of_stopped hnamed hsound hwellFormed hrunning call hstopped
      rwa [hregistry] at howner
    · exact moved_of_asksMove hsound.counted hrunning hdefined hasks hrun
    · have hwalks := walks_trail hsound hrunning hdefined more
      exact ⟨hwalks, hwalks.eq_of_isTerminal⟩

/-- Closing a ticket by writing to its status, and opening it again in vain. -/
def closeTicket : RealmCall := .entity (.ofParts ⟨1⟩ 0) (.setState "status" (.str "closed"))

def reopenTicket : RealmCall := .entity (.ofParts ⟨1⟩ 0) (.transition "open")

theorem machine_walks_closedTicket : ∃ m, Registry.build deskDefinitions = .ok desk ∧
    desk.machines.get? "Flow" = some m ∧ m.initial = "open" ∧ m.isTerminal "closed" = true ∧
    ((empty desk 8 8).run [.heap .createArena]).running? (.ofParts ⟨1⟩ 0) = none ∧
    ((empty desk 8 8).run openTicket).running? (.ofParts ⟨1⟩ 0) = some ⟨"Flow", "open"⟩ ∧
    trail (.ofParts ⟨1⟩ 0) [closeTicket, reopenTicket] ((empty desk 8 8).run openTicket) =
      ["open", "closed", "closed"] ∧
    m.Walks "open" ["open", "closed", "closed"] ∧ m.permits "open" "closed" = true ∧
    ∀ state ∈ trail (.ofParts ⟨1⟩ 0) [reopenTicket] ((empty desk 8 8).run (openTicket ++ [closeTicket])),
      state = "closed" := by
  have hbuild : Registry.build deskDefinitions = .ok desk := rfl
  obtain ⟨m, hflow, hinitial, hkey, hterminal⟩ : ∃ m, desk.machines.get? "Flow" = some m ∧
    m.initial = "open" ∧ m.stateKey = some "status" ∧ m.isTerminal "closed" = true :=
    ⟨_, rfl, rfl, rfl, rfl⟩
  obtain ⟨hstart, _⟩ := machine_walks_of_run hbuild 8 8 [.heap .createArena] (.ofParts ⟨1⟩ 0)
  obtain ⟨_, hopen⟩ := machine_walks_of_run hbuild 8 8 openTicket (.ofParts ⟨1⟩ 0)
  obtain ⟨_, hclosed⟩ := machine_walks_of_run hbuild 8 8 (openTicket ++ [closeTicket]) (.ofParts ⟨1⟩ 0)
  obtain ⟨started, _, hdefined, _, _, _, hwalks⟩ := hstart
    (.createEntity ⟨1⟩ (.ofList [("title", .str "printer")]) ["Ticket"]) ⟨"Flow", "open"⟩ rfl rfl
  cases hflow.symm.trans hdefined
  obtain ⟨_, hdefined, _, hmoves, _⟩ := hopen ⟨"Flow", "open"⟩ rfl
  cases hflow.symm.trans hdefined
  obtain ⟨_, hdefined, _, _, hends⟩ := hclosed ⟨"Flow", "closed"⟩ rfl
  cases hflow.symm.trans hdefined
  have hmove := hmoves (.setState "status" (.str "closed")) "closed" _ (.inr ⟨"status", hkey, rfl⟩) rfl
  have hwalk := hwalks [closeTicket, reopenTicket]
  rw [hinitial] at hwalk
  exact ⟨m, hbuild, hflow, hinitial, hterminal, rfl, rfl, rfl, hwalk, hmove.1,
    (hends [reopenTicket]).2 hterminal⟩

end Realm

end CapabilityArena
