import CapabilityArena.Proofs.Entity.WellFormed

/-!
What becomes of the machine of an entity, depending on what is asked for. Attaching can start a machine where
none runs, detaching can stop it, a move takes it along a declared edge, and nothing else touches it, whatever
hooks and methods do to the fields.
-/

namespace CapabilityArena

/-- What is asked of an entity, as far as its machine is concerned. -/
inductive Request where
  | fields
  | add
  | remove
  | move (target : String)

/-- What a request that is granted can do to the machine of an entity. -/
inductive Registry.MachineStep (r : Registry) :
    Request → Option RunningMachine → Option RunningMachine → Prop where
  | keep {request : Request} {machine : Option RunningMachine}
    (hstays : ∀ target, request ≠ .move target) : MachineStep r request machine machine
  | start {key : String} {m : Machine} (hdefined : r.machines.get? key = some m) :
    MachineStep r .add none (some m.start)
  | stop {machine : Option RunningMachine} : MachineStep r .remove machine none
  | move {running : RunningMachine} {m : Machine} {target : String}
    (hdefined : r.machines.get? running.machine = some m)
    (hpermits : m.permits running.current target = true) :
    MachineStep r (.move target) (some running) (some { running with current := target })

/-- The request of applying a group. -/
def GroupDirection.request : GroupDirection → Request
  | .add => .add
  | .remove => .remove

theorem GroupDirection.request_ne_move (direction : GroupDirection) (target : String) :
    direction.request ≠ .move target := by
  cases direction <;> exact nofun

/-- Members are all added or all removed, and several such steps are one. -/
theorem Registry.MachineStep.trans {r : Registry} {direction : GroupDirection}
    {first second third : Option RunningMachine}
    (hfirst : r.MachineStep direction.request first second)
    (hsecond : r.MachineStep direction.request second third) :
    r.MachineStep direction.request first third := by
  cases direction with
  | add =>
    cases hfirst with
    | keep _ => exact hsecond
    | start hdefined =>
      -- Where a machine runs already, none is started.
      cases hsecond with
      | keep _ => exact .start hdefined
  | remove =>
    cases hsecond with
    | keep _ => exact hfirst
    | stop => exact .stop

namespace Surroundings

variable {s : Surroundings} {e e' : Entity} {name : String}

theorem machineStep_of_attach (hattach : (s.attach name).run e = .ok () e') :
    s.registry.MachineStep .add e.machine e'.machine := by
  obtain ⟨capability, state, machine, hadmitted, hstarted, rfl, _⟩ := attach_eq_ok hattach
  obtain ⟨_, _, _, hclear⟩ := admission_eq_ok hadmitted
  cases hbrought : capability.machine with
  | none =>
    rw [hbrought] at hstarted
    have hsame : machine = e.machine := hstarted
    rw [hsame]
    exact .keep nofun
  | some key =>
    rw [hbrought] at hstarted
    obtain ⟨m, hdefined, hstart⟩ := hstarted
    rcases (checkAmbiguity_eq_ok hclear).2 with hnone | hidle
    · cases hnone.symm.trans hbrought
    · rw [hidle, hstart]
      exact .start hdefined

theorem machineStep_of_detach (hdetach : (s.detach name).run e = .ok () e') :
    s.registry.MachineStep .remove e.machine e'.machine := by
  obtain ⟨capability, state, _, rfl, _⟩ := detach_eq_ok hdetach
  cases hbrings : capability.machine.isSome with
  | false => exact .keep nofun
  | true => exact .stop

theorem machineStep_of_transition {target : String}
    (hmove : (s.transition target).run e = .ok () e') :
    s.registry.MachineStep (.move target) e.machine e'.machine := by
  obtain ⟨running, m, state, hrunning, hdefined, hpermits, rfl⟩ := transition_eq_ok hmove
  rw [hrunning]
  exact .move hdefined hpermits

theorem machineStep_of_applyGroup {group : String} {members : List String}
    {direction : GroupDirection} (happly : (s.applyGroup group members direction).run e = .ok () e') :
    s.registry.MachineStep direction.request e.machine e'.machine := by
  refine related_of_applyGroup
    (R := fun e e' => s.registry.MachineStep direction.request e.machine e'.machine)
    (fun _ => .keep direction.request_ne_move) .trans (fun member e e' hmember => ?_) happly
  cases direction with
  | add => exact machineStep_of_attach hmember
  | remove => exact machineStep_of_detach hmember

/-- The machine of a new entity is in its first state. -/
theorem machineStep_of_implement {names : List String}
    (himplement : (s.implement names).run e = .ok () e') :
    s.registry.MachineStep .add e.machine e'.machine :=
  (related_of_implement
    (R := fun e e' => s.registry.MachineStep GroupDirection.add.request e.machine e'.machine)
    (fun _ => .keep (GroupDirection.request_ne_move .add)) .trans (fun _ _ _ => machineStep_of_attach)
    himplement).1

end Surroundings

end CapabilityArena
