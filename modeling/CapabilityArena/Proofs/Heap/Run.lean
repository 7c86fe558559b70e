import CapabilityArena.Proofs.Heap.Operations

/-!
Runs of a heap: calls with any arguments, performed one after another whether or not they fail. `Step` says
once what a single call can do to the heap; what it preserves, every run preserves.
-/

namespace CapabilityArena

inductive HeapCall where
  | createArena
  | enterScope (id : ArenaId)
  | exitScope (id : ArenaId)
  | exitScopeChecked (id : ArenaId) (scope : ScopeId)
  | allocate (id : ArenaId) (value : Value)
  | retain (address : Address)
  | reference (address : Address) (scope : ScopeId)
  | release (address : Address)

def HeapCall.perform : HeapCall → HeapOp Unit
  | .createArena => silently HeapOp.createArena
  | .enterScope id => silently (HeapOp.enterScope id)
  | .exitScope id => silently (HeapOp.exitScope id)
  | .exitScopeChecked id scope => silently (HeapOp.exitScopeChecked id scope)
  | .allocate id value => silently (HeapOp.allocate id value)
  | .retain address => silently (HeapOp.retain address)
  | .reference address scope => silently (HeapOp.reference address scope)
  | .release address => silently (HeapOp.release address)

namespace Heap

/-- The heap after a sequence of calls. A failing call counts as one of them. -/
def run (calls : List HeapCall) (h : Heap) : Heap :=
  calls.foldl (fun h call => after call.perform h) h

/-- What a successful operation can do to a heap, with the content that it may store in a new slot. -/
inductive Step (storable : Content → Prop) (h : Heap) : Heap → Prop where
  | create (hleft : h.nextArena ≠ 0xffffffff) :
    Step storable h { h.setArena (.opened ⟨h.nextArena⟩ ⟨h.nextScope⟩) with
      nextArena := h.nextArena + 1
      nextScope := h.nextScope + 1 }
  | enter {id : ArenaId} {a : Arena} (harena : h.arenas.get? id = some a) :
    Step storable h { h.setArena { a with frames := ⟨⟨h.nextScope⟩, []⟩ :: a.frames } with
      nextScope := h.nextScope + 1 }
  | exit {id : ArenaId} {a : Arena} {frame : Frame} {outer : List Frame}
    (harena : h.arenas.get? id = some a) (hframes : a.frames = frame :: outer) :
    Step storable h
      ((h.setArena (Arena.giveBackAll frame.held { a with frames := outer }).1).withoutSpent id)
  | allocate {id : ArenaId} {a : Arena} {frame : Frame} {outer : List Frame} {address : Address}
    {content : Content} (harena : h.arenas.get? id = some a) (hframes : a.frames = frame :: outer)
    (hcontent : storable content) (hroom : a.slots.size < 0x100000000)
    (haddress : address = .ofParts id (.ofNat a.slots.size)) :
    Step storable h (h.setArena { a with
      slots := a.slots.push (.holding content)
      live := a.live.add address.offset
      frames := frame.hold address :: outer })
  | refer {address : Address} {scope : ScopeId} {a : Arena} {slot : Slot} {frames : List Frame}
    (harena : h.arenas.get? address.arena = some a) (hslot : a.slot? address = some slot)
    (hlive : slot.isLive = true) (hhold : Arena.holdIn? scope address a.frames = some frames) :
    Step storable h (h.setArena ({ a with frames := frames }.replaceSlot address slot.gain))
  | release {address : Address} {a given : Arena} {frames : List Frame} {last : Bool}
    (harena : h.arenas.get? address.arena = some a)
    (hunhold : Arena.unholdInnermost? address a.frames = some frames)
    (hgiven : { a with frames := frames }.giveBack? address = some (given, last)) :
    Step storable h (if last then (h.setArena given).withoutSpent address.arena else h.setArena given)

end Heap

namespace HeapOp

open Heap (Step)

variable {storable : Content → Prop}

theorem step_exitScope (id : ArenaId) (h : Heap) :
    AllOrNothing (exitScope id) h fun _ h' => Step storable h h' := by
  refine (exitScope_spec id h).mono fun exit h' hexit => ?_
  obtain ⟨a, frame, outer, harena, hframes, _, rfl⟩ := hexit
  exact .exit harena hframes

theorem step_allocateContent {content : Content} (hcontent : storable content) (id : ArenaId)
    (h : Heap) : AllOrNothing (allocateContent id content) h fun _ h' => Step storable h h' := by
  refine (allocateContent_spec id content h).mono fun address h' hallocate => ?_
  obtain ⟨a, frame, outer, harena, hframes, _, hroom, haddress, rfl⟩ := hallocate
  exact .allocate harena hframes hcontent hroom haddress

theorem step_reference (address : Address) (scope : ScopeId) (h : Heap) :
    AllOrNothing (reference address scope) h fun _ h' => Step storable h h' := by
  refine (reference_spec address scope h).mono fun answer h' href => ?_
  obtain ⟨a, slot, frames, harena, hslot, hlive, hhold, _, rfl⟩ := href
  exact .refer harena hslot hlive hhold

end HeapOp

/-- Calls on a heap store values only. -/
def Content.IsValue (content : Content) : Prop := ∃ v, content = .value v

/-- A call stores nothing but the value that an allocation brings. -/
theorem HeapCall.step_perform_of {storable : Content → Prop} (call : HeapCall)
    (hstorable : ∀ id v, call = .allocate id v → storable (.value v)) (h : Heap) :
    AllOrNothing call.perform h fun _ h' => Heap.Step storable h h' := by
  cases call with
  | createArena =>
    refine (HeapOp.createArena_spec h).silently.mono fun _ h' hcreate => ?_
    obtain ⟨id, hleft, rfl, rfl⟩ := hcreate
    exact .create hleft
  | enterScope id =>
    refine (HeapOp.enterScope_spec id h).silently.mono fun _ h' henter => ?_
    obtain ⟨scope, a, harena, rfl, rfl⟩ := henter
    exact .enter harena
  | exitScope id =>
    have hexit : AllOrNothing _ h fun _ h' => Heap.Step storable h h' := HeapOp.step_exitScope id h
    exact hexit.silently.mono fun _ _ ⟨_, hstep⟩ => hstep
  | exitScopeChecked id scope =>
    refine (HeapOp.exitScopeChecked_spec id scope h).silently.mono fun _ h' hexit => ?_
    obtain ⟨exit, a, frame, outer, _, _, _, hrun⟩ := hexit
    exact (HeapOp.step_exitScope id h).of_ok hrun
  | allocate id value =>
    refine (HeapOp.allocate_spec id value h).silently.mono fun _ h' hallocate => ?_
    obtain ⟨address, _, hrun⟩ := hallocate
    exact (HeapOp.step_allocateContent (hstorable id value rfl) id h).of_ok hrun
  | retain address =>
    refine (HeapOp.retain_spec address h).silently.mono fun _ h' hretain => ?_
    obtain ⟨count, a, scope, _, _, hrun, _⟩ := hretain
    exact (HeapOp.step_reference address scope h).of_ok hrun
  | reference address scope =>
    have href : AllOrNothing _ h fun _ h' => Heap.Step storable h h' :=
      HeapOp.step_reference address scope h
    exact href.silently.mono fun _ _ ⟨_, hstep⟩ => hstep
  | release address =>
    refine (HeapOp.release_spec address h).silently.mono fun _ h' hrelease => ?_
    obtain ⟨count, a, slot, frames, given, last, harena, _, _, hunhold, hgiven, _, rfl⟩ := hrelease
    exact .release harena hunhold hgiven

theorem HeapCall.step_perform (call : HeapCall) (h : Heap) :
    AllOrNothing call.perform h fun _ h' => Heap.Step Content.IsValue h h' :=
  call.step_perform_of (fun _ v _ => ⟨v, rfl⟩) h

/-- A property that every step preserves holds at the end of every run. -/
theorem Heap.run_induction {P : Heap → Prop}
    (hstep : ∀ h h', P h → Step Content.IsValue h h' → P h') {h : Heap} (hstart : P h)
    (calls : List HeapCall) : P (run calls h) := by
  induction calls generalizing h with
  | nil => exact hstart
  | cons call calls ih =>
    exact ih ((call.step_perform h).after hstart fun _ h' hafter => hstep h h' hstart hafter)

end CapabilityArena
