import CapabilityArena.Proofs.Heap.Bracket
import CapabilityArena.Proofs.Realm.History

/-!
A scope bracket is neutral for what was there before. Whatever is done between entering a scope and leaving
it, as long as it stays inside, the arena is as before when the scope has been left, but for tombstones.
-/

namespace CapabilityArena

/-- In a realm, entities may be made anywhere and changed where they are new or in other arenas; contexts and
    the policy are free. -/
def RealmCall.StaysInside (before : Arena) (r : Realm) : RealmCall → Prop
  | .heap call => ∀ now, r.heap.arenas.get? before.id = some now → call.StaysInside before now
  | .entity address _ => address.arena = before.id → before.slots.size ≤ address.offset.toNat
  | _ => True

/-- Each call of a sequence fails or stays inside. -/
def Realm.StaysInside (before : Arena) : List RealmCall → Realm → Prop
  | [], _ => True
  | call :: calls, r =>
    (answer? call.perform r = none ∨ call.StaysInside before r) ∧
      StaysInside before calls (after call.perform r)

namespace RealmCall

variable {r : Realm} {before : Arena} {scope : ScopeId}

theorem inBracket_perform (hin : r.heap.InBracket before scope) (hsound : r.heap.Sound)
    (call : RealmCall) (hinside : answer? call.perform r = none ∨ call.StaysInside before r) :
    (after call.perform r).heap.InBracket before scope := by
  cases call with
  | heap call =>
    rcases hinside with hfails | hinside
    · obtain ⟨failure, hrun⟩ := answer?_eq_none.1 hfails
      rw [(RealmOp.allOrNothing_onHeap (call.step_perform r.heap)).of_error hrun]
      exact hin
    · rw [RealmOp.after_perform_heap]
      exact hin.perform hsound call hinside
  | createEntity arena state concepts =>
    simp only [perform, after_silently]
    cases hanswer : answer? (RealmOp.createEntity arena state concepts) r with
    | none =>
      obtain ⟨failure, hrun⟩ := answer?_eq_none.1 hanswer
      rw [RealmOp.heap_createEntity_error hrun]
      exact hin
    | some address =>
      obtain ⟨e, h, _, _, hallocate, hdone⟩ := RealmOp.createEntity_eq_ok (answer?_eq_some.1 hanswer)
      rw [hdone]
      exact hin.allocateContent hsound hallocate
  | entity address call =>
    have hcall : AllOrNothing (call.perform address) r fun _ r' => r.TransactedAt address r' :=
      call.perform_spec hsound.counted
    rcases hinside with hfails | hnew
    · obtain ⟨failure, hrun⟩ := answer?_eq_none.1 hfails
      rw [hcall.of_error hrun]
      exact hin
    · rcases hcall.after_eq_or with hsame | ⟨_, old, new, hdone⟩
      · rw [perform, hsame]
        exact hin
      · rw [perform, hdone.realm_eq]
        exact hin.putEntity hsound.counted hdone.stored hnew new
  | enter context =>
    rw [perform, after_silently, RealmOp.heap_after_enter]
    exact hin
  | dropGuard guard => exact hin
  | setPolicy policy => exact hin

end RealmCall

namespace Realm

variable {r : Realm} {before : Arena} {scope : ScopeId}

theorem inBracket_run (hin : r.heap.InBracket before scope) (hsound : r.heap.Sound)
    {calls : List RealmCall} (hinside : r.StaysInside before calls) :
    (r.run calls).heap.InBracket before scope := by
  induction calls generalizing r with
  | nil => exact hin
  | cons call calls ih =>
    obtain ⟨hcall, hcalls⟩ := hinside
    exact ih (call.inBracket_perform hin hsound hcall) (call.sound hsound) hcalls

/-- A scope bracket is neutral for what was there before. For every arena of every realm that calls can
    reach, a scope is entered, and calls are performed that fail or stay inside. Then the frame of the scope
    is still there, right on the frames of before, and when the scopes down to it have been left, the arena
    has the same frames with the same holds, and every slot of before with the same count, the same content
    and as live as before; the slots that were added are tombstones. Counts have no upper bound here, so this
    holds of counts in words of thirty-two bits as long as no slot is held more often than such a word can count. -/
theorem bracket_neutral_of_run (registry : Registry) (maxSlots maxContexts : Nat)
    (earlier : List RealmCall) (id : ArenaId) (before : Arena) (body : List RealmCall) :
    let start := (empty registry maxSlots maxContexts).run earlier
    let entered := start.run [.heap (.enterScope id)]
    let done := entered.run body
    start.heap.arenas.get? id = some before → entered.StaysInside before body →
    ∃ scope now inside own,
      answer? (HeapOp.enterScope id) start.heap = some scope ∧
      done.heap.arenas.get? id = some now ∧ now.frames = inside ++ own :: before.frames ∧ own.id = scope ∧
      (done.run (.replicate (inside.length + 1) (.heap (.exitScope id)))).heap.arenas.get? id =
        some { before with
          slots := before.slots ++ Array.replicate (now.slots.size - before.slots.size) ⟨0, none⟩ } := by
  intro start entered done hbefore hinside
  have hstart : start.heap.Sound := sound_run (Heap.sound_empty maxSlots) earlier
  have hentered : entered.heap.Sound := sound_run hstart [.heap (.enterScope id)]
  have hdone : done.heap.Sound := sound_run hentered body
  obtain ⟨hid, hcountedBefore⟩ := hstart.counted id before hbefore
  have hin : entered.heap.InBracket before ⟨start.heap.nextScope⟩ := by
    change (after (RealmCall.perform (.heap (.enterScope id))) start).heap.InBracket _ _
    rw [RealmOp.after_perform_heap]
    exact Heap.inBracket_enter hstart.counted hbefore
  obtain ⟨⟨now, hnow, inside, own, hframes, hown⟩, hcovered⟩ := inBracket_run hin hentered hinside
  have hcovers := hcovered now hnow
  rw [hid] at hnow
  -- Leaving the scopes inside and then the scope itself uncovers the frames of before.
  have hsplit : now.frames = (inside ++ [own]) ++ before.frames := by rw [hframes, List.append_cons]
  obtain ⟨later, hlater, hlaterFrames, hfollows⟩ :=
    Heap.leave hdone hnow hsplit (hstart.framed id before hbefore)
  rw [List.length_append, List.length_singleton] at hlater
  have hleft : (done.run (.replicate (inside.length + 1) (.heap (.exitScope id)))).heap =
      done.heap.run (.replicate (inside.length + 1) (.exitScope id)) := by
    rw [← List.map_replicate, RealmOp.run_heap]
  have hcountedLater := (hdone.run (.replicate (inside.length + 1) (.exitScope id))).counted id later hlater
  have hcontinues : later.Continues (fun _ => False) now := hfollows.continues
  have hsame := (hcovers.continues hcontinues).eq_of_frames_eq hcountedLater.2 hcountedBefore
    (hcountedLater.1.trans hid.symm) hlaterFrames
  refine ⟨⟨start.heap.nextScope⟩, now, inside, own, ?_, hnow, hframes, hown, ?_⟩
  · rw [answer?, HeapOp.run_enterScope hbefore]
  · rw [hleft, hlater, ← hfollows.size_eq, ← hsame]

/-- A value in the root scope of each of two arenas. -/
def shared : List RealmCall :=
  [.heap .createArena, .heap (.allocate ⟨1⟩ (.int 7)), .heap .createArena, .heap (.allocate ⟨2⟩ .null)]

/-- The value is retained by the scope, referred to once more from a scope inside and released; something is
    added inside, the root scope is asked for in vain, and the value of the other arena goes. -/
def borrowing : List RealmCall :=
  [.heap (.retain (.ofParts ⟨1⟩ 0)), .heap (.enterScope ⟨1⟩), .heap (.allocate ⟨1⟩ (.int 8)),
    .heap (.reference (.ofParts ⟨1⟩ 0) ⟨3⟩), .heap (.exitScopeChecked ⟨1⟩ ⟨1⟩),
    .heap (.release (.ofParts ⟨1⟩ 0)), .heap (.release (.ofParts ⟨2⟩ 0))]

/-- The first arena before. -/
def lender : Arena :=
  ⟨⟨1⟩, #[⟨1, some (.value (.int 7))⟩], .ofList [0], [⟨⟨1⟩, [.ofParts ⟨1⟩ 0]⟩]⟩

/-- The first arena with both scopes open. -/
def lent (count : Nat) (held : List Address) : Arena where
  id := ⟨1⟩
  slots := #[⟨count, some (.value (.int 7))⟩, ⟨1, some (.value (.int 8))⟩]
  live := .ofList [0, 1]
  frames := [⟨⟨4⟩, [.ofParts ⟨1⟩ 1]⟩, ⟨⟨3⟩, held⟩, ⟨⟨1⟩, [.ofParts ⟨1⟩ 0]⟩]

/-- The scope has just been entered. -/
def entered : Realm := ((empty .empty 8 8).run shared).run [.heap (.enterScope ⟨1⟩)]

theorem bracket_neutral_borrowing :
    ((empty .empty 8 8).run shared).heap.arenas.get? ⟨1⟩ = some lender ∧
    entered.StaysInside lender borrowing ∧
    ((entered.run borrowing).run [.heap (.exitScope ⟨1⟩), .heap (.exitScope ⟨1⟩)]).heap.arenas.get? ⟨1⟩ =
      some { lender with slots := lender.slots ++ #[⟨0, none⟩] } := by
  have hreference : (entered.run (borrowing.take 3)).heap.arenas.get? ⟨1⟩ =
      some (lent 2 [.ofParts ⟨1⟩ 0]) := rfl
  have hrelease : (entered.run (borrowing.take 5)).heap.arenas.get? ⟨1⟩ =
      some (lent 3 [.ofParts ⟨1⟩ 0, .ofParts ⟨1⟩ 0]) := rfl
  have hdone : (entered.run borrowing).heap.arenas.get? ⟨1⟩ = some (lent 2 [.ofParts ⟨1⟩ 0]) := rfl
  have hinside : entered.StaysInside lender borrowing := by
    refine ⟨.inr fun _ _ => trivial, .inr fun _ _ => trivial, .inr fun _ _ => trivial,
      .inr fun now hnow _ => ?_, .inl rfl, .inr fun now hnow _ => ?_, .inr fun _ _ hsame => ?_, trivial⟩
    · cases hnow.symm.trans hreference
      exact ⟨⟨⟨3⟩, [.ofParts ⟨1⟩ 0]⟩, .tail _ (.head _), rfl⟩
    · cases hnow.symm.trans hrelease
      exact ⟨⟨⟨3⟩, [.ofParts ⟨1⟩ 0, .ofParts ⟨1⟩ 0]⟩, .tail _ (.head _), .head _⟩
    · exact absurd hsame (by decide)
  obtain ⟨scope, now, inside, own, _, hnow, hframes, _, hleft⟩ :=
    bracket_neutral_of_run .empty 8 8 shared ⟨1⟩ lender borrowing rfl hinside
  cases hnow.symm.trans hdone
  have hlength : inside.length = 1 := by
    have hcount := congrArg List.length hframes
    rw [List.length_append] at hcount
    exact Nat.add_right_cancel hcount.symm
  rw [hlength] at hleft
  exact ⟨rfl, hinside, hleft⟩

end Realm

end CapabilityArena
