import CapabilityArena.Realm.Basic

/-!
Running a body inside a scope of its own. However the body ends, its scope is left, together with the
scopes inside it that the body left open.
-/

namespace CapabilityArena

namespace HeapOp

/-- Leaves scopes until the given one has been left; the first of the others is the stray one. Every round
    closes a frame, so there are no more rounds than frames. -/
def exitThrough (arena : ArenaId) (scope : ScopeId) :
    (rounds : Nat) → (stray : Option ScopeId) → HeapOp (Option ScopeId)
  | 0, stray => pure stray
  | rounds + 1, stray => do
    let exit ← exitScope arena
    if exit.scope = scope then pure stray
    else exitThrough arena scope rounds (stray.or (some exit.scope))

/-- Leaves a scope and everything inside it. Nothing is left when the scope is not open any more, and a
    scope left open inside it is reported after it has been left. -/
def unwind (arena : ArenaId) (scope : ScopeId) : HeapOp Unit := do
  let a ← reading (·.arena arena)
  if a.frames.all (·.id ≠ scope) then throw (.noActiveScope arena)
  match ← exitThrough arena scope a.frames.length none with
  | some innermost => throw (.scopeMismatch arena innermost scope)
  | none => pure ()

end HeapOp

namespace RealmOp

/-- Runs an operation to its end, whatever that is. -/
def outcome {α : Type} (op : RealmOp α) : RealmOp (Except Failure α) := fun r =>
  match op r with
  | .ok a r => .ok (.ok a) r
  | .error failure r => .ok (.error failure) r

/-- Leaves the scope of a body that has ended. The failure of the body is reported before that of the
    scopes. -/
def finishScope {α : Type} (arena : ArenaId) (scope : ScopeId) (ended : Except Failure α) :
    RealmOp α := do
  let unwound ← outcome (onHeap (HeapOp.unwind arena scope))
  match ended, unwound with
  | .error failure, _ => throw failure
  | .ok _, .error failure => throw failure
  | .ok a, .ok _ => pure a

/-- Runs a body in a new scope of an arena. -/
def withScope {α : Type} (arena : ArenaId) (body : ScopeId → RealmOp α) : RealmOp α := do
  let scope ← onHeap (HeapOp.enterScope arena)
  let ended ← outcome (body scope)
  finishScope arena scope ended

end RealmOp

end CapabilityArena
