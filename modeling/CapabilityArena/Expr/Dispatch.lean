import CapabilityArena.Expr.Basic

/-!
Choosing one of several things by which expression holds.
-/

namespace CapabilityArena

/-- Arms in order, and what is chosen when no arm holds. -/
structure Dispatch (α : Type) where
  arms : List (Expr × α)
  default : α

namespace Dispatch

variable {α : Type}

def otherwise (default : α) : Dispatch α := ⟨[], default⟩

/-- Adds an arm after the others. -/
def when (d : Dispatch α) (e : Expr) (value : α) : Dispatch α :=
  { d with arms := d.arms ++ [(e, value)] }

/-- The first arm that holds decides. -/
def select (d : Dispatch α) (has : String → Bool) : α :=
  match d.arms.find? fun arm => arm.1.eval has with
  | some arm => arm.2
  | none => d.default

end Dispatch

end CapabilityArena
