/-!
Addresses of slots. An address is one word of sixty-four bits: the arena in the upper half, the offset of
the slot in the lower. Arenas and addresses are ordered by their numbers.
-/

namespace CapabilityArena

/-- An arena. Numbers are issued in order and never again, so the number of an arena that is gone
    stays meaningless. -/
structure ArenaId where
  number : UInt32
  deriving DecidableEq

namespace ArenaId

def text (a : ArenaId) : String := "arena:" ++ toString a.number.toNat

instance : Ord ArenaId where
  compare a b := compare a.number b.number

theorem compare_eq (a b : ArenaId) : compare a b = compare a.number b.number := rfl

instance : Std.TransOrd ArenaId where
  eq_swap {a b} := by
    rw [compare_eq, compare_eq]
    exact Std.OrientedCmp.eq_swap
  isLE_trans {a b c} := by
    rw [compare_eq, compare_eq, compare_eq]
    exact Std.TransCmp.isLE_trans

instance : Std.LawfulEqOrd ArenaId where
  compare_self {a} := by
    rw [compare_eq]
    exact Std.ReflCmp.compare_self
  eq_of_compare {a b} hcompare := by
    rw [compare_eq] at hcompare
    cases a
    cases b
    exact congrArg ArenaId.mk (Std.compare_eq_iff_eq.1 hcompare)

end ArenaId

structure Address where
  raw : UInt64
  deriving DecidableEq

namespace Address

def ofParts (arena : ArenaId) (offset : UInt32) : Address :=
  ⟨(arena.number.toUInt64 <<< 32) ||| offset.toUInt64⟩

def arena (a : Address) : ArenaId := ⟨(a.raw >>> 32).toUInt32⟩

/-- The position of the slot in the table of its arena. -/
def offset (a : Address) : UInt32 := (a.raw &&& 0xffffffff).toUInt32

def text (a : Address) : String :=
  "@" ++ toString a.arena.number.toNat ++ ":" ++ toString a.offset.toNat

end Address

end CapabilityArena
