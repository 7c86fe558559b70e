/-!
A class of characters given by the code points it spans. The tables of this library list their ranges
in increasing order and without overlap, so a table can be compared with the standard line by line.
-/

namespace CapabilityArena.Text

/-- The character lies in one of the ranges; both ends of a range belong to it. -/
def inRanges (ranges : List (Nat × Nat)) (c : Char) : Bool :=
  ranges.any fun range => decide (range.1 ≤ c.toNat) && decide (c.toNat ≤ range.2)

/-- Membership spelled out: some range of the table holds the code point. -/
theorem inRanges_iff {ranges : List (Nat × Nat)} {c : Char} :
    inRanges ranges c = true ↔ ∃ range ∈ ranges, range.1 ≤ c.toNat ∧ c.toNat ≤ range.2 := by
  simp [inRanges]

end CapabilityArena.Text
