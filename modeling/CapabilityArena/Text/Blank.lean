import CapabilityArena.Text.Ranges

/-!
Blanks: the Unicode property White_Space, twenty-five characters.
-/

namespace CapabilityArena.Text

/-- The blanks of the standard. -/
def blankRanges : List (Nat × Nat) :=
  [(0x9, 0xd), (0x20, 0x20), (0x85, 0x85), (0xa0, 0xa0), (0x1680, 0x1680), (0x2000, 0x200a),
   (0x2028, 0x2029), (0x202f, 0x202f), (0x205f, 0x205f), (0x3000, 0x3000)]

def isBlank (c : Char) : Bool := inRanges blankRanges c

/-- Every blank of the core library is a blank here; the table only adds to them. -/
theorem isBlank_of_isWhitespace {c : Char} (hspace : c.isWhitespace = true) : isBlank c = true := by
  simp only [Char.isWhitespace, Bool.or_eq_true, decide_eq_true_eq] at hspace
  rcases hspace with ((rfl | rfl) | rfl) | rfl <;> decide

end CapabilityArena.Text
