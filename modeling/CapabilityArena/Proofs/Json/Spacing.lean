import CapabilityArena.Json.Reader
import CapabilityArena.Json.Writer

/-!
The blanks in a text. Texts of one document differ in nothing but the blanks between their tokens: `compact` has
none, `pretty` has new lines and a space behind each colon. Readers pass over all of them.
-/

namespace CapabilityArena.Json

/-- Blanks and nothing else. -/
def AllBlank (cs : List Char) : Prop := ∀ c ∈ cs, isBlank c = true

/-- The blanks that stand in front of an item, a member or a closing bracket at a level, and behind a colon. -/
structure Spacing where
  line : (level : Nat) → List Char
  gap : List Char
  line_blank : ∀ level, AllBlank (line level)
  gap_blank : AllBlank gap

namespace Spacing

/-- That of `compact`. -/
def tight : Spacing where
  line _ := []
  gap := []
  line_blank _ := List.forall_mem_nil _
  gap_blank := List.forall_mem_nil _

/-- That of `pretty`. -/
def lined : Spacing where
  line := newline
  gap := [' ']
  line_blank level := by
    intro c hc
    rcases List.mem_cons.1 hc with rfl | hspace
    · decide
    · rw [List.eq_of_mem_replicate hspace]
      decide
  gap_blank := List.forall_mem_singleton.2 (by decide)

end Spacing

mutual

/-- The text of a document with these blanks. -/
def spacedChars (spacing : Spacing) (level : Nat) : Json → List Char
  | .arr (item :: items) =>
    '[' :: spacing.line (level + 1) ++ spacedChars spacing (level + 1) item ++ spacedItems spacing level items
  | .obj ((name, value) :: members) =>
    '\x7b' :: spacing.line (level + 1) ++ stringText name ++
      ':' :: (spacing.gap ++ spacedChars spacing (level + 1) value) ++ spacedMembers spacing level members
  | j => j.compactChars

/-- The items after the first, and the closing bracket. -/
def spacedItems (spacing : Spacing) (level : Nat) : List Json → List Char
  | [] => spacing.line level ++ [']']
  | item :: items =>
    ',' :: spacing.line (level + 1) ++ spacedChars spacing (level + 1) item ++ spacedItems spacing level items

/-- The members after the first, and the closing brace. -/
def spacedMembers (spacing : Spacing) (level : Nat) : List (String × Json) → List Char
  | [] => spacing.line level ++ ['\x7d']
  | (name, value) :: members =>
    ',' :: spacing.line (level + 1) ++ stringText name ++
      ':' :: (spacing.gap ++ spacedChars spacing (level + 1) value) ++ spacedMembers spacing level members

end

mutual

theorem spacedChars_tight (level : Nat) : ∀ j, spacedChars .tight level j = compactChars j
  | .null | .bool _ | .number _ | .str _ | .unreadable | .arr [] | .obj [] => rfl
  | .arr (item :: items) => by
    rw [spacedChars, spacedChars_tight (level + 1) item, spacedItems_tight level items]
    rfl
  | .obj ((name, value) :: members) => by
    rw [spacedChars, spacedChars_tight (level + 1) value, spacedMembers_tight level members]
    rfl

theorem spacedItems_tight (level : Nat) : ∀ items, spacedItems .tight level items = compactItems items
  | [] => rfl
  | item :: items => by
    rw [spacedItems, spacedChars_tight (level + 1) item, spacedItems_tight level items]
    rfl

theorem spacedMembers_tight (level : Nat) : ∀ members, spacedMembers .tight level members = compactMembers members
  | [] => rfl
  | (name, value) :: members => by
    rw [spacedMembers, spacedChars_tight (level + 1) value, spacedMembers_tight level members]
    rfl

end

mutual

theorem spacedChars_lined (level : Nat) : ∀ j, spacedChars .lined level j = prettyChars level j
  | .null | .bool _ | .number _ | .str _ | .unreadable | .arr [] | .obj [] => rfl
  | .arr (item :: items) => by
    rw [spacedChars, spacedChars_lined (level + 1) item, spacedItems_lined level items]
    rfl
  | .obj ((name, value) :: members) => by
    rw [spacedChars, spacedChars_lined (level + 1) value, spacedMembers_lined level members]
    rfl

theorem spacedItems_lined (level : Nat) : ∀ items, spacedItems .lined level items = prettyItems level items
  | [] => rfl
  | item :: items => by
    rw [spacedItems, spacedChars_lined (level + 1) item, spacedItems_lined level items]
    rfl

theorem spacedMembers_lined (level : Nat) : ∀ members, spacedMembers .lined level members = prettyMembers level members
  | [] => rfl
  | (name, value) :: members => by
    rw [spacedMembers, spacedChars_lined (level + 1) value, spacedMembers_lined level members]
    rfl

end

end CapabilityArena.Json
