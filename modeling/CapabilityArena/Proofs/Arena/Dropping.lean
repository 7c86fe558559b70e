import Mathlib.Data.List.Dedup
import CapabilityArena.Proofs.Arena.Counting

/-!
What giving back holds does to slots. Every slot loses as many counts as it had holds; it goes with the last
of them, so a frame that is left drops what no other frame holds, each slot where it has its earliest hold.
-/

namespace CapabilityArena

/-- A slot that has given back some of its counts. With the last of them its content goes. -/
def Slot.less (s : Slot) (given : Nat) : Slot :=
  if s.count ≤ given then ⟨0, none⟩ else { s with count := s.count - given }

/-- An arena whose slots were counted by two lists of holds, and that has given back the first: every slot
    has lost as many counts as it had holds there. -/
theorem Arena.CountedBy.slots_less {now later : Arena} {given rest : List Address}
    (hnow : now.CountedBy (given ++ rest)) (hlater : later.CountedBy rest) (hfollows : later.Follows now)
    {offset : UInt32} {slot : Slot} (hslot : now.slots[offset.toNat]? = some slot) :
    given.count (now.addressAt offset) ≤ slot.count ∧
      later.slots[offset.toNat]? = some (slot.less (given.count (now.addressAt offset))) := by
  have hcount := hnow.count_eq offset slot hslot
  rw [List.count_append] at hcount
  have hinside : offset.toNat < later.slots.size :=
    hfollows.size_eq ▸ (Array.getElem?_eq_some_iff.1 hslot).1
  obtain ⟨left, hfound⟩ : ∃ left, later.slots[offset.toNat]? = some left :=
    ⟨_, Array.getElem?_eq_getElem hinside⟩
  have hleft : left.count = rest.count (now.addressAt offset) := by
    rw [hlater.count_eq offset left hfound, addressAt, addressAt, hfollows.id_eq]
  have hcontent := hlater.content_iff offset left hfound
  refine ⟨by omega, hfound.trans (congrArg some ?_)⟩
  obtain ⟨count, content⟩ := left
  simp only at hleft hcontent
  unfold Slot.less
  by_cases hlast : slot.count ≤ given.count (now.addressAt offset)
  · have hzero : count = 0 := by omega
    rw [if_pos hlast]
    subst hzero
    cases content with
    | none => rfl
    | some content => exact absurd (hcontent.1 rfl) (by omega)
  · have hsome := hcontent.2 (by omega)
    obtain ⟨kept, rfl⟩ := Option.isSome_iff_exists.1 hsome
    have hkept : now.content? (later.addressAt offset) = some kept := by
      refine hfollows.content_of _ kept ?_
      rw [content?, slot?, addressAt, Address.offset_ofParts, hfound]
      rfl
    rw [content?, slot?, addressAt, Address.offset_ofParts, hslot, Option.bind_some] at hkept
    rw [if_neg hlast, hkept]
    exact congrArg (Slot.mk · _) (by omega)

namespace Frame

/-- The place of the first hold that the frame has taken of an address. -/
def earliest (f : Frame) (address : Address) : Nat := f.heldInOrder.idxOf address

/-- Where the latest hold comes first, the last occurrence of an address is its earliest hold, and that is
    the one that stays when repetitions go. -/
theorem pairwise_dedup (held : List Address) :
    held.dedup.Pairwise fun first second => held.reverse.idxOf second < held.reverse.idxOf first := by
  induction held with
  | nil => exact List.Pairwise.nil
  | cons address held ih =>
    have hkept : ∀ query ∈ held, (address :: held).reverse.idxOf query = held.reverse.idxOf query := by
      intro query hmem
      rw [List.reverse_cons, List.idxOf_append_of_mem (List.mem_reverse.2 hmem)]
    have hrest : held.dedup.Pairwise fun first second =>
        (address :: held).reverse.idxOf second < (address :: held).reverse.idxOf first := by
      refine ih.imp_of_mem fun hfirst hsecond hlt => ?_
      rwa [hkept _ (List.mem_dedup.1 hfirst), hkept _ (List.mem_dedup.1 hsecond)]
    by_cases hmem : address ∈ held
    · rw [List.dedup_cons_of_mem hmem]
      exact hrest
    · rw [List.dedup_cons_of_notMem hmem]
      refine List.pairwise_cons.2 ⟨fun query hquery => ?_, hrest⟩
      have hheld : query ∈ held := List.mem_dedup.1 hquery
      have hbefore := List.idxOf_lt_length_of_mem (List.mem_reverse.2 hheld)
      have hnew : (address :: held).reverse.idxOf address = held.reverse.length := by
        rw [List.reverse_cons, List.idxOf_append_of_notMem (by simpa using hmem), List.idxOf_cons_self,
          Nat.add_zero]
      rw [hkept query hheld, hnew]
      exact hbefore

end Frame

namespace Arena

variable {a given : Arena} {address : Address} {last : Bool}

theorem last_iff_of_giveBack? {slot : Slot} (hslot : a.slot? address = some slot)
    (hgiven : a.giveBack? address = some (given, last)) : last = true ↔ slot.count = 1 := by
  obtain ⟨count, content⟩ := slot
  simp only [giveBack?, hslot, Option.bind_eq_bind, Option.bind_some] at hgiven
  cases count with
  | zero => cases hgiven
  | succ others =>
    cases others with
    | zero =>
      cases hgiven
      simp
    | succ others =>
      cases hgiven
      simp

namespace CountedBy

variable {holds : List Address}

/-- The count that is given back was the last exactly if nothing else holds the address. -/
theorem last_iff (hcounted : a.CountedBy (address :: holds))
    (hgiven : a.giveBack? address = some (given, last)) : last = true ↔ address ∉ holds := by
  obtain ⟨slot, hslot, hcount⟩ := hcounted.exists_slot List.mem_cons_self
  rw [List.count_cons_self] at hcount
  rw [last_iff_of_giveBack? hslot hgiven, ← List.count_eq_zero]
  omega

/-- What is dropped is what no other frame holds, each slot once, at its earliest hold. -/
theorem dropped_eq {owed rest : List Address} (hcounted : a.CountedBy (owed ++ rest)) :
    (Arena.giveBackAll owed a).2 = owed.dedup.filter (· ∉ rest) := by
  induction owed generalizing a with
  | nil => rfl
  | cons address owed ih =>
    obtain ⟨given, last, hgiven, hleft, _⟩ := CountedBy.giveBack hcounted
    have hlast : last = true ↔ address ∉ owed ++ rest := last_iff hcounted hgiven
    rw [List.mem_append, not_or] at hlast
    have hdropped := ih hleft
    simp only [Arena.giveBackAll, hgiven]
    cases last with
    | false =>
      by_cases howed : address ∈ owed
      · rw [List.dedup_cons_of_mem howed]
        exact hdropped
      · have hrest : address ∈ rest := by
          by_contra hrest
          exact Bool.false_ne_true (hlast.2 ⟨howed, hrest⟩)
        rw [List.dedup_cons_of_notMem howed, List.filter_cons_of_neg (by simpa using hrest)]
        exact hdropped
    | true =>
      obtain ⟨howed, hrest⟩ := hlast.1 rfl
      rw [List.dedup_cons_of_notMem howed, List.filter_cons_of_pos (by simpa using hrest)]
      exact congrArg (address :: ·) hdropped

end CountedBy

end Arena

end CapabilityArena
