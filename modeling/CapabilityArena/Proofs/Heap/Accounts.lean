import Mathlib.Algebra.BigOperators.Group.List.Basic
import Mathlib.Data.List.Nodup
import Mathlib.Data.List.Perm.Subperm
import CapabilityArena.Proofs.Heap.History

/-!
The counters of a heap, against its history. Arenas that are present and arenas that are torn down make up
all that were opened; live slots and tombstones make up all addresses that were given out in the arenas that
are present.
-/

namespace CapabilityArena

/-- Live offsets are different offsets of the table. -/
theorem Arena.CountedBy.live_size_le {a : Arena} {holds : List Address} (hcounted : a.CountedBy holds) :
    a.live.size ≤ a.slots.size := by
  have hnodup : (a.live.keys.map (·.toNat)).Nodup :=
    .map (fun _ _ heq => UInt32.toNat.inj heq) a.live.nodup_keys
  have hinside : a.live.keys.map (·.toNat) ⊆ List.range a.slots.size := by
    intro position hmem
    obtain ⟨offset, hoffset, rfl⟩ := List.mem_map.1 hmem
    obtain ⟨slot, hslot, _⟩ := (hcounted.live_iff offset).1 (Dictionary.mem_keys_iff.1 hoffset)
    exact List.mem_range.2 (Array.getElem?_eq_some_iff.1 hslot).1
  have hle := (hnodup.subperm hinside).length_le
  rwa [List.length_map, List.length_range, Dictionary.keys, List.length_map] at hle

namespace Heap

variable {h : Heap} {opened : List ArenaId} {given : List Address}

theorem countP_mem_cons {id : ArenaId} {ids : List ArenaId} (hnew : id ∉ ids)
    (addresses : List Address) : addresses.countP (·.arena ∈ id :: ids) =
      addresses.countP (·.arena = id) + addresses.countP (·.arena ∈ ids) := by
  induction addresses with
  | nil => rfl
  | cons address addresses ih =>
    simp only [List.countP_cons, List.mem_cons] at ih ⊢
    by_cases hid : address.arena = id
    · simp only [hid, hnew, decide_true, decide_false, true_or, ↓reduceIte, Bool.false_eq_true]
      omega
    · simp only [hid, decide_false, false_or, Bool.false_eq_true, ↓reduceIte]
      omega

/-- An address in one of several arenas is in exactly one of them. -/
theorem sum_countP_arena {ids : List ArenaId} (hnodup : ids.Nodup) (addresses : List Address) :
    (ids.map fun id => addresses.countP (·.arena = id)).sum = addresses.countP (·.arena ∈ ids) := by
  induction ids with
  | nil => simp
  | cons id ids ih =>
    obtain ⟨hnew, hrest⟩ := List.nodup_cons.1 hnodup
    rw [List.map_cons, List.sum_cons, ih hrest, countP_mem_cons hnew]

/-- Whether it is live or a tombstone, a slot of an arena that is present is counted once. -/
theorem Counted.slots_stats (hcounted : h.Counted) :
    h.stats.liveSlots + h.stats.tombstones = (h.arenas.values.map (·.slots.size)).sum := by
  simp only [stats, ← List.sum_eq_foldl_nat]
  rw [← List.sum_map_add]
  refine congrArg List.sum (List.map_congr_left fun a hmem => ?_)
  obtain ⟨⟨id, found⟩, hentry, rfl⟩ := List.mem_map.1 hmem
  have hle := (hcounted id found (Dictionary.mem_entries_iff.1 hentry)).2.live_size_le
  simp only
  omega

theorem Ledger.slots_eq (hledger : h.Ledger opened given) (hcounted : h.Counted) :
    h.stats.liveSlots + h.stats.tombstones = given.countP (h.hasArena ·.arena) := by
  have hsizes : h.arenas.values.map (·.slots.size) =
      h.arenas.keys.map fun id => given.countP (·.arena = id) := by
    rw [Dictionary.values, Dictionary.keys, List.map_map, List.map_map]
    refine List.map_congr_left fun entry hentry => ?_
    exact hledger.size_eq entry.1 entry.2 (Dictionary.mem_entries_iff.1 hentry)
  rw [hcounted.slots_stats, hsizes, sum_countP_arena h.arenas.nodup_keys]
  refine List.countP_congr fun address _ => ?_
  rw [decide_eq_true_iff, Dictionary.mem_keys_iff, hasArena]

theorem Ledger.arenas_eq (hledger : h.Ledger opened given) (hsound : h.Sound) :
    h.stats.arenas + h.stats.tornDown = opened.length := by
  have hconserved := hsound.conserved
  have hnext := hledger.next_eq
  simp only [stats]
  omega

end Heap

end CapabilityArena
