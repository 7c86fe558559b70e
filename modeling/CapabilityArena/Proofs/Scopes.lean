import Mathlib.Logic.Function.Basic
import CapabilityArena.Proofs.Arena.Bracket
import CapabilityArena.Proofs.Realm.History

/-!
Which scopes are open. Seen through its scopes a heap is a stack of numbers for each arena, and there are only
two things that a call can do to one of them: put a number on it that was never used before, or take the
innermost number away (`Scoping`). So a number belongs to one frame of one arena, for good.
-/

namespace CapabilityArena

/-- Exchanging a frame for one of the same scope leaves the scopes as they are. -/
theorem Arena.ids_of_changeFirst {kind : Frame → Prop} [DecidablePred kind] {change : Frame → Frame}
    {frames changed : List Frame} (hchanged : changeFirst kind change frames = some changed)
    (hid : ∀ frame, (change frame).id = frame.id) : changed.map (·.id) = frames.map (·.id) := by
  induction frames generalizing changed with
  | nil => cases hchanged
  | cons frame outer ih =>
    rw [changeFirst] at hchanged
    by_cases hkind : kind frame
    · rw [if_pos hkind] at hchanged
      cases hchanged
      rw [List.map_cons, List.map_cons, hid]
    · rw [if_neg hkind] at hchanged
      obtain ⟨rest, hrest, rfl⟩ := Option.map_eq_some_iff.1 hchanged
      rw [List.map_cons, List.map_cons, ih hrest]

theorem Arena.exists_of_changeFirst {kind : Frame → Prop} [DecidablePred kind] {change : Frame → Frame}
    {frames changed : List Frame} (hchanged : changeFirst kind change frames = some changed) :
    ∃ frame ∈ frames, kind frame := by
  induction frames generalizing changed with
  | nil => cases hchanged
  | cons frame outer ih =>
    by_cases hkind : kind frame
    · exact ⟨frame, List.mem_cons_self, hkind⟩
    · rw [changeFirst, if_neg hkind] at hchanged
      obtain ⟨rest, hrest, _⟩ := Option.map_eq_some_iff.1 hchanged
      obtain ⟨found, hfound, hkind⟩ := ih hrest
      exact ⟨found, List.mem_cons_of_mem _ hfound, hkind⟩

namespace Heap

/-- The scopes that are open in an arena, the innermost first. -/
def scopes (h : Heap) (id : ArenaId) : List ScopeId :=
  (h.arenas.get? id).elim [] fun a => a.frames.map (·.id)

/-- What can become of the scopes: they stay, one is entered under the next number, or the innermost of an
    arena is left. -/
inductive Scoping (h h' : Heap) : Prop where
  | keep (hscopes : h'.scopes = h.scopes) (hnext : h'.nextScope = h.nextScope)
  | enter (id : ArenaId)
    (hscopes : h'.scopes = Function.update h.scopes id (⟨h.nextScope⟩ :: h.scopes id))
    (hnext : h'.nextScope = h.nextScope + 1)
  | leave (id : ArenaId) (hscopes : h'.scopes = Function.update h.scopes id (h.scopes id).tail)
    (hnext : h'.nextScope = h.nextScope)

/-- A number that has been given out and belongs to no arena but this. -/
def BelongsTo (h : Heap) (scope : ScopeId) (id : ArenaId) : Prop :=
  scope.number < h.nextScope ∧ ∀ other, scope ∈ h.scopes other → other = id

/-- No two open scopes have the same number. -/
structure ScopesApart (h : Heap) : Prop where
  nodup : ∀ id, (h.scopes id).Nodup
  belongsTo : ∀ id, ∀ scope ∈ h.scopes id, h.BelongsTo scope id

/-- A number that has been given out, and not to the outermost scope of this arena. -/
def StandsInside (h : Heap) (scope : ScopeId) (id : ArenaId) : Prop :=
  scope.number < h.nextScope ∧ (h.scopes id).getLast? ≠ some scope

variable {h h' : Heap} {id : ArenaId} {a : Arena} {scope : ScopeId} {storable : Content → Prop}

theorem scopes_eq (harena : h.arenas.get? id = some a) : h.scopes id = a.frames.map (·.id) := by
  rw [scopes, harena, Option.elim_some]

/-- No open scope has the number that comes next. -/
theorem ScopesApart.fresh (hapart : h.ScopesApart) (id : ArenaId) : ⟨h.nextScope⟩ ∉ h.scopes id :=
  fun hmem => Nat.lt_irrefl _ (hapart.belongsTo id _ hmem).1

/-- Of the frames of an arena, none has the scope of another. -/
theorem ScopesApart.apart_of_frames {frame : Frame} {inner outer : List Frame} (hapart : h.ScopesApart)
    (harena : h.arenas.get? id = some a) (hframes : a.frames = inner ++ frame :: outer) :
    (∀ inside ∈ inner, inside.id ≠ frame.id) ∧ frame.id ∉ outer.map (·.id) := by
  have hnodup := hapart.nodup id
  rw [scopes_eq harena, hframes, List.map_append, List.map_cons, List.nodup_append, List.nodup_cons] at hnodup
  obtain ⟨_, ⟨houter, _⟩, hdisjoint⟩ := hnodup
  exact ⟨fun inside hmem => hdisjoint _ (List.mem_map_of_mem hmem) _ List.mem_cons_self, houter⟩

theorem scopes_setArena (h : Heap) (a : Arena) :
    (h.setArena a).scopes = Function.update h.scopes a.id (a.frames.map (·.id)) := by
  funext id
  rw [scopes, get?_setArena]
  by_cases hid : id = a.id
  · rw [if_pos hid, hid, Function.update_self, Option.elim_some]
  · rw [if_neg hid, Function.update_of_ne hid, scopes]

theorem scopes_retire (h : Heap) (id : ArenaId) :
    (h.retire id).scopes = Function.update h.scopes id [] := by
  funext other
  rw [scopes, retire]
  by_cases hid : other = id
  · rw [hid, Function.update_self, Dictionary.get?_erase_self, Option.elim_none]
  · rw [Function.update_of_ne hid, Dictionary.get?_erase_of_ne _ hid, scopes]

theorem scopes_setArena_of_ids {now : Arena} (harena : h.arenas.get? now.id = some a)
    (hids : now.frames.map (·.id) = a.frames.map (·.id)) : (h.setArena now).scopes = h.scopes := by
  rw [scopes_setArena, hids, ← scopes_eq harena, Function.update_eq_self]

theorem Step.scoping (hstep : Step storable h h') (hsound : h.Sound) : h.Scoping h' := by
  have hcounted := hsound.counted
  cases hstep with
  | create _ =>
    have hnone : h.scopes ⟨h.nextArena⟩ = [] := by rw [scopes, hsound.get?_nextArena, Option.elim_none]
    refine .enter ⟨h.nextArena⟩ ?_ rfl
    rw [hnone]
    exact scopes_setArena h (.opened ⟨h.nextArena⟩ ⟨h.nextScope⟩)
  | @enter id a harena =>
    obtain ⟨rfl, _⟩ := hcounted id a harena
    refine .enter a.id ?_ rfl
    rw [scopes_eq harena]
    exact scopes_setArena h { a with frames := ⟨⟨h.nextScope⟩, []⟩ :: a.frames }
  | @exit id a frame outer harena hframes =>
    obtain ⟨hid, hgivenFrames, _⟩ := hcounted.giveBackAll harena hframes
    have htail : (h.scopes id).tail = outer.map (·.id) := by
      rw [scopes_eq harena, hframes, List.map_cons, List.tail_cons]
    rw [hcounted.withoutSpent_exit harena hframes]
    refine .leave id ?_ ?_
    · rw [htail]
      by_cases hlast : outer = []
      · rw [if_pos hlast, scopes_retire, hlast, List.map_nil]
      · rw [if_neg hlast, scopes_setArena, hid, hgivenFrames]
    · split <;> rfl
  | @allocate id a frame outer address content harena hframes _ _ _ =>
    obtain ⟨rfl, _⟩ := hcounted id a harena
    refine .keep (scopes_setArena_of_ids harena ?_) rfl
    rw [hframes]
    rfl
  | @refer address target a slot frames harena _ _ hhold =>
    have hid := (hcounted _ a harena).1
    rw [Arena.holdIn?_eq] at hhold
    rw [← hid] at harena
    exact .keep (scopes_setArena_of_ids harena (Arena.ids_of_changeFirst hhold fun _ => rfl)) rfl
  | @release address a given frames last harena hunhold hgiven =>
    obtain ⟨hid, _, _⟩ := hcounted.giveBack_release harena hunhold hgiven
    rw [hcounted.withoutSpent_release harena hunhold hgiven, ite_self]
    rw [Arena.unholdInnermost?_eq] at hunhold
    rw [← hid] at harena
    refine .keep (scopes_setArena_of_ids harena ?_) rfl
    rw [Arena.frames_of_giveBack? hgiven]
    exact Arena.ids_of_changeFirst hunhold fun _ => rfl

theorem Logged.scoping {id? : Option ArenaId} {address? : Option Address}
    (hlogged : h.Logged h' id? address?) (hsound : h.Sound) : h.Scoping h' := by
  rcases hlogged.turn with rfl | ⟨_, hstep⟩ | ⟨address, _, after, hstored, rfl⟩
  · exact .keep rfl rfl
  · exact hstep.scoping hsound
  · obtain ⟨a, slot, harena, hslot, _⟩ := exists_slot_of_content hstored
    have hid := (hsound.counted _ a harena).1
    rw [putEntity_eq harena hslot]
    rw [← hid] at harena
    exact .keep (scopes_setArena_of_ids harena rfl) rfl

namespace Scoping

theorem nextScope_le (hscoping : h.Scoping h') : h.nextScope ≤ h'.nextScope := by
  cases hscoping with
  | keep _ hnext => omega
  | enter _ _ hnext => omega
  | leave _ _ hnext => omega

/-- A scope that is open was open before in the same arena, or it has just been entered there. -/
theorem mem_scopes (hscoping : h.Scoping h') (hmem : scope ∈ h'.scopes id) :
    scope ∈ h.scopes id ∨ (scope = ⟨h.nextScope⟩ ∧ h'.nextScope = h.nextScope + 1 ∧
      h'.scopes = Function.update h.scopes id (scope :: h.scopes id)) := by
  cases hscoping with
  | keep hscopes _ => exact .inl (hscopes ▸ hmem)
  | enter entered hscopes hnext =>
    rw [hscopes] at hmem
    by_cases hid : id = entered
    · subst hid
      rw [Function.update_self, List.mem_cons] at hmem
      rcases hmem with rfl | hold
      · exact .inr ⟨rfl, hnext, hscopes⟩
      · exact .inl hold
    · rw [Function.update_of_ne hid] at hmem
      exact .inl hmem
  | leave left hscopes _ =>
    rw [hscopes] at hmem
    by_cases hid : id = left
    · rw [hid, Function.update_self] at hmem
      exact .inl (hid ▸ List.mem_of_mem_tail hmem)
    · rw [Function.update_of_ne hid] at hmem
      exact .inl hmem

theorem belongsTo (hscoping : h.Scoping h') (hbelongs : h.BelongsTo scope id) : h'.BelongsTo scope id := by
  obtain ⟨hbelow, honly⟩ := hbelongs
  refine ⟨Nat.lt_of_lt_of_le hbelow hscoping.nextScope_le, fun other hmem => ?_⟩
  rcases hscoping.mem_scopes hmem with hold | ⟨rfl, _⟩
  · exact honly other hold
  · exact absurd hbelow (Nat.lt_irrefl _)

/-- The outermost scope of an arena has been there from the start, so no scope becomes the outermost. -/
theorem standsInside (hscoping : h.Scoping h') (hinside : h.StandsInside scope id) :
    h'.StandsInside scope id := by
  obtain ⟨hbelow, hlast⟩ := hinside
  refine ⟨Nat.lt_of_lt_of_le hbelow hscoping.nextScope_le, ?_⟩
  have hnew : (⟨h.nextScope⟩ : ScopeId) ≠ scope := by
    rintro rfl
    exact Nat.lt_irrefl _ hbelow
  cases hscoping with
  | keep hscopes _ => rwa [hscopes]
  | enter entered hscopes _ =>
    rw [hscopes]
    by_cases hid : id = entered
    · subst hid
      rw [Function.update_self, List.getLast?_cons]
      cases hlist : (h.scopes id).getLast? with
      | none => simpa using hnew
      | some outermost =>
        rw [hlist] at hlast
        exact hlast
    · rwa [Function.update_of_ne hid]
  | leave left hscopes _ =>
    rw [hscopes]
    by_cases hid : id = left
    · subst hid
      rw [Function.update_self, List.getLast?_tail]
      split
      · exact nofun
      · exact hlast
    · rwa [Function.update_of_ne hid]

theorem scopesApart (hscoping : h.Scoping h') (hapart : h.ScopesApart) : h'.ScopesApart where
  nodup := by
    intro id
    cases hscoping with
    | keep hscopes _ => exact hscopes ▸ hapart.nodup id
    | enter entered hscopes _ =>
      rw [hscopes]
      by_cases hid : id = entered
      · subst hid
        rw [Function.update_self, List.nodup_cons]
        exact ⟨hapart.fresh id, hapart.nodup id⟩
      · rw [Function.update_of_ne hid]
        exact hapart.nodup id
    | leave left hscopes _ =>
      rw [hscopes]
      by_cases hid : id = left
      · subst hid
        rw [Function.update_self]
        exact (hapart.nodup id).sublist (List.tail_sublist _)
      · rw [Function.update_of_ne hid]
        exact hapart.nodup id
  belongsTo := by
    intro id scope hmem
    rcases hscoping.mem_scopes hmem with hold | ⟨rfl, hnext, hscopes⟩
    · exact hscoping.belongsTo (hapart.belongsTo id scope hold)
    · refine ⟨by rw [hnext]; exact Nat.lt_succ_self _, fun other hother => ?_⟩
      by_contra hne
      rw [hscopes, Function.update_of_ne hne] at hother
      exact hapart.fresh other hother

end Scoping

theorem scopesApart_empty (maxSlots : Nat) : (empty maxSlots).ScopesApart :=
  ⟨fun id => by simp [scopes, empty], fun id scope hmem => by simp [scopes, empty] at hmem⟩

end Heap

namespace Realm

variable {r : Realm} {scope : ScopeId} {id : ArenaId}

theorem scopesApart_run (hsound : r.heap.Sound) (hapart : r.heap.ScopesApart) (calls : List RealmCall) :
    (r.run calls).heap.ScopesApart :=
  keeps_run (fun _ _ _ _ hsound hapart hlogged => (hlogged.scoping hsound).scopesApart hapart) hsound
    hapart calls

theorem belongsTo_run (hsound : r.heap.Sound) (hbelongs : r.heap.BelongsTo scope id)
    (calls : List RealmCall) : (r.run calls).heap.BelongsTo scope id :=
  keeps_run (P := (·.BelongsTo scope id))
    (fun _ _ _ _ hsound hbelongs hlogged => (hlogged.scoping hsound).belongsTo hbelongs) hsound
    hbelongs calls

theorem standsInside_run (hsound : r.heap.Sound) (hinside : r.heap.StandsInside scope id)
    (calls : List RealmCall) : (r.run calls).heap.StandsInside scope id :=
  keeps_run (P := (·.StandsInside scope id))
    (fun _ _ _ _ hsound hinside hlogged => (hlogged.scoping hsound).standsInside hinside) hsound
    hinside calls

end Realm

end CapabilityArena
