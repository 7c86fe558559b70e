import Mathlib.Data.List.Dedup
import Mathlib.Data.List.Sort
import Mathlib.Data.String.Basic
import CapabilityArena.CommandLine
import CapabilityArena.Proofs.Json.RoundTrip
import CapabilityArena.Proofs.Manifest.Translation

/-!
What is printed about a manifest. `check` counts its entries of each kind. `describe` prints a document with one
object for every entry and no others, kind by kind and in the order of names, and each says what the entry says.
-/

namespace CapabilityArena

namespace Manifest

/-- Every name once, in increasing order. -/
def inOrder (names : List String) : List String := names.dedup.insertionSort (· ≤ ·)

def nameOrNull : Option String → Json
  | none => .null
  | some name => .str name

def shapeWord : Shape → String
  | .any => "any"
  | .null => "null"
  | .bool => "bool"
  | .int => "int"
  | .float => "float"
  | .str => "str"
  | .list => "list"
  | .map => "map"
  | .address => "address"
  | .weak => "weak"

/-- What is said about a concept or a modifier, which has no methods. -/
def capabilitySummary (name kind : String) (shapes : List (String × Shape)) (machine : Option String) : Json :=
  .obj [
    ("name", .str name),
    ("kind", .str kind),
    ("shape", .obj (shapes.map fun (key, shape) => (key, .str (shapeWord shape)))),
    ("methods", .arr []),
    ("state_machine", nameOrNull machine)]

def conceptSummary (entry : ConceptEntry) : Json :=
  capabilitySummary entry.name "concept" entry.expects.entries entry.machine

def modifierSummary (entry : ModifierEntry) : Json :=
  capabilitySummary entry.name "modifier"
    (entry.declares.entries.map fun (key, declared) => (key, declared.shape)) entry.machine

def groupSummary (group : Group) : Json :=
  .obj [("name", .str group.name), ("members", .arr (group.members.map .str))]

/-- Every state is there with its targets, also one without. -/
def machineSummary (entry : MachineEntry) : Json :=
  .obj [
    ("name", .str entry.name),
    ("states", .arr (entry.states.map .str)),
    ("transitions", .obj ((inOrder entry.states).map fun state =>
      (state, .arr ((inOrder (entry.targets state)).map .str)))),
    ("state_key", nameOrNull entry.stateKey)]

def summary (m : Manifest) : Json :=
  .obj [
    ("concepts", .arr (m.concepts.map conceptSummary)),
    ("modifiers", .arr (m.modifiers.map modifierSummary)),
    ("groups", .arr (m.groups.map groupSummary)),
    ("state_machines", .arr (m.machines.map machineSummary))]

def counts (m : Manifest) : Command.Counts :=
  ⟨m.concepts.length, m.modifiers.length, m.groups.length, m.machines.length⟩

/-- The line that `check` prints. -/
def countsLine (m : Manifest) : String :=
  "Manifest OK: " ++ toString m.concepts.length ++ " concepts, " ++ toString m.modifiers.length ++
    " modifiers, " ++ toString m.groups.length ++ " groups, " ++ toString m.machines.length ++ " state machines"

/-- And what it prints instead where JSON is asked for. -/
def countsObject (m : Manifest) : String :=
  "\x7b\n  \x22valid\x22: true,\n  \x22concepts\x22: " ++ toString m.concepts.length ++
    ",\n  \x22modifiers\x22: " ++ toString m.modifiers.length ++
    ",\n  \x22groups\x22: " ++ toString m.groups.length ++
    ",\n  \x22state_machines\x22: " ++ toString m.machines.length ++ "\n\x7d"

/-! ### Names in order -/

variable {names : List String} {name : String}

theorem mem_inOrder : name ∈ inOrder names ↔ name ∈ names := by
  rw [inOrder, List.mem_insertionSort, List.mem_dedup]

theorem sortedLT_inOrder (names : List String) : (inOrder names).SortedLT := by
  apply List.sortedLE_insertionSort.sortedLT_of_nodup
  exact (List.perm_insertionSort _ _).nodup_iff.2 names.nodup_dedup

theorem toList_ofList (names : List String) : (KeySet.ofList names).toList = inOrder names := by
  have hkeys : (KeySet.ofList names).toList.SortedLT := (KeySet.ofList names).pairwise_keys.sortedLT
  apply hkeys.eq_of_mem_iff (sortedLT_inOrder names)
  intro name
  rw [mem_inOrder, KeySet.toList, Dictionary.mem_keys_iff, KeySet.contains_ofList]

/-- A dictionary that says of each name what is given for it has the names for keys, in order. -/
theorem entries_eq_of_get? {ν : Type} {d : Dictionary String ν} {given : String → ν}
    (hd : ∀ name, d.get? name = if name ∈ names then some (given name) else none) :
    d.entries = (inOrder names).map fun name => (name, given name) := by
  have hsame : d = .ofList ((inOrder names).map fun name => (name, given name)) := by
    apply Dictionary.ext_get?
    intro name
    rw [hd, Dictionary.get?_ofList_map]
    simp only [mem_inOrder]
  rw [hsame]
  apply Dictionary.entries_ofList
  exact List.pairwise_map.2 ((sortedLT_inOrder names).pairwise.imp compareOfLessAndEq_eq_lt.2)

/-! ### Entries -/

theorem text_eq_shapeWord (shape : Shape) : shape.text = shapeWord shape := by
  cases shape <;> rfl

theorem ofOption_eq_nameOrNull (name : Option String) : Json.ofOption .str name = nameOrNull name := by
  cases name <;> rfl

end Manifest

open Manifest

theorem MachineEntry.Translates.summary_eq {entry : MachineEntry} {m : Machine} (hm : entry.Translates m) :
    m.summary = machineSummary entry := by
  rw [Machine.summary, hm.name_eq, hm.states_eq, hm.stateKey_eq, entries_eq_of_get? hm.transitions_eq,
    List.map_map, ofOption_eq_nameOrNull]
  simp only [Function.comp_def, toList_ofList]
  rfl

theorem ConceptEntry.Translates.summary_eq {entry : ConceptEntry} {c : Concept} (hc : entry.Translates c) :
    (Capability.concept c).summary = conceptSummary entry := by
  simp only [Capability.summary, Capability.name, Capability.shapes, Capability.methods, Capability.machine,
    hc.name_eq, hc.expects_eq, hc.methods_eq, hc.machine_eq, FieldShapes.toJson, text_eq_shapeWord,
    ofOption_eq_nameOrNull]
  rfl

theorem ModifierEntry.Translates.summary_eq {entry : ModifierEntry} {m : Modifier} (hm : entry.Translates m) :
    (Capability.modifier m).summary = modifierSummary entry := by
  have hshapes : m.declares = entry.shapes :=
    Dictionary.ext_get? fun key => (hm.declares_eq key).trans (entry.get?_shapes key).symm
  have hentries : entry.shapes.entries = entry.declares.entries.map fun (key, declared) => (key, declared.shape) :=
    Dictionary.entries_ofList (List.pairwise_map.2 entry.declares.sorted)
  simp only [Capability.summary, Capability.name, Capability.shapes, Capability.methods, Capability.machine,
    hm.name_eq, hm.methods_eq, hm.machine_eq, FieldShapes.toJson, hshapes, hentries, text_eq_shapeWord,
    ofOption_eq_nameOrNull]
  rfl

theorem Dictionary.Defines.ofList_values_eq {ε δ : Type} {d : Dictionary String δ} {entryName : ε → String}
    {translates : ε → δ → Prop} {entries : List ε} (hdefines : d.Defines entryName translates entries)
    {describe : δ → Json} {summary : ε → Json}
    (hsame : ∀ entry definition, translates entry definition → describe definition = summary entry) :
    Json.ofList describe d.values = .arr (entries.map summary) :=
  congrArg Json.arr (map_eq_of_forall₂ hdefines.values hsame)

namespace Registry.Translates

variable {r : Registry} {m : Manifest}

theorem counts_eq (hr : r.Translates m) : Command.counts r = m.counts := by
  rw [Command.counts, hr.concepts.size_eq, hr.modifiers.size_eq, hr.groups.size_eq, hr.machines.size_eq, counts]

theorem summary_eq (hr : r.Translates m) : r.summary = m.summary := by
  have hgroup : ∀ group : Group, group.summary = groupSummary group := fun _ => rfl
  rw [Registry.summary, hr.concepts.ofList_values_eq fun _ _ hc => hc.summary_eq,
    hr.modifiers.ofList_values_eq fun _ _ hm => hm.summary_eq,
    hr.groups.ofList_values_eq fun group _ hg => (congrArg Group.summary hg.symm).trans (hgroup group),
    hr.machines.ofList_values_eq fun _ _ hm => hm.summary_eq, Manifest.summary]

end Registry.Translates

namespace Manifest

variable {m ordered : Manifest} {r : Registry}

theorem Rearranges.counts_eq (hordered : ordered.Rearranges m) : ordered.counts = m.counts := by
  rw [counts, counts, hordered.concepts.length_eq, hordered.modifiers.length_eq, hordered.groups.length_eq,
    hordered.machines.length_eq]

/-! ### Texts -/

theorem written_nameOrNull (name : Option String) : (nameOrNull name).Written := by
  cases name with
  | none => exact .null
  | some name => exact .str name

theorem written_capabilitySummary (name kind : String) (shapes : List (String × Shape)) (machine : Option String) :
    (capabilitySummary name kind shapes machine).Written := by
  have hshapes : (Json.obj (shapes.map fun (key, shape) => (key, .str (shapeWord shape)))).Written :=
    .obj (List.forall_mem_map.2 fun _ _ => .str _)
  have hmachine := written_nameOrNull machine
  apply Json.Written.obj
  simp [Json.Written.str, Json.Written.arr, hshapes, hmachine]

theorem written_groupSummary (group : Group) : (groupSummary group).Written := by
  have hmembers := Json.written_strs group.members
  apply Json.Written.obj
  simp [Json.Written.str, hmembers]

theorem written_machineSummary (entry : MachineEntry) : (machineSummary entry).Written := by
  have hstates := Json.written_strs entry.states
  have hmoves : (Json.obj ((inOrder entry.states).map fun state =>
      (state, .arr ((inOrder (entry.targets state)).map .str)))).Written :=
    .obj (List.forall_mem_map.2 fun state _ => Json.written_strs (inOrder (entry.targets state)))
  have hkey := written_nameOrNull entry.stateKey
  apply Json.Written.obj
  simp [Json.Written.str, hstates, hmoves, hkey]

theorem written_summary (m : Manifest) : m.summary.Written := by
  have hconcepts : (Json.arr (m.concepts.map conceptSummary)).Written :=
    .arr (List.forall_mem_map.2 fun _ _ => written_capabilitySummary ..)
  have hmodifiers : (Json.arr (m.modifiers.map modifierSummary)).Written :=
    .arr (List.forall_mem_map.2 fun _ _ => written_capabilitySummary ..)
  have hgroups : (Json.arr (m.groups.map groupSummary)).Written :=
    .arr (List.forall_mem_map.2 fun group _ => written_groupSummary group)
  have hmachines : (Json.arr (m.machines.map machineSummary)).Written :=
    .arr (List.forall_mem_map.2 fun entry _ => written_machineSummary entry)
  apply Json.Written.obj
  simp [hconcepts, hmodifiers, hgroups, hmachines]

theorem text_counts (m : Manifest) : m.counts.text = m.countsLine := rfl

theorem prettyChars_ofNat (level n : Nat) : (Json.ofNat n).prettyChars level = (toString n).toList := by
  simp [Json.ofNat, Json.ofInt, Json.prettyChars, Decimal.Numeral.ofInt, Decimal.Numeral.text,
    Decimal.exponentText]

theorem pretty_counts (m : Manifest) : m.counts.toJson.pretty = m.countsObject := by
  apply String.toList_inj.1
  delta countsObject
  simp only [Command.Counts.toJson, counts, Json.pretty, Json.prettyChars, Json.prettyMembers,
    prettyChars_ofNat, String.toList_append, String.toList_ofList, List.append_assoc, List.cons_append]
  rfl

theorem load_eq_ok {files : Files} {path text : String} (hfile : files path = some text)
    (hread : ofYaml? text = some m) : load files path = .ok m := by
  rw [load, hfile]
  simp only [hread]

theorem run_of_build (hbuild : m.build = .ok r) (command : Command) {files : Files}
    (hload : load files command.manifest = .ok m) : command.run files = ⟨0, command.answer r ++ "\n", none⟩ := by
  simp only [Command.run, hload, hbuild]

/-- A manifest is built exactly if its machines declare what they mention, its defaults fit their shapes, names are
    neither blank nor taken twice, groups have members, each once, and what entries refer to is there. The registry
    then has one definition for every entry and no others, with what the entry says. So `check` prints how many
    entries of each kind there are, and what `describe` prints is the text of the document that lists them. -/
theorem built_as_written (m : Manifest) :
    ((∃ r, m.build = .ok r) ↔ m.Valid) ∧
    ∀ r, m.build = .ok r → ∃ ordered : Manifest, ordered.Rearranges m ∧ ordered.InNameOrder ∧
      r.Translates ordered ∧ Command.counts r = m.counts ∧ r.summary = ordered.summary ∧
      Json.read? ordered.summary.pretty = some ordered.summary ∧
      ∀ files path, load files path = .ok m →
        (Command.check false path).run files = ⟨0, m.countsLine ++ "\n", none⟩ ∧
        (Command.check true path).run files = ⟨0, m.countsObject ++ "\n", none⟩ ∧
        (Command.describe path).run files = ⟨0, ordered.summary.pretty ++ "\n", none⟩ := by
  refine ⟨exists_build_iff, fun r hbuild => ?_⟩
  obtain ⟨ordered, hordered, hr⟩ := exists_translates_of_build hbuild
  have hcounts : Command.counts r = m.counts := hr.counts_eq.trans hordered.counts_eq
  refine ⟨ordered, hordered, hr.inNameOrder, hr, hcounts, hr.summary_eq,
    Json.read?_pretty (written_summary ordered), fun files path hload => ?_⟩
  rw [run_of_build hbuild (.check false path) hload, run_of_build hbuild (.check true path) hload,
    run_of_build hbuild (.describe path) hload, Command.answer, Command.answer, Command.answer, hcounts,
    hr.summary_eq, text_counts, pretty_counts]
  exact ⟨rfl, rfl, rfl⟩

/-- Entries that are not in the order of their names, a target that is listed twice and a state without moves. -/
def orders : Manifest where
  machines :=
    [⟨"Flow", ["created", "paid", "lost"], .ofList [("created", ["paid", "lost", "paid"])], some "status"⟩]
  concepts := [⟨"Order", .ofList [("id", .int)], some "Flow"⟩, ⟨"Invoice", .empty, none⟩]
  modifiers := [⟨"Premium", .ofList [("features", ⟨.list, .sequence [.str "export"]⟩)], none⟩]
  groups := [⟨"Pro", ["Premium", "Order"]⟩]

/-- A text, and the manifest that it holds. -/
def lettersText : String :=
  "concepts:\n- name: Note\n  expects:\n    to: str\n- name: Card\n" ++
    "groups:\n- name: Mail\n  members: [Note]\nstate_machines:\n- name: Ink\n  states: [wet]"

def letters : Manifest where
  machines := [⟨"Ink", ["wet"], .empty, none⟩]
  concepts := [⟨"Note", .ofList [("to", .str)], none⟩, ⟨"Card", .empty, none⟩]
  modifiers := []
  groups := [⟨"Mail", ["Note"]⟩]

/-- How it is described. -/
def lettersSummary : String := "\x7b
  \x22concepts\x22: [
    \x7b
      \x22name\x22: \x22Card\x22,
      \x22kind\x22: \x22concept\x22,
      \x22shape\x22: \x7b\x7d,
      \x22methods\x22: [],
      \x22state_machine\x22: null
    \x7d,
    \x7b
      \x22name\x22: \x22Note\x22,
      \x22kind\x22: \x22concept\x22,
      \x22shape\x22: \x7b
        \x22to\x22: \x22str\x22
      \x7d,
      \x22methods\x22: [],
      \x22state_machine\x22: null
    \x7d
  ],
  \x22modifiers\x22: [],
  \x22groups\x22: [
    \x7b
      \x22name\x22: \x22Mail\x22,
      \x22members\x22: [
        \x22Note\x22
      ]
    \x7d
  ],
  \x22state_machines\x22: [
    \x7b
      \x22name\x22: \x22Ink\x22,
      \x22states\x22: [
        \x22wet\x22
      ],
      \x22transitions\x22: \x7b
        \x22wet\x22: []
      \x7d,
      \x22state_key\x22: null
    \x7d
  ]
\x7d"

theorem ofYaml?_lettersText : ofYaml? lettersText = some letters := by
  -- defaults cannot be compared, but there are none
  have hread : (ofYaml? lettersText).any (fun m => m.machines == letters.machines &&
      m.concepts == letters.concepts && m.modifiers.isEmpty && m.groups == letters.groups) = true := by
    decide +kernel
  obtain ⟨⟨machines, concepts, modifiers, groups⟩, hm, hfound⟩ := (Option.any_eq_true _ _).1 hread
  simp only [Bool.and_eq_true, beq_iff_eq, List.isEmpty_iff] at hfound
  obtain ⟨⟨⟨rfl, rfl⟩, rfl⟩, rfl⟩ := hfound
  exact hm

set_option maxRecDepth 20000 in
theorem summary_letters :
    ({ letters with concepts := letters.concepts.reverse } : Manifest).summary.pretty = lettersSummary := by
  rfl

theorem built_as_written_orders : (∃ r ordered, orders.build = .ok r ∧ orders.Valid ∧
      ordered.Rearranges orders ∧ r.Translates ordered ∧ ordered.concepts.map (·.name) = ["Invoice", "Order"] ∧
      Command.counts r = ⟨2, 1, 1, 1⟩) ∧
    (¬∃ r, { orders with groups := [⟨"Pro", ["Premium", "Order", "Premium"]⟩] }.build = .ok r) ∧
    ∀ files path, files path = some lettersText →
      (Command.check false path).run files =
        ⟨0, "Manifest OK: 2 concepts, 0 modifiers, 1 groups, 1 state machines\n", none⟩ ∧
      (Command.check true path).run files =
        ⟨0, "\x7b\n  \x22valid\x22: true,\n  \x22concepts\x22: 2,\n  \x22modifiers\x22: 0,\n" ++
          "  \x22groups\x22: 1,\n  \x22state_machines\x22: 1\n\x7d\n", none⟩ ∧
      (Command.describe path).run files = ⟨0, lettersSummary ++ "\n", none⟩ := by
  refine ⟨?built, ?refused, fun files path hfile => ?printed⟩
  case built =>
    obtain ⟨hvalid, hbuilt⟩ := built_as_written orders
    obtain ⟨r, hbuild, hkeys⟩ : ∃ r, orders.build = .ok r ∧ r.concepts.keys = ["Invoice", "Order"] :=
      ⟨_, rfl, rfl⟩
    obtain ⟨ordered, hordered, _, hr, hcounts, _⟩ := hbuilt r hbuild
    have hnames := hr.concepts.keys_eq.symm.trans hkeys
    exact ⟨r, ordered, hbuild, hvalid.1 ⟨r, hbuild⟩, hordered, hr, hnames, hcounts⟩
  case refused =>
    rw [(built_as_written _).1]
    exact fun hvalid => absurd (hvalid.members_nodup _ List.mem_cons_self) (by simp)
  case printed =>
    obtain ⟨r, hbuild⟩ : ∃ r, letters.build = .ok r := ⟨_, rfl⟩
    obtain ⟨ordered, hordered, hnames, _, _, _, _, hrun⟩ := (built_as_written letters).2 r hbuild
    have hreversed : ({ letters with concepts := letters.concepts.reverse } : Manifest).Rearranges letters :=
      ⟨.refl _, List.reverse_perm _, .refl _, .refl _⟩
    have hsame := hordered.unique hreversed hnames (by constructor <;> decide)
    rw [hsame, summary_letters] at hrun
    exact hrun files path (load_eq_ok hfile ofYaml?_lettersText)

end Manifest

end CapabilityArena
