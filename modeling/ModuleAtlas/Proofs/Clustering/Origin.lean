import ModuleAtlas.Proofs.Clustering.Examined
import ModuleAtlas.Proofs.Listing.Sections
import ModuleAtlas.Proofs.Module.Table

/-!
# Where modules come from

Ids and names reach a run from outside: with its seeds, with a tree that it
takes up, and with every reply.  What a run makes of them is known.  The listing
of a question has lines for known candidates only, and every module that an
answer adds has a trimmed name and known components.

A module of the tree is one of the tree that was taken up, or a branch put it
there.  In the table that lays out the tree, a module that a branch put there
has the path of that branch.  The place that a reply proposes for a group is not
read.
-/

namespace ModuleAtlas

namespace ClusterState

open Forest

/-- An answer puts its modules below a branch that has its location in the
tree. -/
theorem absorb_tree {rules : ClusterRules} {branch : Branch} {answer : Answer}
    {state next : ClusterState} {children : List Branch}
    (taken : state.absorb rules branch answer = (next, children))
    {inner : Forest Module}
    (located : level? branch.path state.tree.forest = some inner) :
    next.tree = (state.tree.insertAll branch.path
      (rules.judge answer).1.modules).1 := by
  have next_eq : next = (state.absorb rules branch answer).1 := by rw [taken]
  rw [next_eq, absorb]
  generalize rules.judge answer = judged
  rcases judged with ⟨verdict, unknown⟩
  cases verdict with
  | failed | rejected rejection | degenerate => rfl
  | divided modules =>
    simp only [apply, merge, addUnknown,
      ModuleTree.insertModules?_of_located located]
    rfl

end ClusterState

namespace Clustering

open Forest StoredTree

/-! ## Modules of an event -/

section Occurs

variable {rules : ClusterRules} {allowed : Question → Answer → Prop}
  {event : Event} {earlier later : Progress}

theorem exists_answered_of_mem {added : NewModule}
    (member : added ∈ event.modules rules) :
    ∃ question answer, event = .answered event.branch question answer true ∧
      added ∈ (rules.judge answer).1.modules := by
  cases event with
  | settled branch | asked branch question =>
    exact absurd member List.not_mem_nil
  | answered branch question answer located =>
    cases located with
    | false => exact absurd member List.not_mem_nil
    | true => exact ⟨question, answer, rfl, member⟩

/-- An event puts its modules below its branch, where the tree has that
location, and does nothing else to the tree. -/
theorem occurs_tree (occurs : Occurs rules allowed event earlier later) :
    later.state.tree = (earlier.state.tree.insertAll event.branch.path
        (event.modules rules)).1 ∧
      (event.modules rules ≠ [] → ∃ inner,
        level? event.branch.path earlier.state.tree.forest = some inner) := by
  cases occurs with
  | settle prepared =>
    exact ⟨(ClusterState.prepare_eq_none prepared).2.1,
      fun filled => absurd rfl filled⟩
  | ask prepared =>
    exact ⟨(ClusterState.prepare_eq_some prepared).2.2.1,
      fun filled => absurd rfl filled⟩
  | @absorb branch question answer state next children waiting asking
      answered taken =>
    have known := state.tree.isSome_level?_toStored branch.path
    cases located : level? branch.path state.tree.forest with
    | none =>
      rw [located, Option.isSome_none] at known
      have lost := Option.isNone_iff_eq_none.1
        (Option.isSome_eq_false_iff.1 known)
      rw [known]
      exact ⟨(ClusterState.absorb_lost taken lost).1,
        fun filled => absurd rfl filled⟩
    | some inner =>
      rw [located, Option.isSome_some] at known
      rw [known]
      exact ⟨ClusterState.absorb_tree taken located,
        fun _ => ⟨inner, located⟩⟩

/-- The module that a branch put last at a path comes from an answer. -/
theorem exists_answered_of_creation {path : List String}
    {events : List Event} {creator : Branch} {added : NewModule}
    (created : creation? rules path events = some (creator, added)) :
    creator.path ++ [added.name] = path ∧ ∃ question answer,
      .answered creator question answer true ∈ events ∧
        added ∈ (rules.judge answer).1.modules := by
  rcases List.exists_of_findSome?_eq_some created with ⟨event, member, found⟩
  rcases Option.map_eq_some_iff.1 found with ⟨next, put, same⟩
  obtain ⟨rfl, rfl⟩ := Prod.mk.inj same
  have among := List.mem_reverse.1 (List.mem_of_find?_eq_some put)
  rcases exists_answered_of_mem among with ⟨question, answer, same, among⟩
  refine ⟨by simpa using List.find?_some put, question, answer, ?_, among⟩
  exact same ▸ List.mem_reverse.1 member

end Occurs

/-! ## Modules along a history -/

/-- What is stored at a path was put there by the branch that came last, or was
there at first. -/
def Traced (rules : ClusterRules) (first : StoredTree) (events : List Event)
    (later : StoredTree) : Prop :=
  ∀ path value children, find? path later = some (value, children) →
    match creation? rules path events with
    | some (_, added) => added.stored = value
    | none => ∃ former, find? path first = some (value, former)

/-- A table after the modules of some events were inserted. -/
def tableAfter (rules : ClusterRules) (table : ModuleTable)
    (events : List Event) : ModuleTable :=
  events.foldl (fun table event =>
    (table.insertModules event.branch.path (event.modules rules)).1) table

section History

variable {rules : ClusterRules} {allowed : Question → Answer → Prop}
  {event : Event} {events : List Event} {first earlier later : Progress}

theorem traced_step {start : StoredTree}
    (occurs : Occurs rules allowed event earlier later)
    (traced : Traced rules start events earlier.state.tree.toStored) :
    Traced rules start (events ++ [event]) later.state.tree.toStored := by
  intro path value children met
  obtain ⟨tree, located⟩ := occurs_tree occurs
  rw [tree, ModuleTree.toStored_insertAll] at met
  by_cases idle : event.modules rules = []
  · rw [creation?_of_not_put (put?_of_idle idle path)]
    have kept : changeBelow (putAll []) event.branch.path
        earlier.state.tree.toStored = earlier.state.tree.toStored :=
      changeBelow_id _ _
    rw [idle, kept] at met
    exact traced path value children met
  · rcases located idle with ⟨inner, located⟩
    have known := earlier.state.tree.isSome_level?_toStored event.branch.path
    rw [located, Option.isSome_some] at known
    rcases Option.isSome_iff_exists.1 known with ⟨level, located⟩
    rcases find?_divided idle located met
      with ⟨added, put, same⟩ | ⟨put, former, met, _⟩
    · rw [creation?_of_put put]
      exact same
    · rw [creation?_of_not_put put]
      exact traced path value former met

theorem traced_history (history : History rules allowed first events later) :
    Traced rules first.state.tree.toStored events
      later.state.tree.toStored := by
  induction history with
  | start => exact fun _ _ children met => ⟨children, met⟩
  | extend _ occurs traced => exact traced_step occurs traced

/-- An event keeps the layout of a table in which its modules are inserted. -/
theorem laysOut_step {table : ModuleTable}
    (occurs : Occurs rules allowed event earlier later)
    (laid : LaysOut table earlier.state.tree)
    (sound : earlier.state.tree.Sound) :
    LaysOut (table.insertModules event.branch.path (event.modules rules)).1
        later.state.tree ∧ later.state.tree.Sound := by
  obtain ⟨tree, filled⟩ := occurs_tree occurs
  rw [tree]
  cases located : level? event.branch.path earlier.state.tree.forest with
  | none =>
    have idle : event.modules rules = [] := by
      by_contra busy
      rcases filled busy with ⟨inner, found⟩
      rw [located] at found
      exact absurd found (by simp)
    rw [laid.insertModules_lost located, idle]
    exact ⟨laid, sound⟩
  | some inner =>
    rcases laid.insertModules sound located (event.modules rules)
      with ⟨after, same, laid', _⟩
    rw [same]
    exact ⟨laid', sound.insertAll located _⟩

theorem laysOut_history {table : ModuleTable}
    (history : History rules allowed first events later)
    (laid : LaysOut table first.state.tree)
    (sound : first.state.tree.Sound) :
    LaysOut (tableAfter rules table events) later.state.tree ∧
      later.state.tree.Sound := by
  induction history with
  | start => exact ⟨laid, sound⟩
  | extend _ occurs step =>
    rw [tableAfter, List.foldl_append]
    exact laysOut_step occurs step.1 step.2

end History

/-- Where a module of the tree comes from. -/
inductive Origin (rules : ClusterRules) (first : ModuleTree)
    (events : List Event) (entry : Entry Module) : Prop where
  /-- It was in the tree that was taken up, and nothing was put at its path. -/
  | former {old : Entry Module}
      (untouched : creation? rules entry.path events = none)
      (member : old ∈ first.modules) (path : old.path = entry.path)
      (same : old.value.stored = entry.value.stored)
  /-- An answer put it below the branch that was asked about. -/
  | added {creator : Branch} {question : Question} {answer : Answer}
      {added : NewModule}
      (created : creation? rules entry.path events = some (creator, added))
      (answered : .answered creator question answer true ∈ events)
      (among : added ∈ (rules.judge answer).1.modules)
      (above : entry.above = creator.path) (name : entry.name = added.name)
      (same : entry.value.stored = added.stored)

theorem Traced.origin {rules : ClusterRules} {first last : ModuleTree}
    {events : List Event}
    (traced : Traced rules first.toStored events last.toStored)
    {entry : Entry Module} (member : entry ∈ last.modules) :
    Origin rules first events entry := by
  have met := traced _ _ _ (ModuleTree.find?_toStored.2
    ⟨entry, member, rfl, rfl, rfl⟩)
  cases created : creation? rules entry.path events with
  | none =>
    rw [created] at met
    rcases met with ⟨former, met⟩
    rcases ModuleTree.find?_toStored.1 met with ⟨old, among, path, same, _⟩
    exact .former created among path same
  | some creation =>
    rcases creation with ⟨creator, added⟩
    rw [created] at met
    rcases exists_answered_of_creation created
      with ⟨path, question, answer, answered, among⟩
    have split := List.append_inj' path rfl
    exact .added created answered among split.1.symm
      (List.singleton_inj.1 split.2).symm met.symm

/-- A table has a module with the path of the branch that put it there last. -/
theorem exists_row_of_created {rules : ClusterRules} {last : ModuleTree}
    {table : ModuleTable} (laid : LaysOut table last) {events : List Event}
    {entry : Entry Module} (member : entry ∈ last.modules) {creator : Branch}
    {added : NewModule}
    (created : creation? rules entry.path events = some (creator, added)) :
    ∃ row, table.get? entry.value.slot = some row ∧
      row.above = creator.path ∧ row.name = added.name ∧
      row.stored = entry.value.stored := by
  rcases laid.held_of_find? (ModuleTree.mem_modules.1 member)
    with ⟨row, held, shows⟩
  have path := (exists_answered_of_creation created).1
  have split := List.append_inj' (shows.path.trans path.symm) rfl
  refine ⟨row, held, split.1, List.singleton_inj.1 split.2, ?_⟩
  rw [ModuleEntry.stored, shows.description, shows.components]
  rfl

/-- The listing of every question has lines for known candidates only.  Every
module that is added is admissible, and a module of the tree was added or taken
up.  A table that lays out the tree at first, and in which the modules are
inserted, has the path of its branch with each module that was added.  The
proposed places of a reply do not matter. -/
theorem added_known (rules : ClusterRules)
    (allowed : Question → Answer → Prop) (seeds : List String)
    (resume : Option ModuleTree) :
    (∀ (Memory : Type) (oracle : Oracle (StateM Memory)) (memory : Memory),
      ∃ events, History rules (Returns oracle) (begin seeds resume) events
        ⟨remembered rules oracle seeds resume memory, 0, 0⟩) ∧
    (∀ events last,
      History rules allowed (begin seeds resume) events last →
      last.state.asked = events.filterMap Event.question? ∧
      (∀ branch question, .asked branch question ∈ events →
        ∃ lines : List Listing.Line,
          question.listing = String.join (lines.map Listing.Line.text) ∧
          ∀ line ∈ lines, line.Names rules.components branch.candidates) ∧
      (∀ event ∈ events, ∀ added ∈ event.modules rules,
        rules.Admits added) ∧
      (∀ entry ∈ last.state.tree.modules,
        Origin rules (begin seeds resume).state.tree events entry) ∧
      ∀ table, LaysOut table (begin seeds resume).state.tree →
        (begin seeds resume).state.tree.Sound →
        LaysOut (tableAfter rules table events) last.state.tree ∧
        ∀ entry ∈ last.state.tree.modules, ∀ creator added,
          creation? rules entry.path events = some (creator, added) →
          ∃ row,
            (tableAfter rules table events).get? entry.value.slot =
              some row ∧
            row.above = creator.path ∧ row.name = added.name ∧
            row.stored = added.stored) ∧
    ∀ reply other groups others, Reply.ofText reply = .proposed groups →
      Reply.ofText other = .proposed others →
      groups.map Group.placeless = others.map Group.placeless →
      rules.judge (.ok reply) = rules.judge (.ok other) := by
  refine ⟨?_, ?_, ?_⟩
  · intro Memory oracle memory
    exact remembered_history rules oracle seeds resume memory
  · intro events last history
    have traced := traced_history history
    refine ⟨?_, ?_, ?_, ?_, ?_⟩
    · rw [asked_history history, begin]
      cases resume.filter fun tree => !tree.isEmpty <;> rfl
    · intro branch question asked
      rw [(large_of_asked history asked).2]
      have sectioned :=
        Listing.sectioned_sections rules.components branch.candidates
      exact ⟨_, Listing.summary_eq, fun line => sectioned.mem_lines.1⟩
    · intro event _ added member
      rcases exists_answered_of_mem member with ⟨_, _, _, among⟩
      exact ClusterRules.admits_of_mem_judge among
    · exact fun entry member => traced.origin member
    · intro table laid sound
      have laid' := (laysOut_history history laid sound).1
      refine ⟨laid', fun entry member creator added created => ?_⟩
      rcases exists_row_of_created laid' member created
        with ⟨row, held, above, name, same⟩
      have met := traced _ _ _ (ModuleTree.find?_toStored.2
        ⟨entry, member, rfl, rfl, rfl⟩)
      rw [created] at met
      exact ⟨row, held, above, name, same.trans met.symm⟩
  · intro reply other groups others proposed proposed' alike
    exact rules.judge_congr proposed proposed' alike

namespace Sample

/-- The reply that divides the three functions, with a place for one group. -/
def placed : String :=
  "<GROUPED_COMPONENTS>\x7b" ++
  "'x': \x7b'components': ['a', 'b'], 'path': ['elsewhere']\x7d, " ++
  "'y': \x7b'components': ['c']\x7d" ++
  "\x7d</GROUPED_COMPONENTS>"

theorem ofText_placed : Reply.ofText placed =
    .proposed [⟨"x", "", ["elsewhere"], ["a", "b"]⟩, ⟨"y", "", [], ["c"]⟩] := by
  cbv

end Sample

/-- A run on three functions, one of whose modules is divided again.  No module
was there at first. -/
theorem added_known_sample :
    (∃ events last, History Sample.rules (Returns Sample.service)
        (begin ["a", "b", "c"] none) events last ∧
      last.state.tree.moduleCount = 4 ∧
      ∀ entry ∈ last.state.tree.modules, ∃ creator added row,
        creation? Sample.rules entry.path events = some (creator, added) ∧
        Sample.rules.Admits added ∧
        (tableAfter Sample.rules .empty events).get? entry.value.slot =
          some row ∧
        row.above = creator.path ∧ row.name = added.name) ∧
    Sample.rules.judge (.ok Sample.placed) =
      Sample.rules.judge (.ok Sample.whole) := by
  obtain ⟨ends, facts, places⟩ := added_known Sample.rules
    (Returns Sample.service) ["a", "b", "c"] none
  rcases ends Unit Sample.service () with ⟨events, history⟩
  obtain ⟨_, _, admits, origins, rows⟩ := facts events _ history
  obtain ⟨_, rows⟩ := rows .empty LaysOut.empty ModuleTree.Sound.empty
  refine ⟨⟨events, _, history, by decide +kernel, fun entry member => ?_⟩,
    places _ _ _ _ Sample.ofText_placed Sample.ofText_whole rfl⟩
  cases origins entry member with
  | former _ absent => exact absurd absent List.not_mem_nil
  | @added creator question answer added created answered among =>
    rcases rows entry member creator added created
      with ⟨row, held, above, name, _⟩
    exact ⟨creator, added, row, created, admits _ answered _ among, held,
      above, name⟩

end Clustering

end ModuleAtlas
