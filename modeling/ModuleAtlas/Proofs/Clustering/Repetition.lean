import ModuleAtlas.Proofs.Clustering.Depth
import ModuleAtlas.Proofs.Clustering.Extension
import ModuleAtlas.Proofs.Clustering.Resume

/-!
# Runs one after another

A module with as many known components as its branch had known candidates is
not taken further by the run that made it.  Stored trees do not say which
modules these are: a run that takes up a tree begins with all of its leaves.
So each further run may go deeper, by as much as the groups of an answer may
exceed the set that they divide.  No answer exceeds it by more than the number
of all components, and when the groups are smaller than the sets they divide,
the bound of the first run holds for all runs.

One reply given for ever shows that the excess counts: with two groups that
both hold the only candidate, each run goes one level deeper than the one
before.
-/

namespace ModuleAtlas

namespace Clustering

open Relation Forest StoredTree

section

variable (rules : ClusterRules) (allowed : Question → Answer → Prop)
  (seeds : List String)

/-- A run under way, of several on the same seeds.  The first is fresh; every
further one takes up the tree with which the one before it ended, as far as it
is stored. -/
inductive Rerun : Nat → Progress → Prop where
  | fresh {progress : Progress}
      (schedule : Schedule rules allowed (begin seeds none) progress) :
      Rerun 0 progress
  | again {count : Nat} {last progress : Progress} {tree : ModuleTree}
      (earlier : Rerun count last)
      (stuck : ∀ next, ¬ Step rules allowed last next)
      (same : tree.toStored = last.state.tree.toStored)
      (schedule : Schedule rules allowed (begin seeds (some tree)) progress) :
      Rerun (count + 1) progress

/-- No module of an answer has more components than the set it divides has
known candidates, but for an excess. -/
def Within (excess : Nat) : Prop :=
  ∀ (branch : Branch) (tree : ModuleTree) (answer : Answer),
    fits rules branch = false →
    allowed (ClusterRules.question branch (rules.listing branch.candidates)
      tree) answer →
    ∀ added ∈ (rules.judge answer).1.modules,
      added.components.size < rules.size branch + excess

end

section

variable {rules : ClusterRules} {allowed : Question → Answer → Prop}
  {seeds : List String}

theorem exists_rerun (count : Nat) :
    ∃ last, Rerun rules allowed seeds count last ∧
      ∀ next, ¬ Step rules allowed last next := by
  induction count with
  | zero =>
    rcases exists_ends rules allowed (begin seeds none) with ⟨last, ends⟩
    exact ⟨last, .fresh ends.schedule, ends.stuck⟩
  | succ count earlier =>
    rcases earlier with ⟨former, run, stuck⟩
    rcases exists_ends rules allowed (begin seeds (some former.state.tree))
      with ⟨last, ends⟩
    exact ⟨last, .again run stuck rfl ends.schedule, ends.stuck⟩

/-! ## Answers that exceed what they divide -/

theorem known_le_length (ids : List String) :
    rules.known ids ≤ ids.length :=
  (NameSet.size_ofList_le _).trans (List.length_filter_le _ _)

theorem known_le_size (ids : List String) :
    rules.known ids ≤ rules.components.size := by
  have inside : (NameSet.ofList
      (ids.filter rules.components.contains)).names ⊆
        rules.components.names := by
    intro id member
    rw [NameSet.mem_names, NameSet.mem_ofList, List.mem_filter,
      Keyed.contains, Option.isSome_iff_exists] at member
    rcases member.2 with ⟨component, found⟩
    exact List.mem_map_of_mem (f := Prod.fst) (Keyed.find?_eq_some_iff.1 found)
  have shorter := ((NameSet.names_nodup _).subperm inside).length_le
  rwa [Keyed.names, List.length_map] at shorter

theorem size_pos_of_large (weightless : rules.count "" = 0) {branch : Branch}
    (large : fits rules branch = false) : 0 < rules.size branch := by
  apply Nat.pos_of_ne_zero
  intro bare
  rw [fits_of_size_zero weightless bare] at large
  exact absurd large (by simp)

/-- No module has more components than there are. -/
theorem within_size (weightless : rules.count "" = 0) :
    Within rules allowed rules.components.size := by
  intro branch tree answer large _ added member
  have filled := size_pos_of_large weightless large
  rcases ClusterRules.exists_group_of_mem_judge member
    with ⟨_, _, _, _, group, _, usable⟩
  rw [(ClusterRules.module?_eq_some usable).2.2]
  have few : rules.known group.components ≤ rules.components.size :=
    known_le_size _
  rw [ClusterRules.known] at few
  omega

/-! ## One run -/

/-- An open question was asked about its branch, with some tree. -/
theorem question_of_asking {resume : Option ModuleTree} {progress : Progress}
    (schedule : Schedule rules allowed (begin seeds resume) progress) :
    ∀ entry ∈ progress.asking, fits rules entry.1 = false ∧
      ∃ tree, entry.2 = ClusterRules.question entry.1
        (rules.listing entry.1.candidates) tree := by
  induction schedule with
  | refl => simp [begin_asking]
  | tail _ step asked =>
    refine asking_step step (fun _ prepared => ?_) asked
    obtain ⟨large, shown, _⟩ := ClusterState.prepare_eq_some prepared
    exact ⟨large, _, shown⟩

/-- Every module that was not there at first lies, with its known components,
no deeper than the excess below what the run began with. -/
theorem length_add_known_le (weightless : rules.count "" = 0) {excess : Nat}
    (within : Within rules allowed excess) {resume : Option ModuleTree}
    {progress : Progress}
    (schedule : Schedule rules allowed (begin seeds resume) progress) :
    ∀ row ∈ rows [] progress.state.tree.toStored,
      row ∈ rows [] (begin seeds resume).state.tree.toStored ∨
      ∃ origin ∈ (begin seeds resume).pending,
        row.1.length + rules.known row.2.components ≤
          origin.path.length + rules.size origin + excess := by
  induction schedule with
  | refl => exact fun row member => Or.inl member
  | @tail earlier later before step bounded =>
    cases effect_of_step step with
    | keep tree same => rwa [tree]
    | drop tree pending spent => rwa [tree]
    | @grow branch question answer rest asking answered pending tree after =>
      obtain ⟨large, shown, same⟩ := question_of_asking before _ asking
      dsimp only at large same
      rw [same] at answered
      have here := (shallow_schedule weightless before).pending branch
        (by simp [pending])
      rcases here with ⟨origin, inside, _, bound⟩
      intro row member
      rw [tree] at member
      rcases mem_rows_changeBelow member with old | ⟨inner, located, new⟩
      · exact bounded row old
      rcases mem_rows_putAll new with ⟨added, among, rfl⟩ | old
      · refine Or.inr ⟨origin, inside, ?_⟩
        have few := within branch shown answer large answered added among
        have known : rules.known added.components.names ≤
            added.components.size := known_le_length _
        simp only [NewModule.row, NewModule.stored, List.length_append,
          List.length_cons, List.length_nil]
        omega
      · exact bounded row (rows_level? located [] old)

/-! ## Bounded trees -/

/-- Paths are bounded, and those of leaves are bounded together with what they
hold, but for an excess. -/
structure Bounded (rules : ClusterRules) (bound excess : Nat)
    (forest : StoredTree) : Prop where
  paths : ∀ row ∈ rows [] forest, row.1.length ≤ bound
  leaves : ∀ {path value}, find? path forest = some (value, .nil) →
    path.length + rules.known value.components ≤ bound + excess

theorem Bounded.mono {bound bound' excess : Nat} {forest : StoredTree}
    (bounded : Bounded rules bound excess forest) (more : bound ≤ bound') :
    Bounded rules bound' excess forest :=
  ⟨fun row member => (bounded.paths row member).trans more,
    fun met => (bounded.leaves met).trans (by omega)⟩

theorem bounded_fresh (weightless : rules.count "" = 0) {excess : Nat}
    (within : Within rules allowed excess) {progress : Progress}
    (schedule : Schedule rules allowed (begin seeds none) progress) :
    Bounded rules (rules.known seeds) excess progress.state.tree.toStored := by
  have bare : rows [] (begin seeds none).state.tree.toStored = 0 := rfl
  have origin : ∀ origin ∈ (begin seeds none).pending,
      origin.path.length + rules.size origin = rules.known seeds := by
    intro origin among
    have only : (begin seeds none).pending = {⟨[], seeds⟩} := by
      simp [begin, Progress.pending]
    rw [only, Multiset.mem_singleton] at among
    rw [among, size_eq_known]
    exact Nat.zero_add _
  constructor
  · intro row member
    rcases (shallow_schedule weightless schedule).modules row member
      with old | ⟨first, among, _, bound⟩
    · simp [bare] at old
    · rw [origin first among] at bound
      exact bound
  · intro path value met
    rcases length_add_known_le weightless within schedule _
        (mem_rows_of_find? (ModuleTree.toStored_ordered _) met)
      with old | ⟨first, among, bound⟩
    · simp [bare] at old
    · rwa [origin first among] at bound

/-- A run that takes up a bounded tree goes deeper by the excess at most. -/
theorem bounded_again (weightless : rules.count "" = 0) {bound excess : Nat}
    (within : Within rules allowed excess) {tree : ModuleTree}
    (filled : tree.isEmpty = false)
    (bounded : Bounded rules bound excess tree.toStored) {progress : Progress}
    (schedule : Schedule rules allowed (begin seeds (some tree)) progress) :
    Bounded rules (bound + excess) excess progress.state.tree.toStored := by
  have shallow := shallow_schedule weightless schedule
  have rowsBound := length_add_known_le weightless within schedule
  have extended := (resuming_schedule filled schedule).grown
  rw [begin_of_filled seeds filled] at shallow rowsBound
  have origin : ∀ origin ∈
      Progress.pending ⟨.start tree, resumable tree, 0⟩,
      origin.path.length + rules.size origin ≤ bound + excess := by
    intro origin among
    rw [Progress.pending, Multiset.map_zero, add_zero, Multiset.mem_coe,
      resumable, List.mem_map] at among
    rcases among with ⟨leaf, among, rfl⟩
    rw [size_eq_known]
    exact bounded.leaves
      (ModuleTree.exists_leafModule_iff.1 ⟨leaf, among, rfl, rfl⟩)
  constructor
  · intro row member
    rcases shallow.modules row member with old | ⟨first, among, _, below⟩
    · exact (bounded.paths row old).trans (Nat.le_add_right _ _)
    · exact below.trans (origin first among)
  · intro path value met
    rcases rowsBound _
        (mem_rows_of_find? (ModuleTree.toStored_ordered _) met)
      with old | ⟨first, among, below⟩
    · -- a leaf that was there at first was a leaf then
      rw [mem_rows_nil (ModuleTree.toStored_ordered _), valueAt?,
        Option.map_eq_some_iff] at old
      rcases old with ⟨⟨former, children⟩, met', rfl⟩
      rcases extended.kept met' with ⟨grown, now, names⟩
      rw [met, Option.some.injEq, Prod.mk.injEq] at now
      obtain ⟨-, rfl⟩ := now
      have bare : children = .nil := by
        by_contra filled
        cases children with
        | nil => exact filled rfl
        | node name value below rest => simp [roots] at names
      subst bare
      exact (bounded.leaves met').trans (Nat.le_add_right _ _)
    · exact below.trans (Nat.add_le_add_right (origin first among) _)

theorem bounded_rerun (weightless : rules.count "" = 0) {excess : Nat}
    (within : Within rules allowed excess) {count : Nat} {progress : Progress}
    (run : Rerun rules allowed seeds count progress) :
    Bounded rules (rules.known seeds + count * excess) excess
      progress.state.tree.toStored := by
  induction run with
  | fresh schedule =>
    rw [Nat.zero_mul, Nat.add_zero]
    exact bounded_fresh weightless within schedule
  | @again count last progress tree _ _ same schedule bounded =>
    rw [← same] at bounded
    cases filled : tree.isEmpty with
    | true =>
      rw [begin_of_isEmpty seeds filled] at schedule
      exact (bounded_fresh weightless within schedule).mono (by omega)
    | false =>
      rw [Nat.succ_mul, ← Nat.add_assoc]
      exact bounded_again weightless within filled bounded schedule

end

/-! ## All runs -/

/-- However often a tree is taken up again, and whatever the answers are, a
run does not take further what is as large as the branch it comes from, every
further run begins with all leaves, and paths exceed the bound of the first
run by what the answers may exceed the sets they divide, once for each further
run. -/
theorem reruns_bounded (rules : ClusterRules)
    (weightless : rules.count "" = 0)
    (allowed : Question → Answer → Prop) (seeds : List String) :
    (∀ count, ∃ last, Rerun rules allowed seeds count last ∧
      ∀ next, ¬ Step rules allowed last next) ∧
    (∀ branch child, Spawns rules branch child →
      rules.known child.candidates < rules.known branch.candidates) ∧
    (∀ tree : ModuleTree, ∀ leaf ∈ tree.leafModules,
      ⟨leaf.path, leaf.value.components.names⟩ ∈
        (begin seeds (some tree)).waiting) ∧
    (∀ count progress, Rerun rules allowed seeds count progress →
      ∀ entry ∈ progress.state.tree.modules,
        entry.path.length ≤
          rules.known seeds + count * rules.components.size) ∧
    ∀ excess, Within rules allowed excess →
      ∀ count progress, Rerun rules allowed seeds count progress →
      ∀ entry ∈ progress.state.tree.modules,
        entry.path.length ≤ rules.known seeds + count * excess := by
  have bounded : ∀ excess, Within rules allowed excess →
      ∀ count progress, Rerun rules allowed seeds count progress →
      ∀ entry ∈ progress.state.tree.modules,
        entry.path.length ≤ rules.known seeds + count * excess := by
    intro excess within count progress run entry member
    exact (bounded_rerun weightless within run).paths _
      (ModuleTree.mem_rows_toStored.2 ⟨entry, member, rfl, rfl⟩)
  refine ⟨exists_rerun, fun _ _ => known_lt_of_spawns, ?_, ?_, bounded⟩
  · intro tree leaf member
    rw [begin_of_filled seeds (ModuleTree.isEmpty_of_leaf member)]
    exact Multiset.mem_coe.2 (List.mem_map_of_mem
      (f := fun entry : Entry Module =>
        (⟨entry.path, entry.value.components.names⟩ : Branch)) member)
  · exact bounded _ (within_size weightless)

namespace Sample

/-- The rules by which no function fits. -/
def narrow : ClusterRules := { rules with budget := 0 }

/-- The reply that puts one function into two modules. -/
def twice : String :=
  "<GROUPED_COMPONENTS>\x7b" ++
  "'m': \x7b'components': ['a']\x7d, 'n': \x7b'components': ['a']\x7d" ++
  "\x7d</GROUPED_COMPONENTS>"

/-- The service that knows this reply only. -/
def repeating : Question → Answer := fun _ => .ok twice

theorem ofText_twice : Reply.ofText twice =
    .proposed [⟨"m", "", [], ["a"]⟩, ⟨"n", "", [], ["a"]⟩] := by
  cbv

theorem judge_twice : (narrow.judge (.ok twice)).1.modules =
    [⟨"m", "", .ofList ["a"]⟩, ⟨"n", "", .ofList ["a"]⟩] := by
  rw [ClusterRules.judge, ofText_twice]
  cbv

theorem narrow_large (path : List String) :
    fits narrow ⟨path, ["a"]⟩ = false := by
  have large : narrow.fits (narrow.listing ["a"]) = false := by decide
  exact large

/-- No group of the reply has more components than the set it divides. -/
theorem within_one : Within narrow (Answers repeating) 1 := by
  intro branch tree answer large answered added member
  have filled : 0 < narrow.size branch := size_pos_of_large rfl large
  rw [← answered, repeating, judge_twice] at member
  have single : added.components.size = 1 := by
    simp only [List.mem_cons, List.not_mem_nil, or_false] at member
    rcases member with rfl | rfl <;> rfl
  omega

end Sample

/-- Two groups that hold the one component of the set they divide, given for
ever. -/
theorem reruns_bounded_sample :
    Sample.narrow.count "" = 0 ∧
    Within Sample.narrow (Answers Sample.repeating) 1 ∧
    ∀ count progress,
      Rerun Sample.narrow (Answers Sample.repeating) ["a"] count progress →
      ∀ entry ∈ progress.state.tree.modules,
        entry.path.length ≤ Sample.narrow.known ["a"] + count * 1 := by
  have weightless : Sample.narrow.count "" = 0 := rfl
  obtain ⟨_, _, _, _, bounded⟩ := reruns_bounded Sample.narrow weightless
    (Answers Sample.repeating) ["a"]
  exact ⟨weightless, Sample.within_one, bounded 1 Sample.within_one⟩

/-! ## Runs that go deeper and deeper -/

section

variable {rules : ClusterRules} {oracle : Question → Answer}
  {seeds : List String}

/-- What a branch is divided into is there when the run is over. -/
theorem mem_rows_of_division (blind : TreeBlind oracle)
    (names : NamesApart oracle) {resume : Option ModuleTree} {last : Progress}
    (ends : Ends rules (Answers oracle) (begin seeds resume) last)
    {branch : Branch} (waits : branch ∈ (begin seeds resume).pending)
    {added : NewModule} (divided : added ∈ division rules oracle branch) :
    added.row branch.path ∈ rows [] last.state.tree.toStored := by
  have total := congrArg Prod.fst
    (shown_of_ends blind names ends (sound_begin seeds resume))
  rw [worth_fst] at total
  have brought : added.row branch.path ∈ grown rules oracle branch := by
    rw [grown_eq]
    exact Multiset.mem_add.2
      (Or.inl (Multiset.mem_map_of_mem _ (Multiset.mem_coe.2 divided)))
  have inside : grown rules oracle branch ≤
      ((begin seeds resume).pending.map (grown rules oracle)).sum :=
    Multiset.le_sum_of_mem (Multiset.mem_map_of_mem _ waits)
  show _ ∈ (shown last.state).1
  rw [total]
  exact Multiset.mem_add.2 (Or.inr (Multiset.mem_of_le inside brought))

end

namespace Sample

theorem treeBlind_repeating : TreeBlind repeating := fun _ _ _ => rfl

theorem namesApart_repeating : NamesApart repeating := by
  intro question reply groups answered read
  rw [← Except.ok.inj answered, ofText_twice, Reply.proposed.injEq] at read
  have trimmed : groups.map (fun group => Text.trim group.name) =
      ["m", "n"] := by
    subst read
    cbv
  simp [trimmed]

theorem division_repeating (path : List String) :
    division narrow repeating ⟨path, ["a"]⟩ =
      [⟨"m", "", .ofList ["a"]⟩, ⟨"n", "", .ofList ["a"]⟩] := by
  rw [division_of_large (narrow_large path)]
  exact judge_twice

/-- Each further run divides a leaf at the greatest depth. -/
theorem exists_deep_leaf (count : Nat) :
    ∃ last, Rerun narrow (Answers repeating) ["a"] count last ∧
      last.IsOver ∧
      ∃ path, path.length = count + 1 ∧
        find? path last.state.tree.toStored = some (⟨"", ["a"]⟩, .nil) := by
  have weightless : narrow.count "" = 0 := rfl
  have known : narrow.known ["a"] = 1 := by decide
  -- a path of the greatest length is that of a leaf
  have leaf : ∀ (path : List String) {last resume},
      Rerun narrow (Answers repeating) ["a"] path.length last →
      Ends narrow (Answers repeating) (begin ["a"] resume) last →
      ⟨path, ["a"]⟩ ∈ (begin ["a"] resume).pending →
      find? (path ++ ["m"]) last.state.tree.toStored =
        some (⟨"", ["a"]⟩, .nil) := by
    intro path last resume run ends waits
    have divided : ⟨"m", "", .ofList ["a"]⟩ ∈
        division narrow repeating ⟨path, ["a"]⟩ := by
      rw [division_repeating]
      exact List.mem_cons_self
    have row := mem_rows_of_division treeBlind_repeating namesApart_repeating
      ends waits divided
    have bounded := bounded_rerun weightless within_one run
    apply find?_of_longest (ModuleTree.toStored_ordered _) bounded.paths row
    show narrow.known ["a"] + path.length * 1 ≤ (path ++ ["m"]).length
    rw [known, List.length_append, List.length_singleton]
    omega
  induction count with
  | zero =>
    rcases exists_ends narrow (Answers repeating) (begin ["a"] none)
      with ⟨last, ends⟩
    have run : Rerun narrow (Answers repeating) ["a"] 0 last :=
      .fresh ends.schedule
    exact ⟨last, run, ends.isOver (answers_answerable _), ["m"], rfl,
      leaf [] run ends (by simp [begin, Progress.pending])⟩
  | succ count earlier =>
    rcases earlier with ⟨former, run, finished, path, length, met⟩
    rcases exists_ends narrow (Answers repeating)
      (begin ["a"] (some former.state.tree)) with ⟨last, ends⟩
    have again : Rerun narrow (Answers repeating) ["a"] (count + 1) last :=
      .again run (not_step_of_isOver finished) rfl ends.schedule
    have waits : ⟨path, ["a"]⟩ ∈
        (begin ["a"] (some former.state.tree)).pending := by
      rcases ModuleTree.exists_leafModule_iff.2 met
        with ⟨module, among, rfl, same⟩
      have components : module.value.components.names = ["a"] :=
        congrArg StoredModule.components same
      rw [begin_of_filled ["a"] (ModuleTree.isEmpty_of_leaf among),
        Progress.pending, Multiset.map_zero, add_zero, Multiset.mem_coe]
      exact List.mem_map.2 ⟨module, among, by rw [components]⟩
    refine ⟨last, again, ends.isOver (answers_answerable _), path ++ ["m"],
      by simp [length], leaf path ?_ ends waits⟩
    rwa [length]

end Sample

/-- One reply, given for ever, makes the tree of a single function one level
deeper with each run. -/
theorem reruns_deepen :
    Sample.narrow.count "" = 0 ∧ Sample.narrow.known ["a"] = 1 ∧
    ∀ count, ∃ last,
      Rerun Sample.narrow (Answers Sample.repeating) ["a"] count last ∧
      last.IsOver ∧
      ∃ entry ∈ last.state.tree.modules, entry.path.length = count + 1 := by
  refine ⟨rfl, by decide, fun count => ?_⟩
  rcases Sample.exists_deep_leaf count
    with ⟨last, run, finished, path, length, met⟩
  rcases ModuleTree.exists_leafModule_iff.2 met with ⟨leaf, among, rfl, _⟩
  exact ⟨last, run, finished, leaf, (List.mem_filter.1 among).1, length⟩

end Clustering

end ModuleAtlas
