import ModuleAtlas.Proofs.Clustering.Schedule
import ModuleAtlas.Proofs.Clustering.Step

/-!
# Where pending branches sit

A step leaves the tree and the pending branches alone, drops a branch, or
puts the modules of an answer below a branch and makes them pending.  As long
as no reply names two groups alike, the branches that are not done
yet sit at different locations of the tree, and nothing is below any of them.
Dividing one branch puts new modules where nothing was, away from the
locations of all other branches.
-/

namespace ModuleAtlas

namespace Clustering

open Forest StoredTree

/-- What a step means for the stored tree and for the pending branches. -/
inductive Effect (rules : ClusterRules)
    (allowed : Question → Answer → Prop) (first next : Progress) : Prop where
  | keep (tree : next.state.tree = first.state.tree)
      (pending : next.pending = first.pending)
  | drop {branch : Branch} (tree : next.state.tree = first.state.tree)
      (pending : first.pending = branch ::ₘ next.pending)
      (spent : rules.fits (rules.listing branch.candidates) = true ∨
        level? branch.path first.state.tree.toStored = none)
  | grow {branch : Branch} {question : Question} {answer : Answer}
      {rest : Multiset Branch} (asked : (branch, question) ∈ first.asking)
      (answered : allowed question answer)
      (before : first.pending = branch ::ₘ rest)
      (tree : next.state.tree.toStored =
        changeBelow (putAll (rules.judge answer).1.modules) branch.path
          first.state.tree.toStored)
      (after : next.pending = (ClusterRules.pending branch.path
        (rules.size branch) (rules.judge answer).1.modules :
          Multiset Branch) + rest)

theorem effect_of_step {rules : ClusterRules}
    {allowed : Question → Answer → Prop} {first next : Progress}
    (step : Step rules allowed first next) :
    Effect rules allowed first next := by
  cases step with
  | settle fits =>
    rcases ClusterState.prepare_eq_none fits with ⟨small, tree, _⟩
    refine .drop tree ?_ (Or.inl small)
    rw [Progress.pending, Progress.pending, Multiset.cons_add]
  | ask asked =>
    apply Effect.keep (ClusterState.prepare_eq_some asked).2.2.1
    rw [Progress.pending, Progress.pending, Multiset.map_cons,
      Multiset.add_cons, Multiset.cons_add]
  | @absorb branch question answer state next children waiting asking
      answered taken =>
    have before : Progress.pending
        ⟨state, waiting, (branch, question) ::ₘ asking⟩ =
          branch ::ₘ (waiting + asking.map Prod.fst) := by
      rw [Progress.pending, Multiset.map_cons, Multiset.add_cons]
    cases located : level? branch.path state.tree.toStored with
    | none =>
      rcases ClusterState.absorb_lost taken located with ⟨tree, rfl⟩
      refine .drop tree ?_ (Or.inr located)
      rw [before, Progress.pending, Multiset.coe_nil, zero_add]
    | some inner =>
      rcases ClusterState.absorb_located taken (by rw [located]; rfl)
        with ⟨tree, children_eq, _⟩
      apply Effect.grow (Multiset.mem_cons_self _ _) answered before tree
      rw [Progress.pending, children_eq, add_assoc]

/-- Branches at different locations of a forest with nothing below them. -/
structure Placed (forest : StoredTree) (pending : Multiset Branch) :
    Prop where
  distinct : (pending.map Branch.path).Nodup
  childless : ∀ branch ∈ pending, level? branch.path forest = some .nil

theorem Placed.rest {forest : StoredTree} {branch : Branch}
    {pending : Multiset Branch} (placed : Placed forest (branch ::ₘ pending)) :
    Placed forest pending := by
  rcases placed with ⟨distinct, childless⟩
  rw [Multiset.map_cons, Multiset.nodup_cons] at distinct
  refine ⟨distinct.2, ?_⟩
  intro other member
  exact childless other (Multiset.mem_cons_of_mem member)

theorem exists_of_mem_pending {path : List String} {size : Nat}
    {modules : List NewModule} {child : Branch}
    (member : child ∈ ClusterRules.pending path size modules) :
    ∃ added ∈ modules, child = ⟨path ++ [added.name],
      added.components.names⟩ := by
  rw [ClusterRules.pending, List.mem_map] at member
  rcases member with ⟨added, member, rfl⟩
  exact ⟨added, List.mem_of_mem_filter member, rfl⟩

theorem pending_paths_nodup (path : List String) (size : Nat)
    {modules : List NewModule}
    (apart : (modules.map NewModule.name).Nodup) :
    ((ClusterRules.pending path size modules).map Branch.path).Nodup := by
  have names : ((modules.filter fun added =>
      added.components.size < size).map NewModule.name).Nodup :=
    apart.sublist ((List.filter_sublist).map _)
  have paths := names.map (f := fun name => path ++ [name]) <| by
    intro left right same
    simpa using same
  rw [List.map_map] at paths
  rw [ClusterRules.pending, List.map_map]
  exact paths

/-- Dividing a branch keeps the others in place and places its modules. -/
theorem Placed.grow {forest : StoredTree} {branch : Branch}
    {pending : Multiset Branch} (placed : Placed forest (branch ::ₘ pending))
    (size : Nat) {modules : List NewModule}
    (apart : (modules.map NewModule.name).Nodup) :
    Placed (changeBelow (putAll modules) branch.path forest)
      ((ClusterRules.pending branch.path size modules : Multiset Branch)
        + pending) := by
  rcases placed with ⟨distinct, childless⟩
  rw [Multiset.map_cons, Multiset.nodup_cons] at distinct
  have here := childless branch (Multiset.mem_cons_self branch pending)
  constructor
  · rw [Multiset.map_add, Multiset.nodup_add]
    refine ⟨?_, distinct.2, ?_⟩
    · rw [Multiset.map_coe, Multiset.coe_nodup]
      exact pending_paths_nodup branch.path size apart
    · rw [Multiset.disjoint_left]
      intro path member member'
      rcases Multiset.mem_map.1 member with ⟨child, new, rfl⟩
      rcases Multiset.mem_map.1 member' with ⟨other, old, same⟩
      rcases exists_of_mem_pending (Multiset.mem_coe.1 new) with ⟨added, _, rfl⟩
      have there := childless other (Multiset.mem_cons_of_mem old)
      rw [same, level?_append, here] at there
      simp at there
  · intro other member
    rcases Multiset.mem_add.1 member with new | old
    · rcases exists_of_mem_pending (Multiset.mem_coe.1 new)
        with ⟨added, among, rfl⟩
      rw [level?_changeBelow_self, here, Option.bind_some, level?_putAll,
        if_pos (List.mem_map_of_mem among), level?_root]
    · apply level?_changeBelow_of_childless _ _ here
        (childless other (Multiset.mem_cons_of_mem old))
      intro same
      exact distinct.1 (same ▸ Multiset.mem_map_of_mem _ old)

variable {rules : ClusterRules} {allowed : Question → Answer → Prop}

/-- A step keeps pending branches in place. -/
theorem placed_step
    (apart : ∀ question answer, allowed question answer →
      ((rules.judge answer).1.modules.map NewModule.name).Nodup)
    {first next : Progress} (step : Step rules allowed first next)
    (placed : Placed first.state.tree.toStored first.pending) :
    Placed next.state.tree.toStored next.pending := by
  cases effect_of_step step with
  | keep tree pending =>
    rw [tree, pending]
    exact placed
  | drop tree pending spent =>
    rw [pending] at placed
    rw [tree]
    exact placed.rest
  | grow asked answered before tree after =>
    rw [before] at placed
    rw [tree, after]
    exact placed.grow _ (apart _ _ answered)

/-- What a run begins with is in place. -/
theorem placed_begin (seeds : List String) (resume : Option ModuleTree) :
    Placed (begin seeds resume).state.tree.toStored
      (begin seeds resume).pending := by
  rw [begin]
  cases resume.filter fun tree => !tree.isEmpty with
  | none =>
    constructor
    · simp [Progress.pending]
    · simp [Progress.pending, ClusterState.start, ModuleTree.toStored,
        ModuleTree.empty, Forest.map]
  | some tree =>
    have paths : ((resumable tree : Multiset Branch).map Branch.path) =
        (leaves [] tree.toStored).map Prod.fst := by
      rw [ModuleTree.leaves_toStored, Multiset.map_map, resumable,
        Multiset.map_coe, Multiset.map_coe, List.map_map]
      rfl
    simp only [Progress.pending, Multiset.map_zero, add_zero,
      ClusterState.start]
    constructor
    · rw [paths]
      exact leaves_nodup tree.toStored_ordered []
    · intro branch member
      have among : branch.path ∈ (leaves [] tree.toStored).map Prod.fst :=
        paths ▸ Multiset.mem_map_of_mem _ member
      rcases Multiset.mem_map.1 among with ⟨⟨full, value⟩, leaf, same⟩
      rcases find?_of_mem_leaves tree.toStored_ordered leaf
        with ⟨path, rfl, met⟩
      rw [← same]
      exact level?_of_find? met

/-! ## Roots -/

/-- Nothing is pending above the roots. -/
def Rooted (progress : Progress) : Prop :=
  ∀ branch ∈ progress.pending, branch.path ≠ []

/-- Where nothing is pending above the roots, they stay as they are. -/
theorem roots_step {earlier later : Progress}
    (step : Step rules allowed earlier later) (rooted : Rooted earlier) :
    Rooted later ∧
      later.state.tree.toStored.roots = earlier.state.tree.toStored.roots := by
  cases effect_of_step step with
  | keep tree pending =>
    refine ⟨?_, by rw [tree]⟩
    rw [Rooted, pending]
    exact rooted
  | drop tree pending spent =>
    refine ⟨fun branch member => rooted branch ?_, by rw [tree]⟩
    rw [pending]
    exact Multiset.mem_cons_of_mem member
  | @grow branch question answer rest asked answered before tree after =>
    rw [Rooted, before] at rooted
    constructor
    · intro other member
      rw [after, Multiset.mem_add] at member
      rcases member with new | old
      · rcases exists_of_mem_pending (Multiset.mem_coe.1 new)
          with ⟨added, _, rfl⟩
        simp
      · exact rooted other (Multiset.mem_cons_of_mem old)
    · rw [tree]
      cases path : branch.path with
      | nil => exact absurd path (rooted branch (Multiset.mem_cons_self _ _))
      | cons first path => rw [roots_changeBelow]

theorem roots_schedule {first last : Progress}
    (schedule : Schedule rules allowed first last) (rooted : Rooted first) :
    Rooted last ∧
      last.state.tree.toStored.roots = first.state.tree.toStored.roots := by
  induction schedule with
  | refl => exact ⟨rooted, rfl⟩
  | tail _ step before =>
    rcases before with ⟨rooted, same⟩
    obtain ⟨rooted', same'⟩ := roots_step step rooted
    exact ⟨rooted', same'.trans same⟩

/-- Where the seeds do not fit the budget and an answer that divides them is
allowed, some schedule ends with its modules as roots. -/
theorem exists_ends_divided {seeds : List String} {answer : Answer}
    {modules : List NewModule}
    (large : rules.fits (rules.listing seeds) = false)
    (answered : ∀ question, allowed question answer)
    (divided : (rules.judge answer).1 = .divided modules) :
    ∃ last, Ends rules allowed (begin seeds none) last ∧ Rooted last ∧
      last.state.tree.toStored.roots = (putAll modules .nil).roots := by
  rcases prepared : (ClusterState.start .empty).prepare rules ⟨[], seeds⟩
    with ⟨asked, question⟩
  cases question with
  | none =>
    have small := (ClusterState.prepare_eq_none prepared).1
    rw [large] at small
    exact absurd small (by simp)
  | some question =>
    rcases taken : asked.absorb rules ⟨[], seeds⟩ answer
      with ⟨next, children⟩
    have first : Schedule rules allowed (begin seeds none)
        ⟨next, children, 0⟩ :=
      schedule_of_answered prepared (answered question) taken
    have bare : asked.tree.toStored = .nil := by
      rw [(ClusterState.prepare_eq_some prepared).2.2.1]
      rfl
    have located : level? (Branch.path ⟨[], seeds⟩) asked.tree.toStored =
        some .nil := by
      rw [level?_root, bare]
    rcases ClusterState.absorb_located taken (by rw [located]; rfl)
      with ⟨tree, children_eq, _⟩
    have rooted : Rooted ⟨next, children, 0⟩ := by
      intro branch member
      rw [Progress.pending, Multiset.map_zero, add_zero, Multiset.mem_coe,
        children_eq] at member
      rcases exists_of_mem_pending member with ⟨added, _, rfl⟩
      simp
    rcases exists_ends rules allowed ⟨next, children, 0⟩ with ⟨last, ends⟩
    obtain ⟨rooted', roots⟩ := roots_schedule ends.schedule rooted
    refine ⟨last, ⟨first.trans ends.schedule, ends.stuck⟩, rooted', ?_⟩
    rw [roots, tree, bare, changeBelow_root, divided]
    rfl

end Clustering

end ModuleAtlas
