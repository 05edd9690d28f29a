import ModuleAtlas.Proofs.Clustering.Independence

/-!
# How deep a run goes

Nothing is assumed of the answers here.  They may name components outside a
branch, repeat them, or differ from one call to the next.  A group is taken
further only when it has fewer known components than the branch it comes from,
and a branch without known candidates fits every budget as long as the empty
text counts nothing.  The path of a branch and the number of its known
candidates therefore never exceed, taken together, what the run began with.
-/

namespace ModuleAtlas

/-- How many known components some ids name, each counted once. -/
def ClusterRules.known (rules : ClusterRules) (ids : List String) : Nat :=
  (NameSet.ofList (ids.filter rules.components.contains)).size

namespace Clustering

open Relation Forest StoredTree

section

variable {rules : ClusterRules}

/-- The guard of a division and the listing of the next level count the same
components. -/
theorem size_eq_known (branch : Branch) :
    rules.size branch = rules.known branch.candidates := by
  apply List.Perm.length_eq
  apply (List.perm_ext_iff_of_nodup (Listing.ids_nodup _)
    (NameSet.names_nodup _)).2
  intro id
  rw [NameSet.mem_names, NameSet.mem_ofList, List.mem_filter]
  exact Listing.mem_ids

theorem listing_of_size_zero {branch : Branch}
    (bare : rules.size branch = 0) :
    rules.listing branch.candidates = rules.listing [] := by
  apply Listing.ofCandidates_congr
  intro id known
  have nothing : (rules.listing branch.candidates).ids = [] :=
    List.length_eq_zero_iff.1 bare
  constructor
  · intro member
    have listed : id ∈ (rules.listing branch.candidates).ids :=
      Listing.mem_ids.2 ⟨member, known⟩
    rwa [nothing] at listed
  · exact fun member => absurd member List.not_mem_nil

/-- A branch without known candidates fits every budget. -/
theorem fits_of_size_zero (weightless : rules.count "" = 0)
    {branch : Branch} (bare : rules.size branch = 0) :
    fits rules branch = true := by
  have text : (rules.listing []).withCode = "" := rfl
  rw [fits, listing_of_size_zero bare, ClusterRules.fits, text, weightless]
  simp

end

/-! ## Nested branches -/

/-- A branch comes from another one by some answer to its question. -/
def Spawns (rules : ClusterRules) (branch child : Branch) : Prop :=
  ∃ (state : ClusterState) (answer : Answer),
    child ∈ (state.absorb rules branch answer).2

theorem known_lt_of_spawns {rules : ClusterRules} {branch child : Branch}
    (spawns : Spawns rules branch child) :
    rules.known child.candidates < rules.known branch.candidates := by
  rcases spawns with ⟨state, answer, member⟩
  rw [← size_eq_known, ← size_eq_known]
  exact size_lt_of_mem_absorb rfl member

theorem known_lt_of_nested {rules : ClusterRules} {branch child : Branch}
    (nested : TransGen (Spawns rules) branch child) :
    rules.known child.candidates < rules.known branch.candidates := by
  induction nested with
  | single spawns => exact known_lt_of_spawns spawns
  | tail _ spawns shorter =>
    exact (known_lt_of_spawns spawns).trans shorter

/-! ## The depth of the run that examines one branch after another -/

theorem foldlM_congr {m : Type → Type} [Monad m] {α β : Type}
    {left right : α → β → m α} {items : List β}
    (agree : ∀ item ∈ items, ∀ start, left start item = right start item)
    (start : α) : items.foldlM left start = items.foldlM right start := by
  induction items generalizing start with
  | nil => rfl
  | cons item rest step =>
    rw [List.foldlM_cons, List.foldlM_cons, agree item List.mem_cons_self]
    congr
    funext next
    exact step (fun other member =>
      agree other (List.mem_cons_of_mem _ member)) next

/-- The depth to which a branch is explored does not matter once it exceeds
the number of its known candidates, whatever effects the service has. -/
theorem explore_of_deep {m : Type → Type} [Monad m] [LawfulMonad m]
    (rules : ClusterRules) (oracle : Oracle m) {depth depth' : Nat}
    {branch : Branch} (deep : rules.known branch.candidates < depth)
    (deep' : rules.known branch.candidates < depth') (state : ClusterState) :
    ClusterState.explore rules oracle depth branch state =
      ClusterState.explore rules oracle depth' branch state := by
  induction depth generalizing depth' branch state with
  | zero => exact absurd deep (Nat.not_lt_zero _)
  | succ depth below =>
    cases depth' with
    | zero => exact absurd deep' (Nat.not_lt_zero _)
    | succ depth' =>
      rw [ClusterState.explore, ClusterState.explore, ClusterState.examine]
      rcases state.prepare rules branch with ⟨next, question⟩
      cases question with
      | none => simp
      | some question =>
        simp only [bind_assoc, pure_bind]
        congr
        funext answer
        apply foldlM_congr
        intro child member start
        have fewer := known_lt_of_spawns ⟨next, answer, member⟩
        exact below (by omega) (by omega) start

/-! ## What a run began with -/

/-- A path lies at or below an origin, and with what is left there it is no
longer than the origin with its known candidates. -/
def Below (rules : ClusterRules) (origins : Multiset Branch)
    (path : List String) (left : Nat) : Prop :=
  ∃ origin ∈ origins, origin.path <+: path ∧
    path.length + left ≤ origin.path.length + rules.size origin

/-- Pending branches lie below the origins, and so does every module that was
not there at first. -/
structure Shallow (rules : ClusterRules) (origins : Multiset Branch)
    (first : StoredTree) (progress : Progress) : Prop where
  pending : ∀ branch ∈ progress.pending,
    Below rules origins branch.path (rules.size branch)
  large : ∀ entry ∈ progress.asking, fits rules entry.1 = false
  modules : ∀ row ∈ rows [] progress.state.tree.toStored,
    row ∈ rows [] first ∨ Below rules origins row.1 0

theorem Below.child {rules : ClusterRules} {origins : Multiset Branch}
    {path : List String} {size : Nat} (below : Below rules origins path size)
    {left : Nat} (fewer : left < size) (name : String) :
    Below rules origins (path ++ [name]) left := by
  rcases below with ⟨origin, among, above, bound⟩
  refine ⟨origin, among, above.trans (List.prefix_append _ _), ?_⟩
  rw [List.length_append, List.length_singleton]
  omega

theorem shallow_begin (rules : ClusterRules) (seeds : List String)
    (resume : Option ModuleTree) :
    Shallow rules (begin seeds resume).pending
      (begin seeds resume).state.tree.toStored (begin seeds resume) := by
  refine ⟨?_, ?_, fun row member => Or.inl member⟩
  · intro branch member
    exact ⟨branch, member, List.prefix_rfl, le_rfl⟩
  · exact (sound_begin seeds resume).large

theorem shallow_step {rules : ClusterRules}
    {allowed : Question → Answer → Prop} (weightless : rules.count "" = 0)
    {origins : Multiset Branch} {first : StoredTree}
    {earlier later : Progress} (step : Step rules allowed earlier later)
    (shallow : Shallow rules origins first earlier) :
    Shallow rules origins first later := by
  rcases shallow with ⟨pending, large, modules⟩
  have asking : ∀ entry ∈ later.asking, fits rules entry.1 = false :=
    asking_step step
      (fun _ prepared => (ClusterState.prepare_eq_some prepared).1) large
  cases effect_of_step step with
  | keep tree same =>
    refine ⟨?_, asking, ?_⟩
    · rw [same]
      exact pending
    · rw [tree]
      exact modules
  | drop tree before spent =>
    refine ⟨?_, asking, ?_⟩
    · intro branch member
      apply pending
      rw [before]
      exact Multiset.mem_cons_of_mem member
    · rw [tree]
      exact modules
  | @grow branch question answer rest asked answered before tree after =>
    rw [before] at pending
    have here := pending branch (Multiset.mem_cons_self _ _)
    have filled : 0 < rules.size branch := by
      apply Nat.pos_of_ne_zero
      intro bare
      have small := fits_of_size_zero weightless bare
      rw [large _ asked] at small
      exact absurd small (by simp)
    refine ⟨?_, asking, ?_⟩
    · intro other member
      rw [after] at member
      rcases Multiset.mem_add.1 member with new | old
      · rw [Multiset.mem_coe] at new
        have fewer : rules.size other < rules.size branch :=
          size_lt_of_mem_pending new
        rcases exists_of_mem_pending new with ⟨added, _, rfl⟩
        exact here.child fewer added.name
      · exact pending other (Multiset.mem_cons_of_mem old)
    · intro row member
      rw [tree] at member
      rcases mem_rows_changeBelow member with old | ⟨inner, located, new⟩
      · exact modules row old
      · rcases mem_rows_putAll new with ⟨added, _, rfl⟩ | old
        · exact Or.inr (here.child filled added.name)
        · exact modules row (rows_level? located [] old)

theorem shallow_schedule {rules : ClusterRules}
    {allowed : Question → Answer → Prop} (weightless : rules.count "" = 0)
    {seeds : List String} {resume : Option ModuleTree} {last : Progress}
    (schedule : Schedule rules allowed (begin seeds resume) last) :
    Shallow rules (begin seeds resume).pending
      (begin seeds resume).state.tree.toStored last := by
  induction schedule with
  | refl => exact shallow_begin rules seeds resume
  | tail _ step shallow => exact shallow_step weightless step shallow

/-! ## Lengths of paths -/

theorem length_path_le_of_fresh {rules : ClusterRules}
    {allowed : Question → Answer → Prop} (weightless : rules.count "" = 0)
    {seeds : List String} {last : Progress}
    (schedule : Schedule rules allowed (begin seeds none) last)
    {entry : Entry Module} (member : entry ∈ last.state.tree.modules) :
    entry.path.length ≤ rules.known seeds := by
  have row := ModuleTree.mem_rows_toStored.2 ⟨entry, member, rfl, rfl⟩
  rcases (shallow_schedule weightless schedule).modules _ row
    with old | ⟨origin, among, _, bound⟩
  · simp [begin, ClusterState.start, ModuleTree.toStored, ModuleTree.empty,
      Forest.map, rows] at old
  · simp only [begin, Option.filter_none, Progress.pending,
      Multiset.map_zero, add_zero, Multiset.mem_singleton] at among
    subst among
    rw [size_eq_known] at bound
    simpa using bound

/-- What is below a leaf of a tree in the tree itself is the leaf. -/
theorem eq_of_leaf_above {tree : ModuleTree} {leaf entry : Entry Module}
    (leafMember : leaf ∈ tree.leafModules) (member : entry ∈ tree.modules)
    (above : leaf.path <+: entry.path) :
    entry.path = leaf.path ∧ entry.value.stored = leaf.value.stored := by
  have row := ModuleTree.mem_rows_toStored.2 ⟨entry, member, rfl, rfl⟩
  rcases above with ⟨rest, same⟩
  cases rest with
  | nil =>
    rw [List.append_nil] at same
    have leafRow := ModuleTree.mem_rows_toStored.2
      ⟨leaf, (List.mem_filter.1 leafMember).1, rfl, rfl⟩
    rw [← same, mem_rows_nil tree.toStored_ordered] at row
    rw [mem_rows_nil tree.toStored_ordered, row, Option.some.injEq] at leafRow
    exact ⟨same.symm, leafRow⟩
  | cons first rest =>
    rw [← same] at row
    have childless := level?_of_find?
      (ModuleTree.exists_leafModule_iff.1 ⟨leaf, leafMember, rfl, rfl⟩)
    exact absurd row (not_mem_rows_of_childless tree.toStored_ordered
      childless first rest _)

theorem length_path_le_of_resumed {rules : ClusterRules}
    {allowed : Question → Answer → Prop} (weightless : rules.count "" = 0)
    {seeds : List String} {tree : ModuleTree} {last : Progress}
    (schedule : Schedule rules allowed (begin seeds (some tree)) last)
    {leaf entry : Entry Module} (leafMember : leaf ∈ tree.leafModules)
    (member : entry ∈ last.state.tree.modules)
    (above : leaf.path <+: entry.path) :
    entry.path.length ≤
      leaf.path.length + rules.known leaf.value.components.names := by
  have shallow := shallow_schedule weightless schedule
  rw [begin_of_filled seeds (ModuleTree.isEmpty_of_leaf leafMember)]
    at shallow
  have row := ModuleTree.mem_rows_toStored.2 ⟨entry, member, rfl, rfl⟩
  rcases shallow.modules _ row with old | ⟨origin, among, below, bound⟩
  · rcases ModuleTree.mem_rows_toStored.1 old with ⟨former, inside, same, _⟩
    rw [← same] at above
    rw [← same, (eq_of_leaf_above leafMember inside above).1]
    exact Nat.le_add_right _ _
  · rw [Progress.pending, Multiset.map_zero, add_zero, Multiset.mem_coe,
      resumable, List.mem_map] at among
    rcases among with ⟨other, otherMember, rfl⟩
    have inside : ∀ {entry}, entry ∈ tree.leafModules →
        entry ∈ tree.modules := fun member => (List.mem_filter.1 member).1
    -- both leaves are above one path, so that one is above the other
    have same : other.path = leaf.path ∧
        other.value.stored = leaf.value.stored := by
      rcases List.prefix_or_prefix_of_prefix above below with first | first
      · exact eq_of_leaf_above leafMember (inside otherMember) first
      · have reverse := eq_of_leaf_above otherMember (inside leafMember) first
        exact ⟨reverse.1.symm, reverse.2.symm⟩
    have components : other.value.components.names =
        leaf.value.components.names :=
      congrArg StoredModule.components same.2
    rw [size_eq_known, same.1, components] at bound
    simpa using bound

/-- Whatever the answers are, no schedule goes on for ever, nested branches
have fewer and fewer known candidates, and paths stay as short as there are
known seeds, or known components of the leaf that a run was taken up from.
The run that examines one branch after another never stops for its depth. -/
theorem run_depth_bounded (rules : ClusterRules)
    (weightless : rules.count "" = 0)
    (allowed : Question → Answer → Prop) (seeds : List String) :
    (∀ resume, Acc (fun next first => Step rules allowed first next)
      (begin seeds resume)) ∧
    (∀ branch child, TransGen (Spawns rules) branch child →
      rules.known child.candidates < rules.known branch.candidates) ∧
    (∀ last, Schedule rules allowed (begin seeds none) last →
      ∀ entry ∈ last.state.tree.modules,
        entry.path.length ≤ rules.known seeds) ∧
    (∀ tree last, Schedule rules allowed (begin seeds (some tree)) last →
      ∀ leaf ∈ tree.leafModules, ∀ entry ∈ last.state.tree.modules,
        leaf.path <+: entry.path →
        entry.path.length ≤
          leaf.path.length + rules.known leaf.value.components.names) ∧
    ∀ (m : Type → Type) [Monad m] [LawfulMonad m] (oracle : Oracle m)
      (branch : Branch) (state : ClusterState) (depth : Nat),
      rules.known branch.candidates < depth →
      ClusterState.explore rules oracle depth branch state =
        ClusterState.explore rules oracle
          (rules.known branch.candidates + 1) branch state := by
  refine ⟨?_, ?_, ?_, ?_, ?_⟩
  · exact fun resume => (step_wellFounded rules allowed).apply _
  · exact fun branch child => known_lt_of_nested
  · exact fun last schedule entry => length_path_le_of_fresh weightless schedule
  · intro tree last schedule leaf leafMember entry member
    exact length_path_le_of_resumed weightless schedule leafMember member
  · intro m _ _ oracle branch state depth deep
    exact explore_of_deep rules oracle deep (Nat.lt_succ_self _) state

/-- Three functions, counted by the length of their listing, and a service
that may answer anything. -/
theorem run_depth_bounded_sample :
    Sample.rules.count "" = 0 ∧
    (∀ resume, Acc (fun next first =>
        Step Sample.rules (fun _ _ => True) first next)
      (begin ["a", "b", "c"] resume)) ∧
    (∀ branch child, TransGen (Spawns Sample.rules) branch child →
      Sample.rules.known child.candidates <
        Sample.rules.known branch.candidates) ∧
    (∀ last, Schedule Sample.rules (fun _ _ => True)
        (begin ["a", "b", "c"] none) last →
      ∀ entry ∈ last.state.tree.modules, entry.path.length ≤ 3) ∧
    (∀ tree last, Schedule Sample.rules (fun _ _ => True)
        (begin ["a", "b", "c"] (some tree)) last →
      ∀ leaf ∈ tree.leafModules, ∀ entry ∈ last.state.tree.modules,
        leaf.path <+: entry.path →
        entry.path.length ≤ leaf.path.length
          + Sample.rules.known leaf.value.components.names) ∧
    ∀ (m : Type → Type) [Monad m] [LawfulMonad m] (oracle : Oracle m)
      (branch : Branch) (state : ClusterState) (depth : Nat),
      Sample.rules.known branch.candidates < depth →
      ClusterState.explore Sample.rules oracle depth branch state =
        ClusterState.explore Sample.rules oracle
          (Sample.rules.known branch.candidates + 1) branch state := by
  have weightless : Sample.rules.count "" = 0 := rfl
  have three : Sample.rules.known ["a", "b", "c"] = 3 := by decide
  have bounded := run_depth_bounded Sample.rules weightless
    (fun _ _ => True) ["a", "b", "c"]
  rw [three] at bounded
  exact ⟨weightless, bounded⟩

end Clustering

end ModuleAtlas
