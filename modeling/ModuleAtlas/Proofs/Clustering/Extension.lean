import ModuleAtlas.Proofs.Clustering.Independence
import ModuleAtlas.Proofs.Clustering.Placement

/-!
# What a resumed run keeps

A run that takes up a tree begins with its leaf modules, and what comes from
them lies below them.  So new modules are put below former leaves only: every
module of the tree stays where it is, with its description and its components,
and every module that had children has no others later.

Nothing is assumed of the answers.  They may name two groups alike, so that one
new module replaces another, but no module of the tree that was taken up is ever
on the level that changes.
-/

namespace ModuleAtlas

namespace Clustering

open Relation Forest StoredTree

/-- A path lies at a leaf of a forest or below it. -/
def UnderLeaf (first : StoredTree) (path : List String) : Prop :=
  ∃ leaf value, find? leaf first = some (value, .nil) ∧ leaf <+: path

/-- A forest has grown below the leaves of an earlier one only. -/
structure Extends (first later : StoredTree) : Prop where
  kept : ∀ {path value children},
    find? path first = some (value, children) →
    ∃ grown, find? path later = some (value, grown) ∧
      (children ≠ .nil →
        grown.roots.map Prod.fst = children.roots.map Prod.fst)
  added : ∀ row ∈ rows [] later, row ∈ rows [] first ∨
    ∃ leaf value, find? leaf first = some (value, .nil) ∧
      leaf <+: row.1 ∧ leaf ≠ row.1

theorem UnderLeaf.append {first : StoredTree} {path : List String}
    (under : UnderLeaf first path) (below : List String) :
    UnderLeaf first (path ++ below) := by
  rcases under with ⟨leaf, value, met, above⟩
  exact ⟨leaf, value, met, above.trans (List.prefix_append _ _)⟩

/-- What is found at a leaf or below it is the leaf. -/
theorem eq_leaf_of_found {first children : StoredTree}
    {leaf path : List String} {former value : StoredModule}
    (bare : find? leaf first = some (former, .nil)) (above : leaf <+: path)
    (met : find? path first = some (value, children)) :
    path = leaf ∧ children = .nil := by
  rcases above with ⟨rest, rfl⟩
  cases rest with
  | nil =>
    rw [List.append_nil, bare, Option.some.injEq, Prod.mk.injEq] at met
    exact ⟨List.append_nil leaf, met.2.symm⟩
  | cons next rest =>
    rw [find?_append, level?_of_find? bare] at met
    simp at met

theorem Extends.refl (first : StoredTree) : Extends first first :=
  ⟨fun met => ⟨_, met, fun _ => rfl⟩, fun _ member => Or.inl member⟩

/-- Putting modules below a former leaf, or below what has grown there, keeps
what was there at first. -/
theorem Extends.divide {first later : StoredTree}
    (earlier : Extends first later) {path : List String}
    (under : UnderLeaf first path) (modules : List NewModule) :
    Extends first (changeBelow (putAll modules) path later) := by
  constructor
  · intro other value children met
    rcases earlier.kept met with ⟨grown, met', names⟩
    have nonempty : other ≠ [] := by
      rintro rfl
      simp at met
    rcases under with ⟨leaf, former, bare, front⟩
    by_cases above : other <+: path
    · rcases above with ⟨rest, rfl⟩
      refine ⟨changeBelow (putAll modules) rest grown, ?_, fun filled => ?_⟩
      · rw [find?_changeBelow_above _ nonempty, met']
        rfl
      · cases rest with
        | nil =>
          rw [List.append_nil] at front
          exact absurd (eq_leaf_of_found bare front met).2 filled
        | cons next rest => rw [roots_changeBelow, names filled]
    · -- a module below the change would be below the leaf
      have apart : ¬ path <+: other := by
        intro below
        obtain ⟨rfl, _⟩ := eq_leaf_of_found bare (front.trans below) met
        exact above front
      refine ⟨grown, ?_, names⟩
      rw [find?_changeBelow_of_apart _ apart above, met']
  · intro row member
    rcases mem_rows_changeBelow member with old | ⟨inner, located, new⟩
    · exact earlier.added row old
    · rcases mem_rows_putAll new with ⟨added, _, rfl⟩ | old
      · rcases under with ⟨leaf, value, met, above⟩
        refine Or.inr ⟨leaf, value, met, ?_, ?_⟩
        · exact above.trans (List.prefix_append _ _)
        · intro same
          have longer := above.length_le
          rw [same, NewModule.row] at longer
          simp at longer
      · exact earlier.added row (rows_level? located [] old)

/-- A run under way has grown below the leaves of the tree it took up, and goes
on there. -/
structure Resuming (first : StoredTree) (progress : Progress) : Prop where
  grown : Extends first progress.state.tree.toStored
  pending : ∀ branch ∈ progress.pending, UnderLeaf first branch.path

variable {rules : ClusterRules} {allowed : Question → Answer → Prop}

theorem resuming_step {first : StoredTree} {earlier later : Progress}
    (step : Step rules allowed earlier later)
    (resuming : Resuming first earlier) : Resuming first later := by
  rcases resuming with ⟨grown, pending⟩
  cases effect_of_step step with
  | keep tree same =>
    refine ⟨by rwa [tree], ?_⟩
    rw [same]
    exact pending
  | drop tree before spent =>
    refine ⟨by rwa [tree], fun branch member => pending branch ?_⟩
    rw [before]
    exact Multiset.mem_cons_of_mem member
  | @grow branch question answer rest asked answered before tree after =>
    rw [before] at pending
    have here := pending branch (Multiset.mem_cons_self _ _)
    constructor
    · rw [tree]
      exact grown.divide here _
    · intro other member
      rw [after] at member
      rcases Multiset.mem_add.1 member with new | old
      · rcases exists_of_mem_pending (Multiset.mem_coe.1 new)
          with ⟨added, _, rfl⟩
        exact here.append [added.name]
      · exact pending other (Multiset.mem_cons_of_mem old)

theorem resuming_begin (seeds : List String) {tree : ModuleTree}
    (filled : tree.isEmpty = false) :
    Resuming tree.toStored (begin seeds (some tree)) := by
  rw [begin_of_filled seeds filled]
  refine ⟨Extends.refl _, fun branch member => ?_⟩
  rw [Progress.pending, Multiset.map_zero, add_zero, Multiset.mem_coe,
    resumable, List.mem_map] at member
  rcases member with ⟨leaf, among, rfl⟩
  exact ⟨leaf.path, _, ModuleTree.exists_leafModule_iff.1 ⟨leaf, among, rfl, rfl⟩,
    List.prefix_rfl⟩

theorem resuming_schedule {seeds : List String} {tree : ModuleTree}
    (filled : tree.isEmpty = false) {last : Progress}
    (schedule : Schedule rules allowed (begin seeds (some tree)) last) :
    Resuming tree.toStored last := by
  induction schedule with
  | refl => exact resuming_begin seeds filled
  | tail _ step resuming => exact resuming_step step resuming

/-! ## Trees taken further -/

/-- A tree holds all modules of another one, and new ones below the leaves of
that one only. -/
structure TakenFurther (first later : ModuleTree) : Prop where
  kept : ∀ entry ∈ first.modules, ∃ kept ∈ later.modules,
    kept.path = entry.path ∧
    kept.value.description = entry.value.description ∧
    kept.value.components = entry.value.components ∧
    (entry.isLeaf = false →
      kept.children.roots.map Prod.fst =
        entry.children.roots.map Prod.fst)
  added : ∀ entry ∈ later.modules,
    (∃ former ∈ first.modules, former.path = entry.path) ∨
    ∃ leaf ∈ first.leafModules,
      leaf.path <+: entry.path ∧ leaf.path ≠ entry.path

theorem takenFurther_of_extends {first later : ModuleTree}
    (extension : Extends first.toStored later.toStored) :
    TakenFurther first later := by
  constructor
  · intro entry member
    have met := ModuleTree.find?_toStored.2 ⟨entry, member, rfl, rfl, rfl⟩
    rcases extension.kept met with ⟨grown, met', names⟩
    rcases ModuleTree.find?_toStored.1 met' with ⟨kept, among, path, same, rfl⟩
    obtain ⟨description, components⟩ := StoredModule.mk.inj same
    refine ⟨kept, among, path, description, ?_, fun filled => ?_⟩
    · exact NameSet.names_inj.1 components
    · have nonempty : entry.children.map Module.stored ≠ .nil := by
        rw [Ne, Forest.map_eq_nil, ← Forest.isEmpty_iff]
        exact Bool.eq_false_iff.1 filled
      simpa [roots_map, Function.comp_def] using names nonempty
  · intro entry member
    have row := ModuleTree.mem_rows_toStored.2 ⟨entry, member, rfl, rfl⟩
    rcases extension.added _ row with old | ⟨path, value, met, above, apart⟩
    · rcases ModuleTree.mem_rows_toStored.1 old with ⟨former, among, same, _⟩
      exact Or.inl ⟨former, among, same⟩
    · rcases ModuleTree.exists_leafModule_iff.2 met with ⟨leaf, among, rfl, _⟩
      exact Or.inr ⟨leaf, among, above, apart⟩

/-- A run that takes up a tree comes to an end, however its questions are
answered and in whichever order, and never does more than to take the tree
further. -/
theorem resume_extends (rules : ClusterRules)
    (allowed : Question → Answer → Prop) (seeds : List String)
    {tree : ModuleTree} (filled : tree.isEmpty = false) :
    Acc (fun next first => Step rules allowed first next)
        (begin seeds (some tree)) ∧
      (∀ (Memory : Type) (oracle : Oracle (StateM Memory)) (memory : Memory),
        Ends rules (Returns oracle) (begin seeds (some tree))
          ⟨remembered rules oracle seeds (some tree) memory, 0, 0⟩) ∧
      ∀ last, Schedule rules allowed (begin seeds (some tree)) last →
        TakenFurther tree last.state.tree := by
  refine ⟨(step_wellFounded rules allowed).apply _, ?_, ?_⟩
  · intro Memory oracle memory
    exact remembered_ends rules oracle seeds (some tree) memory
  · intro last schedule
    exact takenFurther_of_extends (resuming_schedule filled schedule).grown

namespace Sample

/-- Three functions in two modules, one of which is divided and holds an id
that is not known. -/
def begun : ModuleTree :=
  .ofStored (.node "x" ⟨"", ["a", "b", "d"]⟩
    (.node "p" ⟨"", ["a"]⟩ .nil (.node "q" ⟨"", ["b"]⟩ .nil .nil))
    (.node "y" ⟨"", ["c"]⟩ .nil .nil))

end Sample

/-- Any answers to a run on a tree of four modules. -/
theorem resume_extends_sample :
    Sample.begun.isEmpty = false ∧
      Acc (fun next first =>
          Step Sample.rules (fun _ _ => True) first next)
        (begin ["a", "b", "c"] (some Sample.begun)) ∧
      (∀ (Memory : Type) (oracle : Oracle (StateM Memory)) (memory : Memory),
        Ends Sample.rules (Returns oracle)
          (begin ["a", "b", "c"] (some Sample.begun))
          ⟨remembered Sample.rules oracle ["a", "b", "c"]
            (some Sample.begun) memory, 0, 0⟩) ∧
      ∀ last, Schedule Sample.rules (fun _ _ => True)
          (begin ["a", "b", "c"] (some Sample.begun)) last →
        TakenFurther Sample.begun last.state.tree := by
  have filled : Sample.begun.isEmpty = false := by cbv
  exact ⟨filled,
    resume_extends Sample.rules (fun _ _ => True) ["a", "b", "c"] filled⟩

end Clustering

end ModuleAtlas
