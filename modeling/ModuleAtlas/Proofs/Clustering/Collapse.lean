import ModuleAtlas.Proofs.Clustering.Independence
import ModuleAtlas.Proofs.Module.Siblings

/-!
# Replies that collapse

A reply with fewer than two usable groups divides nothing, so that a divided
set should have at least two modules.  The groups are counted before their
modules are put into the tree by name, however: groups whose names differ in
blanks only are two groups and leave one module.  A fresh run is certain to
leave no module alone on its level exactly when its seeds fit the budget or
no answer collapses in this way.
-/

namespace ModuleAtlas

namespace Clustering

open Forest StoredTree

/-- An answer divides a set into modules that all have one name. -/
def Collapses (rules : ClusterRules) (answer : Answer) : Prop :=
  ∃ modules name, (rules.judge answer).1 = .divided modules ∧
    ∀ added ∈ modules, added.name = name

variable {rules : ClusterRules} {allowed : Question → Answer → Prop}

theorem exists_names_ne {answer : Answer} {modules : List NewModule}
    (divided : (rules.judge answer).1 = .divided modules)
    (sane : ¬ Collapses rules answer) :
    ∃ left ∈ modules, ∃ right ∈ modules, left.name ≠ right.name := by
  rcases ClusterRules.judge_eq_divided divided with ⟨_, _, _, _, _, many⟩
  cases modules with
  | nil => simp at many
  | cons left rest =>
    refine ⟨left, List.mem_cons_self, ?_⟩
    by_contra none
    apply sane
    refine ⟨left :: rest, left.name, divided, ?_⟩
    intro right member
    by_contra different
    exact none ⟨right, member, fun same => different same.symm⟩

/-- Without collapsing answers no step leaves a module alone. -/
theorem noneAlone_step
    (sane : ∀ question answer, allowed question answer →
      ¬ Collapses rules answer)
    {first next : Progress} (step : Step rules allowed first next)
    (fine : first.state.tree.NoneAlone) : next.state.tree.NoneAlone := by
  cases effect_of_step step with
  | keep tree pending =>
    rw [tree]
    exact fine
  | drop tree pending spent =>
    rw [tree]
    exact fine
  | @grow branch question answer rest asked answered before tree after =>
    rw [ModuleTree.noneAlone_iff_toStored] at fine ⊢
    rw [tree]
    apply fine.changeBelow
    intro level whole
    rcases ClusterRules.judge_modules_cases rules answer
      with undivided | ⟨modules, divided⟩
    · rw [undivided]
      exact whole
    · rcases exists_names_ne divided (sane question answer answered)
        with ⟨left, member, right, member', different⟩
      rw [divided]
      exact noneAlone_putAll member member' different whole

theorem noneAlone_schedule
    (sane : ∀ question answer, allowed question answer →
      ¬ Collapses rules answer)
    {seeds : List String} {last : Progress}
    (schedule : Schedule rules allowed (begin seeds none) last) :
    last.state.tree.NoneAlone := by
  induction schedule with
  | refl => exact ⟨Or.inl rfl, fun entry member => absurd member (by simp [
      begin, ClusterState.start, ModuleTree.modules, ModuleTree.empty,
      preorder])⟩
  | tail _ step fine => exact noneAlone_step sane step fine

/-- Nothing is put into the tree when the seeds fit the budget. -/
theorem tree_of_seeds_fit {seeds : List String}
    (small : rules.fits (rules.listing seeds) = true) {last : Progress}
    (schedule : Schedule rules allowed (begin seeds none) last) :
    last.state.tree = .empty ∧ last.asking = 0 ∧
      ∀ branch ∈ last.waiting,
        rules.fits (rules.listing branch.candidates) = true := by
  induction schedule with
  | refl =>
    refine ⟨rfl, rfl, ?_⟩
    intro branch member
    rw [begin] at member
    rw [Multiset.mem_singleton.1 member]
    exact small
  | tail _ step before =>
    rcases before with ⟨tree, asking, fit⟩
    cases step with
    | settle fits =>
      refine ⟨?_, asking, ?_⟩
      · rw [(ClusterState.prepare_eq_none fits).2.1]
        exact tree
      · intro branch member
        exact fit branch (Multiset.mem_cons_of_mem member)
    | ask asked =>
      have large := (ClusterState.prepare_eq_some asked).1
      rw [fit _ (Multiset.mem_cons_self _ _)] at large
      exact absurd large (by simp)
    | absorb answered taken => exact absurd asking Multiset.cons_ne_zero

/-! ## A collapse at the root -/

/-- One root module, and nothing pending above it. -/
structure Lone (progress : Progress) : Prop where
  root : progress.state.tree.toStored.roots.length = 1
  below : Rooted progress

/-- Where a collapsing answer is allowed and the seeds do not fit the budget,
some schedule ends with a single root module. -/
theorem exists_ends_lone {seeds : List String} {answer : Answer}
    (large : rules.fits (rules.listing seeds) = false)
    (answered : ∀ question, allowed question answer)
    (collapses : Collapses rules answer) :
    ∃ last, Ends rules allowed (begin seeds none) last ∧ Lone last := by
  rcases collapses with ⟨modules, name, divided, same⟩
  rcases ClusterRules.judge_eq_divided divided with ⟨_, _, _, _, _, many⟩
  rcases exists_ends_divided large answered divided
    with ⟨last, ends, below, roots⟩
  refine ⟨last, ends, ?_, below⟩
  rw [roots, ← List.length_map Prod.fst,
    names_putAll_collapsed (by rintro rfl; simp at many) same]
  rfl

theorem Lone.not_noneAlone {progress : Progress} (lone : Lone progress) :
    ¬ progress.state.tree.NoneAlone := by
  intro fine
  exact (progress.state.tree.noneAlone_iff_toStored.1 fine).top lone.root

/-- A fresh run leaves no module alone on its level, whichever allowed answer
each of its questions gets, exactly when its seeds fit the budget or no
allowed answer collapses. -/
theorem noneAlone_iff_no_collapse (rules : ClusterRules)
    (seeds : List String) (allowed : Answer → Prop) :
    (∀ last, Ends rules (fun _ answer => allowed answer)
        (begin seeds none) last → last.state.tree.NoneAlone) ↔
      rules.fits (rules.listing seeds) = true ∨
        ∀ answer, allowed answer → ¬ Collapses rules answer := by
  constructor
  · intro fine
    by_contra neither
    rw [not_or] at neither
    rcases neither with ⟨large, possible⟩
    apply possible
    intro answer answered collapses
    obtain ⟨last, ends, lone⟩ : ∃ last, Ends rules
        (fun _ answer => allowed answer) (begin seeds none) last ∧
          Lone last :=
      exists_ends_lone (by simpa using large) (fun _ => answered) collapses
    exact lone.not_noneAlone (fine last ends)
  · rintro (small | sane) last ends
    · rw [(tree_of_seeds_fit small ends.schedule).1]
      exact ⟨Or.inl rfl, fun entry member => absurd member (by simp [
        ModuleTree.modules, ModuleTree.empty, preorder])⟩
    · exact noneAlone_schedule (fun _ answer => sane answer) ends.schedule

namespace Sample

/-- A reply with two groups whose names differ in a blank. -/
def collision : String :=
  "<GROUPED_COMPONENTS>\x7b" ++
  "'m': \x7b'components': ['a']\x7d, 'm ': \x7b'components': ['b']\x7d" ++
  "\x7d</GROUPED_COMPONENTS>"

theorem collapses_collision : Collapses Sample.rules (.ok collision) := by
  refine ⟨[⟨"m", "", ⟨["a"], by simp⟩⟩, ⟨"m", "", ⟨["b"], by simp⟩⟩], "m",
    ?_, by simp⟩
  cbv

theorem listing_large :
    Sample.rules.fits (Sample.rules.listing ["a", "b"]) = false := by
  cbv

end Sample

/-- Two functions that do not fit the budget together, divided by names that
differ in a blank, end up as one root module. -/
theorem collision_leaves_lone_root :
    ∃ last, Ends Sample.rules (Answers fun _ => .ok Sample.collision)
        (begin ["a", "b"] none) last ∧
      last.state.tree.roots.length = 1 ∧ ¬ last.state.tree.NoneAlone := by
  obtain ⟨last, ends, lone⟩ : ∃ last, Ends Sample.rules
      (Answers fun _ => .ok Sample.collision) (begin ["a", "b"] none) last ∧
        Lone last :=
    exists_ends_lone Sample.listing_large (fun _ => rfl)
      Sample.collapses_collision
  refine ⟨last, ends, ?_, lone.not_noneAlone⟩
  have root := lone.root
  rw [ModuleTree.toStored, roots_map, List.length_map] at root
  rw [ModuleTree.roots, List.length_map]
  exact root

end Clustering

end ModuleAtlas
