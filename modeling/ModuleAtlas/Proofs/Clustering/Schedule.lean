import Mathlib.Logic.Hydra
import Mathlib.Tactic.Abel
import ModuleAtlas.Clustering.Run
import ModuleAtlas.Proofs.Listing

/-!
# Schedules of a clustering run

The branches of a clustering run may be examined in any order, and several
questions may be open at the same time.  The progress of a run is its state
together with the branches that wait and the branches that were asked about.
A step settles a waiting branch that fits the budget, asks about a waiting
branch that does not fit, or takes in the answer to an open question.

Every schedule comes to an end, because the branches that come from an answer
have fewer known candidates than the branch that was asked about.
-/

namespace ModuleAtlas

namespace Clustering

open Relation

/-- A run under way. -/
structure Progress where
  state : ClusterState
  /-- The branches that nobody looked at yet. -/
  waiting : Multiset Branch
  /-- The branches that were asked about, with their questions. -/
  asking : Multiset (Branch × Question)

namespace Progress

/-- Whether nothing is left to do. -/
def IsOver (progress : Progress) : Prop :=
  progress.waiting = 0 ∧ progress.asking = 0

/-- The branches that are not done yet. -/
def pending (progress : Progress) : Multiset Branch :=
  progress.waiting + progress.asking.map Prod.fst

theorem IsOver.pending_eq_zero {progress : Progress}
    (ended : progress.IsOver) : progress.pending = 0 := by
  rw [pending, ended.1, ended.2, Multiset.map_zero, add_zero]

end Progress

/-- The progress before anything was examined. -/
def begin (seeds : List String) (resume : Option ModuleTree) : Progress :=
  match resume.filter fun tree => !tree.isEmpty with
  | some tree => ⟨.start tree, resumable tree, 0⟩
  | none => ⟨.start .empty, {⟨[], seeds⟩}, 0⟩

/-- A run that takes up a tree with modules begins with its leaves. -/
theorem begin_of_filled (seeds : List String) {tree : ModuleTree}
    (filled : tree.isEmpty = false) :
    begin seeds (some tree) = ⟨.start tree, resumable tree, 0⟩ := by
  rw [begin, Option.filter_some, filled]
  rfl

/-- A run that takes up an empty tree begins afresh. -/
theorem begin_of_isEmpty (seeds : List String) {tree : ModuleTree}
    (bare : tree.isEmpty = true) :
    begin seeds (some tree) = begin seeds none := by
  rw [begin, Option.filter_some, bare]
  rfl

theorem begin_asking (seeds : List String) (resume : Option ModuleTree) :
    (begin seeds resume).asking = 0 := by
  rw [begin]
  cases resume.filter fun tree => !tree.isEmpty <;> rfl

variable (rules : ClusterRules) (allowed : Question → Answer → Prop)

/-- One step of a run whose questions get allowed answers. -/
inductive Step : Progress → Progress → Prop where
  | settle {branch : Branch} {state next : ClusterState}
      {waiting : Multiset Branch} {asking : Multiset (Branch × Question)}
      (fits : state.prepare rules branch = (next, none)) :
      Step ⟨state, branch ::ₘ waiting, asking⟩ ⟨next, waiting, asking⟩
  | ask {branch : Branch} {question : Question}
      {state next : ClusterState} {waiting : Multiset Branch}
      {asking : Multiset (Branch × Question)}
      (asked : state.prepare rules branch = (next, some question)) :
      Step ⟨state, branch ::ₘ waiting, asking⟩
        ⟨next, waiting, (branch, question) ::ₘ asking⟩
  | absorb {branch : Branch} {question : Question} {answer : Answer}
      {state next : ClusterState} {children : List Branch}
      {waiting : Multiset Branch} {asking : Multiset (Branch × Question)}
      (answered : allowed question answer)
      (taken : state.absorb rules branch answer = (next, children)) :
      Step ⟨state, waiting, (branch, question) ::ₘ asking⟩
        ⟨next, children + waiting, asking⟩

/-- Steps one after another. -/
abbrev Schedule : Progress → Progress → Prop :=
  ReflTransGen (Step rules allowed)

/-- A schedule that cannot go on. -/
structure Ends (first last : Progress) : Prop where
  schedule : Schedule rules allowed first last
  stuck : ∀ next, ¬ Step rules allowed last next

variable {rules : ClusterRules} {allowed : Question → Answer → Prop}

/-- What holds of every question that is asked holds of the open ones. -/
theorem asking_step {fact : Branch × Question → Prop}
    {earlier later : Progress} (step : Step rules allowed earlier later)
    (asked : ∀ {branch : Branch} {question : Question} {next : ClusterState},
      branch ∈ earlier.waiting →
      earlier.state.prepare rules branch = (next, some question) →
      fact (branch, question))
    (before : ∀ entry ∈ earlier.asking, fact entry) :
    ∀ entry ∈ later.asking, fact entry := by
  cases step with
  | settle fits => exact before
  | ask prepared =>
    intro entry member
    rcases Multiset.mem_cons.1 member with rfl | old
    · exact asked (Multiset.mem_cons_self _ _) prepared
    · exact before entry old
  | absorb answered taken =>
    exact fun entry member => before entry (Multiset.mem_cons_of_mem member)

/-! ## Every schedule ends -/

theorem size_le_length (branch : Branch) :
    rules.size branch ≤ branch.candidates.length :=
  Listing.length_ids_le branch.candidates

theorem size_lt_of_mem_pending {path : List String} {size : Nat}
    {modules : List NewModule} {child : Branch}
    (member : child ∈ ClusterRules.pending path size modules) :
    rules.size child < size := by
  rw [ClusterRules.pending, List.mem_map] at member
  rcases member with ⟨added, member, rfl⟩
  rw [List.mem_filter, decide_eq_true_iff] at member
  exact lt_of_le_of_lt (size_le_length _) member.2

theorem size_lt_of_mem_absorb {branch child : Branch} {answer : Answer}
    {state next : ClusterState} {children : List Branch}
    (taken : state.absorb rules branch answer = (next, children))
    (member : child ∈ children) : rules.size child < rules.size branch := by
  have inside : child ∈ (state.absorb rules branch answer).2 := by
    rw [taken]
    exact member
  rw [ClusterState.absorb] at inside
  generalize rules.judge answer = judged at inside
  rcases judged with ⟨verdict, unknown⟩
  cases verdict with
  | failed => simp [ClusterState.apply] at inside
  | rejected rejection => simp [ClusterState.apply] at inside
  | degenerate => simp [ClusterState.apply] at inside
  | divided modules =>
    simp only [ClusterState.apply, ClusterState.merge] at inside
    split at inside
    · simp at inside
    · exact size_lt_of_mem_pending inside

/-- What is left to do, as numbers: an open question counts less than the
branch that waits to ask it, and more than the branches that its answer may
bring. -/
def load (rules : ClusterRules) (progress : Progress) : Multiset Nat :=
  progress.waiting.map (fun branch => 2 * rules.size branch + 1)
    + progress.asking.map fun entry => 2 * rules.size entry.1

theorem load_cutExpand {first next : Progress}
    (step : Step rules allowed first next) :
    CutExpand (· < ·) (load rules next) (load rules first) := by
  cases step with
  | @settle branch state next waiting asking fits =>
    refine ⟨0, 2 * rules.size branch + 1, by simp, ?_⟩
    simp only [load, Multiset.map_cons, add_zero]
    rw [← Multiset.singleton_add]
    abel
  | @ask branch question state next waiting asking asked =>
    refine ⟨{2 * rules.size branch}, 2 * rules.size branch + 1, by simp, ?_⟩
    simp only [load, Multiset.map_cons]
    rw [← Multiset.singleton_add, ← Multiset.singleton_add]
    abel
  | @absorb branch question answer state next children waiting asking
      answered taken =>
    refine ⟨(children : Multiset Branch).map fun child =>
      2 * rules.size child + 1, 2 * rules.size branch, ?_, ?_⟩
    · intro number member
      rcases Multiset.mem_map.1 member with ⟨child, inside, rfl⟩
      have smaller := size_lt_of_mem_absorb taken (Multiset.mem_coe.1 inside)
      omega
    · simp only [load, Multiset.map_cons, Multiset.map_add]
      rw [← Multiset.singleton_add]
      abel

/-- No schedule goes on for ever, whatever the answers are. -/
theorem step_wellFounded (rules : ClusterRules)
    (allowed : Question → Answer → Prop) :
    WellFounded fun next first => Step rules allowed first next :=
  Subrelation.wf (fun step => load_cutExpand step)
    (InvImage.wf (load rules) (wellFounded_lt (α := Nat)).cutExpand)

/-- There is always something to do until the run is over. -/
theorem exists_step (answerable : ∀ question, ∃ answer,
    allowed question answer) (progress : Progress) :
    progress.IsOver ∨ ∃ next, Step rules allowed progress next := by
  rcases progress with ⟨state, waiting, asking⟩
  induction waiting using Multiset.induction with
  | cons branch waiting _ =>
    right
    rcases prepared : state.prepare rules branch with ⟨next, question⟩
    cases question with
    | none => exact ⟨_, Step.settle prepared⟩
    | some question => exact ⟨_, Step.ask prepared⟩
  | empty =>
    induction asking using Multiset.induction with
    | empty => exact Or.inl ⟨rfl, rfl⟩
    | cons entry asking _ =>
      right
      rcases entry with ⟨branch, question⟩
      rcases answerable question with ⟨answer, answered⟩
      exact ⟨_, Step.absorb answered rfl⟩

theorem not_step_of_isOver {progress : Progress} (finished : progress.IsOver)
    (next : Progress) : ¬ Step rules allowed progress next := by
  rcases finished with ⟨waiting, asking⟩
  intro step
  cases step with
  | settle fits => exact absurd waiting (Multiset.cons_ne_zero)
  | ask asked => exact absurd waiting (Multiset.cons_ne_zero)
  | absorb answered taken => exact absurd asking (Multiset.cons_ne_zero)

/-- A schedule that cannot go on leaves nothing to do. -/
theorem Ends.isOver (answerable : ∀ question, ∃ answer,
    allowed question answer) {first last : Progress}
    (ends : Ends rules allowed first last) : last.IsOver := by
  have onward : last.IsOver ∨ ∃ next, Step rules allowed last next :=
    exists_step answerable last
  rcases onward with finished | ⟨next, step⟩
  · exact finished
  · exact absurd step (ends.stuck next)

/-- A branch is asked about, and the answer is taken in. -/
theorem schedule_of_answered {branch : Branch} {question : Question}
    {answer : Answer} {state asked next : ClusterState}
    {children : List Branch}
    (prepared : state.prepare rules branch = (asked, some question))
    (answered : allowed question answer)
    (taken : asked.absorb rules branch answer = (next, children)) :
    Schedule rules allowed ⟨state, {branch}, 0⟩ ⟨next, children, 0⟩ := by
  have absorbed : Step rules allowed ⟨asked, 0, {(branch, question)}⟩
      ⟨next, children + 0, 0⟩ := .absorb answered taken
  rw [add_zero] at absorbed
  exact .tail (.single (.ask prepared)) absorbed

/-- Every schedule can be brought to its end. -/
theorem exists_ends (rules : ClusterRules)
    (allowed : Question → Answer → Prop) (first : Progress) :
    ∃ last, Ends rules allowed first last := by
  refine (step_wellFounded rules allowed).induction
    (C := fun first => ∃ last, Ends rules allowed first last) first ?_
  intro first onward
  by_cases stuck : ∀ next, ¬ Step rules allowed first next
  · exact ⟨first, .refl, stuck⟩
  · rcases not_forall_not.1 stuck with ⟨next, step⟩
    rcases onward next step with ⟨last, ends⟩
    exact ⟨last, .head step ends.schedule, ends.stuck⟩

/-! ## The run that examines one branch after another -/

/-- The answers of a service that answers every question in one way. -/
def Answers (oracle : Question → Answer) (question : Question)
    (answer : Answer) : Prop :=
  oracle question = answer

theorem answers_answerable (oracle : Question → Answer)
    (question : Question) : ∃ answer, Answers oracle question answer :=
  ⟨oracle question, rfl⟩

/-- How a run ends that examines one branch after another. -/
def outcome (rules : ClusterRules) (oracle : Question → Answer)
    (seeds : List String) (resume : Option ModuleTree) : ClusterState :=
  Id.run (run rules (fun question => pure (oracle question))
    (fun _ => pure ()) seeds resume)

end Clustering

end ModuleAtlas
