import Mathlib
import ModuleAtlas.Proofs.Clustering.Gain
import ModuleAtlas.Proofs.Clustering.Memory

/-!
# Schedules agree

All schedules of a clustering run end with the same stored tree, the same
questions and the same counts as the run that examines one branch after
another, provided that the oracle does not look at the tree it is shown and
never names two groups alike.
-/

namespace ModuleAtlas

namespace Clustering

open Forest StoredTree

/-- Two runs end with the same stored tree, have asked the same questions
equally often, apart from the trees shown, and have counted the same. -/
structure SameResult (left right : ClusterState) : Prop where
  tree : left.tree.toStored = right.tree.toStored
  asked : (left.asked.map Question.inquiry).Perm
    (right.asked.map Question.inquiry)
  stats : left.stats = right.stats

theorem sameResult_of_shown {left right : ClusterState}
    (same : shown left = shown right) : SameResult left right := by
  simp only [shown, Prod.mk.injEq, Multiset.map_coe, Multiset.coe_eq_coe]
    at same
  rcases same with ⟨tree, asked, stats⟩
  refine ⟨?_, asked, stats⟩
  exact ext_of_rows left.tree.toStored_ordered right.tree.toStored_ordered
    tree

/-- Runs that begin alike and are over have the same result. -/
theorem sameResult_of_ends {rules : ClusterRules}
    {oracle : Question → Answer} (blind : TreeBlind oracle)
    (names : NamesApart oracle) {first last last' : Progress}
    (sound : Sound rules first)
    (ends : Ends rules (Answers oracle) first last)
    (ends' : Ends rules (Answers oracle) first last') :
    SameResult last.state last'.state := by
  apply sameResult_of_shown
  rw [shown_of_ends blind names ends sound,
    shown_of_ends blind names ends' sound]

/-- No schedule of a run goes on for ever, and wherever a schedule cannot go
on, its result is that of the run that examines one branch after another. -/
theorem schedule_independent (rules : ClusterRules)
    {oracle : Question → Answer} (blind : TreeBlind oracle)
    (names : NamesApart oracle) (seeds : List String)
    (resume : Option ModuleTree) :
    Acc (fun next first => Step rules (Answers oracle) first next)
        (begin seeds resume) ∧
      ∀ last, Ends rules (Answers oracle) (begin seeds resume) last →
        SameResult last.state (outcome rules oracle seeds resume) := by
  refine ⟨(step_wellFounded rules (Answers oracle)).apply _, ?_⟩
  intro last ends
  exact sameResult_of_ends blind names (sound_begin seeds resume) ends
    (outcome_ends rules oracle seeds resume)

namespace Sample

/-- A function without source. -/
def component (id : String) : Component where
  id := id
  name := id
  displayName := id
  kind := .function
  filePath := "/repo/f.py"
  relativePath := "f.py"
  startLine := 1
  endLine := 1
  sourceCode := ""
  hasDocstring := false
  docstring := ""
  parameters := []
  baseClasses := none
  className := none
  dependsOn := .empty

/-- Three functions, one of which fits the budget. -/
def rules : ClusterRules where
  components := .ofList
    (["a", "b", "c"].map fun id => (id, component id))
  count := String.length
  budget := 12
  excerptChars := 200

/-- The reply that divides the three functions. -/
def whole : String :=
  "<GROUPED_COMPONENTS>\x7b" ++
  "'x': \x7b'components': ['a', 'b']\x7d, 'y': \x7b'components': ['c']\x7d" ++
  "\x7d</GROUPED_COMPONENTS>"

/-- The reply that divides two of them. -/
def part : String :=
  "<GROUPED_COMPONENTS>\x7b" ++
  "'p': \x7b'components': ['a']\x7d, 'q': \x7b'components': ['b']\x7d" ++
  "\x7d</GROUPED_COMPONENTS>"

/-- An oracle that knows two divisions. -/
def oracle (question : Question) : Answer :=
  if question.inquiry = ⟨none, "# f.py\n\ta\n\tb\n\tc\n"⟩ then .ok whole
  else if question.inquiry = ⟨some "x", "# f.py\n\ta\n\tb\n"⟩ then .ok part
  else .error .noProviders

theorem ofText_whole : Reply.ofText whole =
    .proposed [⟨"x", "", [], ["a", "b"]⟩, ⟨"y", "", [], ["c"]⟩] := by
  cbv

theorem ofText_part : Reply.ofText part =
    .proposed [⟨"p", "", [], ["a"]⟩, ⟨"q", "", [], ["b"]⟩] := by
  cbv

theorem oracle_eq_ok {question : Question} {reply : String}
    (answered : oracle question = .ok reply) :
    question.inquiry = ⟨none, "# f.py\n\ta\n\tb\n\tc\n"⟩ ∧ reply = whole ∨
      question.inquiry = ⟨some "x", "# f.py\n\ta\n\tb\n"⟩ ∧ reply = part := by
  rw [oracle] at answered
  split at answered
  · next asked => exact Or.inl ⟨asked, (Except.ok.inj answered).symm⟩
  · split at answered
    · next asked => exact Or.inr ⟨asked, (Except.ok.inj answered).symm⟩
    · simp at answered

theorem treeBlind : TreeBlind oracle := by
  intro left right same
  rw [oracle, oracle, same]

theorem namesApart : NamesApart oracle := by
  intro question reply groups answered read
  rcases oracle_eq_ok answered with ⟨_, rfl⟩ | ⟨_, rfl⟩
  · rw [ofText_whole, Reply.proposed.injEq] at read
    have trimmed : groups.map (fun group => Text.trim group.name) =
        ["x", "y"] := by
      subst read
      cbv
    simp [trimmed]
  · rw [ofText_part, Reply.proposed.injEq] at read
    have trimmed : groups.map (fun group => Text.trim group.name) =
        ["p", "q"] := by
      subst read
      cbv
    simp [trimmed]

/-- The first of two modules is divided again, and the second fits the
budget. -/
theorem outcome_facts :
    (outcome rules oracle ["a", "b", "c"] none).tree.modules.map
        Forest.Entry.path = [["x"], ["x", "p"], ["x", "q"], ["y"]] ∧
      (outcome rules oracle ["a", "b", "c"] none).tree.leafModules.map
        Forest.Entry.path = [["x", "p"], ["x", "q"], ["y"]] ∧
      (outcome rules oracle ["a", "b", "c"] none).asked.length = 2 := by
  decide +kernel

end Sample

/-- The division of three functions into two modules, one of which is divided
again, in any order. -/
theorem schedule_independent_sample :
    TreeBlind Sample.oracle ∧ NamesApart Sample.oracle ∧
      Acc (fun next first =>
          Step Sample.rules (Answers Sample.oracle) first next)
        (begin ["a", "b", "c"] none) ∧
      ∀ last, Ends Sample.rules (Answers Sample.oracle)
          (begin ["a", "b", "c"] none) last →
        SameResult last.state
          (outcome Sample.rules Sample.oracle ["a", "b", "c"] none) :=
  ⟨Sample.treeBlind, Sample.namesApart,
    schedule_independent Sample.rules Sample.treeBlind Sample.namesApart
      ["a", "b", "c"] none⟩

end Clustering

end ModuleAtlas
