import Mathlib.Algebra.Group.Defs
import ModuleAtlas.Clustering.Run
import ModuleAtlas.Proofs.Clustering.Verdict
import ModuleAtlas.Proofs.Module.Tree

/-!
# What a step of a clustering run does

Looking at a branch counts it and notes its question.  Taking in an answer
counts it and, when the answer divides the branch and the tree has its
location, puts the new modules there.  Counters of a run are added, so that
each step adds a fixed amount to them.
-/

namespace ModuleAtlas

namespace ClusterStats

instance : Zero ClusterStats := ⟨{}⟩

instance : Add ClusterStats where
  add left right := {
    oracleCalls := left.oracleCalls + right.oracleCalls
    oracleFailures := left.oracleFailures + right.oracleFailures
    rejectedResponses := left.rejectedResponses + right.rejectedResponses
    degenerateResponses :=
      left.degenerateResponses + right.degenerateResponses
    baseCases := left.baseCases + right.baseCases
    modulesCreated := left.modulesCreated + right.modulesCreated
    invalidIdsFiltered :=
      left.invalidIdsFiltered + right.invalidIdsFiltered }

theorem add_def (left right : ClusterStats) : left + right = {
    oracleCalls := left.oracleCalls + right.oracleCalls
    oracleFailures := left.oracleFailures + right.oracleFailures
    rejectedResponses := left.rejectedResponses + right.rejectedResponses
    degenerateResponses :=
      left.degenerateResponses + right.degenerateResponses
    baseCases := left.baseCases + right.baseCases
    modulesCreated := left.modulesCreated + right.modulesCreated
    invalidIdsFiltered :=
      left.invalidIdsFiltered + right.invalidIdsFiltered } := rfl

theorem zero_def : (0 : ClusterStats) = {} := rfl

instance : AddCommMonoid ClusterStats where
  add_assoc first second third := by
    ext <;> simp only [add_def, Nat.add_assoc]
  zero_add stats := by
    ext <;> simp only [add_def, zero_def, Nat.zero_add]
  add_zero stats := by
    ext <;> simp only [add_def, zero_def, Nat.add_zero]
  add_comm left right := by
    ext <;> simp only [add_def, Nat.add_comm]
  nsmul := nsmulRec

end ClusterStats

namespace Verdict

/-- What a verdict adds to the counters. -/
def stats : Verdict → ClusterStats
  | .failed => { oracleFailures := 1 }
  | .rejected _ => { rejectedResponses := 1 }
  | .degenerate => { degenerateResponses := 1 }
  | .divided modules => { modulesCreated := modules.length }

end Verdict

namespace ClusterRules

/-- What looking at a branch adds to the counters. -/
def lookStats (rules : ClusterRules) (branch : Branch) : ClusterStats where
  invalidIdsFiltered := rules.unknownCount branch.candidates
  baseCases := if rules.fits (rules.listing branch.candidates) then 1 else 0
  oracleCalls :=
    if rules.fits (rules.listing branch.candidates) then 0 else 1

/-- What taking in an answer adds to the counters. -/
def answerStats (rules : ClusterRules) (answer : Answer) : ClusterStats :=
  { invalidIdsFiltered := (rules.judge answer).2 }
    + (rules.judge answer).1.stats

end ClusterRules

namespace ClusterState

open Forest StoredTree ClusterRules

variable {rules : ClusterRules} {branch : Branch} {state next : ClusterState}

/-- A branch that fits is counted, and nothing else happens. -/
theorem prepare_eq_none
    (prepared : state.prepare rules branch = (next, none)) :
    rules.fits (rules.listing branch.candidates) = true ∧
      next.tree = state.tree ∧ next.asked = state.asked ∧
      next.stats = state.stats + rules.lookStats branch := by
  rw [prepare] at prepared
  split at prepared
  · next fits =>
    rw [Prod.mk.injEq] at prepared
    rcases prepared with ⟨rfl, _⟩
    refine ⟨fits, rfl, rfl, ?_⟩
    rw [lookStats, if_pos fits, if_pos fits]
    rfl
  · simp at prepared

/-- A branch that does not fit is asked about. -/
theorem prepare_eq_some {question : Question}
    (prepared : state.prepare rules branch = (next, some question)) :
    rules.fits (rules.listing branch.candidates) = false ∧
      question = ClusterRules.question branch
        (rules.listing branch.candidates) state.tree ∧
      next.tree = state.tree ∧ next.asked = state.asked ++ [question] ∧
      next.stats = state.stats + rules.lookStats branch := by
  rw [prepare] at prepared
  split at prepared
  · simp at prepared
  · next large =>
    rw [Prod.mk.injEq, Option.some.injEq] at prepared
    rcases prepared with ⟨rfl, rfl⟩
    refine ⟨by simpa using large, rfl, rfl, rfl, ?_⟩
    rw [lookStats, if_neg large, if_neg large]
    rfl

theorem apply_asked (branch : Branch) (size : Nat) (verdict : Verdict)
    (state : ClusterState) :
    (state.apply branch size verdict).1.asked = state.asked := by
  cases verdict with
  | failed => rfl
  | rejected rejection => rfl
  | degenerate => rfl
  | divided modules =>
    rw [apply, merge]
    split <;> rfl

/-- A verdict on a branch that has its location in the tree. -/
theorem apply_located (size : Nat) (verdict : Verdict)
    (state : ClusterState)
    (located : (level? branch.path state.tree.toStored).isSome = true) :
    (state.apply branch size verdict).1.tree.toStored =
        changeBelow (putAll verdict.modules) branch.path
          state.tree.toStored ∧
      (state.apply branch size verdict).2 =
        pending branch.path size verdict.modules ∧
      (state.apply branch size verdict).1.stats =
        state.stats + verdict.stats := by
  cases verdict with
  | failed => exact ⟨(changeBelow_id _ _).symm, rfl, rfl⟩
  | rejected rejection => exact ⟨(changeBelow_id _ _).symm, rfl, rfl⟩
  | degenerate => exact ⟨(changeBelow_id _ _).symm, rfl, rfl⟩
  | divided modules =>
    have inserts : (state.tree.insertModules? branch.path modules).isSome =
        true := ModuleTree.insertModules?_isSome.2 located
    rcases Option.isSome_iff_exists.1 inserts with ⟨⟨tree, slots⟩, inserted⟩
    simp only [apply, merge, inserted]
    exact ⟨ModuleTree.toStored_insertModules? inserted, rfl, rfl⟩

/-- A verdict on a branch whose location is gone. -/
theorem apply_lost (size : Nat) (verdict : Verdict) (state : ClusterState)
    (lost : level? branch.path state.tree.toStored = none) :
    (state.apply branch size verdict).1.tree = state.tree ∧
      (state.apply branch size verdict).2 = [] := by
  cases verdict with
  | failed => exact ⟨rfl, rfl⟩
  | rejected rejection => exact ⟨rfl, rfl⟩
  | degenerate => exact ⟨rfl, rfl⟩
  | divided modules =>
    have dropped : state.tree.insertModules? branch.path modules = none := by
      rw [← Option.not_isSome_iff_eq_none, ModuleTree.insertModules?_isSome,
        lost]
      simp
    simp [apply, merge, dropped]

/-- Taking in the answer for a branch that has its location in the tree. -/
theorem absorb_located {answer : Answer} {children : List Branch}
    (taken : state.absorb rules branch answer = (next, children))
    (located : (level? branch.path state.tree.toStored).isSome = true) :
    next.tree.toStored =
        changeBelow (putAll (rules.judge answer).1.modules) branch.path
          state.tree.toStored ∧
      children = pending branch.path (rules.size branch)
        (rules.judge answer).1.modules ∧
      next.asked = state.asked ∧
      next.stats = state.stats + rules.answerStats answer := by
  have next_eq : next = (state.absorb rules branch answer).1 := by rw [taken]
  have children_eq : children = (state.absorb rules branch answer).2 := by
    rw [taken]
  have applied := apply_located (rules.size branch) (rules.judge answer).1
    (state.addUnknown (rules.judge answer).2) located
  rw [next_eq, children_eq, answerStats, ← add_assoc]
  exact ⟨applied.1, applied.2.1, apply_asked _ _ _ _, applied.2.2⟩

/-- Taking in the answer for a branch whose location is gone. -/
theorem absorb_lost {answer : Answer} {children : List Branch}
    (taken : state.absorb rules branch answer = (next, children))
    (lost : level? branch.path state.tree.toStored = none) :
    next.tree = state.tree ∧ children = [] := by
  have next_eq : next = (state.absorb rules branch answer).1 := by rw [taken]
  have children_eq : children = (state.absorb rules branch answer).2 := by
    rw [taken]
  rw [next_eq, children_eq]
  exact apply_lost (rules.size branch) (rules.judge answer).1
    (state.addUnknown (rules.judge answer).2) lost

end ClusterState

end ModuleAtlas
