import ModuleAtlas.Clustering.Verdict
import ModuleAtlas.Completion.Provider

/-!
# Clustering runs

A run examines one set of candidates after another.  Examining a set either
leaves everything as it is or divides the set into modules, which are put into
the tree and examined in their turn.  The members of a set grow fewer from
step to step, which bounds the depth of a run.
-/

namespace ModuleAtlas

abbrev Oracle (m : Type → Type) := Question → m Answer

/-- A provider that is asked with the text of a question. -/
def Provider.oracle {m : Type → Type} (provider : Provider m) : Oracle m :=
  fun question => provider.complete question.prompt

/-- The counters of a run. -/
@[ext]
structure ClusterStats where
  oracleCalls : Nat := 0
  oracleFailures : Nat := 0
  rejectedResponses : Nat := 0
  degenerateResponses : Nat := 0
  /-- Sets that fit the budget. -/
  baseCases : Nat := 0
  modulesCreated : Nat := 0
  invalidIdsFiltered : Nat := 0
deriving DecidableEq, Repr

/-- The state of a run. -/
structure ClusterState where
  tree : ModuleTree
  stats : ClusterStats
  /-- The questions asked so far, in order. -/
  asked : List Question
  /-- The rejected replies so far, in order. -/
  rejections : List Rejection

namespace ClusterState

/-- The state before anything was examined.  The counters start anew with each
run; an engine that is kept for several runs would go on counting. -/
def start (tree : ModuleTree) : ClusterState :=
  { tree, stats := {}, asked := [], rejections := [] }

def addUnknown (state : ClusterState) (count : Nat) : ClusterState :=
  { state with stats := { state.stats with
      invalidIdsFiltered := state.stats.invalidIdsFiltered + count } }

/-- Count a set that fits the budget. -/
def addBaseCase (state : ClusterState) : ClusterState :=
  { state with stats := { state.stats with
      baseCases := state.stats.baseCases + 1 } }

/-- Note a question that is asked. -/
def addQuestion (state : ClusterState) (question : Question) :
    ClusterState :=
  { state with
    stats := { state.stats with
      oracleCalls := state.stats.oracleCalls + 1 }
    asked := state.asked ++ [question] }

/-- Look at a branch: its question, unless its candidates fit the budget. -/
def prepare (rules : ClusterRules) (branch : Branch)
    (state : ClusterState) : ClusterState × Option Question :=
  let listing := rules.listing branch.candidates
  let state := state.addUnknown (rules.unknownCount branch.candidates)
  if rules.fits listing then (state.addBaseCase, none)
  else
    let question := ClusterRules.question branch listing state.tree
    (state.addQuestion question, some question)

/-- Put the modules of a branch into the tree; answers the branches that are
still to be examined.  Nothing happens when the branch has no module any
more. -/
def merge (branch : Branch) (size : Nat) (modules : List NewModule)
    (state : ClusterState) : ClusterState × List Branch :=
  match state.tree.insertModules? branch.path modules with
  | none => (state, [])
  | some (tree, _) =>
    ({ state with
        tree
        stats := { state.stats with
          modulesCreated := state.stats.modulesCreated + modules.length } },
      ClusterRules.pending branch.path size modules)

/-- Apply a verdict to a branch with so many known candidates. -/
def apply (branch : Branch) (size : Nat) (verdict : Verdict)
    (state : ClusterState) : ClusterState × List Branch :=
  match verdict with
  | .failed =>
    ({ state with stats := { state.stats with
        oracleFailures := state.stats.oracleFailures + 1 } }, [])
  | .rejected rejection =>
    ({ state with
        stats := { state.stats with
          rejectedResponses := state.stats.rejectedResponses + 1 }
        rejections := state.rejections ++ [rejection] }, [])
  | .degenerate =>
    ({ state with stats := { state.stats with
        degenerateResponses := state.stats.degenerateResponses + 1 } }, [])
  | .divided modules => state.merge branch size modules

/-- Take in the answer to the question of a branch. -/
def absorb (rules : ClusterRules) (branch : Branch) (answer : Answer)
    (state : ClusterState) : ClusterState × List Branch :=
  let (verdict, unknown) := rules.judge answer
  (state.addUnknown unknown).apply branch (rules.size branch) verdict

variable {m : Type → Type} [Monad m]

/-- Examine a branch; answers the branches that come from it. -/
def examine (rules : ClusterRules) (oracle : Oracle m) (branch : Branch)
    (state : ClusterState) : m (ClusterState × List Branch) :=
  match state.prepare rules branch with
  | (state, none) => return (state, [])
  | (state, some question) => do
    let answer ← oracle question
    return state.absorb rules branch answer

/-- Examine a branch and everything that comes from it, to a depth. -/
def explore (rules : ClusterRules) (oracle : Oracle m) :
    Nat → Branch → ClusterState → m ClusterState
  | 0, _, state => return state
  | depth + 1, branch, state => do
    let (state, children) ← state.examine rules oracle branch
    children.foldlM
      (fun state child => explore rules oracle depth child state) state

/-- Explore branches in turn, saving the tree after each.  A branch cannot go
deeper than it has known candidates, because every branch has fewer of them
than the one it comes from. -/
def exploreAll (rules : ClusterRules) (oracle : Oracle m)
    (save : ModuleTree → m Unit) :
    List Branch → ClusterState → m ClusterState
  | [], state => return state
  | branch :: rest, state => do
    let state ← explore rules oracle (rules.size branch + 1) branch state
    save state.tree
    exploreAll rules oracle save rest state

end ClusterState

namespace Clustering

variable {m : Type → Type} [Monad m]

/-- The branches of a tree that a later run examines again: its modules
without children. -/
def resumable (tree : ModuleTree) : List Branch :=
  tree.leafModules.map fun entry =>
    ⟨entry.path, entry.value.components.names⟩

/-- Run from seeds.  The tree is saved after the division of the seeds and
after each module of the first level. -/
def runFresh (rules : ClusterRules) (oracle : Oracle m)
    (save : ModuleTree → m Unit) (seeds : List String) : m ClusterState := do
  let (state, branches) ←
    (ClusterState.start .empty).examine rules oracle ⟨[], seeds⟩
  save state.tree
  ClusterState.exploreAll rules oracle save branches state

/-- Take up a tree again.  It is saved after each module that had no
children. -/
def runResumed (rules : ClusterRules) (oracle : Oracle m)
    (save : ModuleTree → m Unit) (tree : ModuleTree) : m ClusterState :=
  ClusterState.exploreAll rules oracle save (resumable tree)
    (ClusterState.start tree)

/-- Run from seeds, or take up a tree again unless it is empty. -/
def run (rules : ClusterRules) (oracle : Oracle m)
    (save : ModuleTree → m Unit) (seeds : List String)
    (resume : Option ModuleTree) : m ClusterState :=
  match resume.filter fun tree => !tree.isEmpty with
  | some tree => runResumed rules oracle save tree
  | none => runFresh rules oracle save seeds

end Clustering

end ModuleAtlas
