/-!
# Depth-first search

A search follows the arrows of a finite graph from one node after another and
keeps two lists: the nodes it has met, and the nodes it has finished, that is,
left after everything reachable from them was met.  The depth bound is the
number of nodes; every nested visit meets a new one.
-/

namespace ModuleAtlas

universe u

/-- The progress of a search; both lists start with the latest node. -/
structure Search (α : Type u) where
  met : List α
  finished : List α
deriving Repr

namespace Search

variable {α : Type u} [DecidableEq α]

/-- A search that has met nothing. -/
def start : Search α := ⟨[], []⟩

/-- Visit a node and whatever can be reached from it through nodes that were
not met. -/
def visit (next : α → List α) : Nat → Search α → α → Search α
  | 0, search, _ => search
  | depth + 1, search, node =>
    if node ∈ search.met then search
    else
      let inside : Search α := { search with met := node :: search.met }
      let after := (next node).foldl
        (fun search neighbour => visit next depth search neighbour) inside
      { after with finished := node :: after.finished }

/-- Visit several nodes in turn. -/
def visitAll (next : α → List α) (depth : Nat) (search : Search α)
    (nodes : List α) : Search α :=
  nodes.foldl (visit next depth) search

/-- Visit one more start and keep what it newly met as a group; a start that
was met before makes no group. -/
def collectFrom (next : α → List α) (depth : Nat)
    (progress : Search α × List (List α)) (node : α) :
    Search α × List (List α) :=
  let after := visit next depth progress.1 node
  let fresh := after.met.take (after.met.length - progress.1.met.length)
  (after, if fresh.isEmpty then progress.2 else fresh :: progress.2)

/-- The groups that starts newly meet in turn, the latest group first. -/
def collect (next : α → List α) (depth : Nat) (starts : List α) :
    Search α × List (List α) :=
  starts.foldl (collectFrom next depth) (start, [])

end Search

end ModuleAtlas
