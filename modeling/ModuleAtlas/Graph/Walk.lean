import ModuleAtlas.Graph.Condensation

/-!
# Walking a graph on demand

A walk hands out components one at a time, each after the components it
depends on outside its own cycle.  It goes depth first through the units of a
condensation, roots and dependencies in ascending order of their names, and
hands out the members of a unit when it leaves the unit.
-/

namespace ModuleAtlas

/-- The state of a walk. -/
structure Walk where
  /-- The names of the roots that are not tried yet. -/
  roots : List String
  /-- The names of the units that were entered. -/
  visited : List String
  /-- The units that were entered and not left, the innermost first, each with
  the dependencies still to follow. -/
  stack : List (OrderingUnit × List String)
  /-- Members to hand out before the walk goes on. -/
  pending : List String

namespace Walk

/-- A walk that has not begun. -/
def start (condensation : Condensation) : Walk :=
  { roots := condensation.byKey.map OrderingUnit.key
    visited := [], stack := [], pending := [] }

/-- Enter a unit by its name, unless it was entered before. -/
def enter (condensation : Condensation) (key : String) (walk : Walk) :
    Walk :=
  if key ∈ walk.visited then walk
  else
    match condensation.find? key with
    | none => walk
    | some unit =>
      { walk with
        visited := key :: walk.visited
        stack := (unit, unit.dependsOn.names) :: walk.stack }

/-- One move of a walk that has nothing to hand out; none at its end. -/
def move? (condensation : Condensation) (walk : Walk) : Option Walk :=
  match walk.stack with
  | (unit, target :: targets) :: below =>
    some (enter condensation target
      { walk with stack := (unit, targets) :: below })
  | (unit, []) :: below =>
    some { walk with stack := below, pending := unit.members }
  | [] =>
    match walk.roots with
    | root :: roots => some (enter condensation root { walk with roots })
    | [] => none

/-- Hand out the next component within a number of moves. -/
def nextWithin (condensation : Condensation) :
    Nat → Walk → Option (String × Walk)
  | moves, walk =>
    match walk.pending with
    | id :: pending => some (id, { walk with pending })
    | [] =>
      match moves with
      | 0 => none
      | moves + 1 =>
        (walk.move? condensation).bind (nextWithin condensation moves)

/-- The moves of a whole walk: every root is tried, every unit is left, and
every dependency is followed once. -/
def moveBound (condensation : Condensation) : Nat :=
  (condensation.units.flatMap fun unit => unit.dependsOn.names).length
    + 2 * condensation.units.length

/-- Hand out the next component; none when the walk is over. -/
def next (condensation : Condensation) (walk : Walk) :
    Option (String × Walk) :=
  walk.nextWithin condensation (moveBound condensation)

/-- Hand out at most so many components. -/
def take (condensation : Condensation) : Nat → Walk → List String
  | 0, _ => []
  | count + 1, walk =>
    match walk.next condensation with
    | none => []
    | some (id, walk) => id :: take condensation count walk

/-- All components in the order of a walk. -/
def all (condensation : Condensation) : List String :=
  take condensation
    (condensation.units.flatMap OrderingUnit.members).length
    (start condensation)

end Walk

end ModuleAtlas
