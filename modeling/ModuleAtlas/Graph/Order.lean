import ModuleAtlas.Graph.Condensation

/-!
# Dependency-first order

Units are arranged one at a time: of the units whose dependencies have all
been placed, the one with the smallest name goes next.
-/

namespace ModuleAtlas

/-- A unit that waits for the units it still needs. -/
structure WaitingUnit where
  unit : OrderingUnit
  /-- How many of its dependencies are not placed yet. -/
  remaining : Int

namespace WaitingUnit

/-- A unit that waits for all its dependencies. -/
def ofUnit (unit : OrderingUnit) : WaitingUnit :=
  ⟨unit, unit.dependsOn.size⟩

/-- Whether every dependency is placed. -/
def isReady (waiting : WaitingUnit) : Bool := waiting.remaining = 0

/-- The unit after another one was placed. -/
def release (key : String) (waiting : WaitingUnit) : WaitingUnit :=
  if key ∈ waiting.unit.dependsOn then
    { waiting with remaining := waiting.remaining - 1 }
  else waiting

/-- Split off the first ready unit. -/
def takeReady? :
    List WaitingUnit → Option (OrderingUnit × List WaitingUnit)
  | [] => none
  | head :: rest =>
    if head.isReady then some (head.unit, rest)
    else (takeReady? rest).map fun (unit, others) => (unit, head :: others)

/-- Place the first ready unit; the units that need it are released. -/
def place? (waiting : List WaitingUnit) :
    Option (OrderingUnit × List WaitingUnit) :=
  (takeReady? waiting).map fun (unit, others) =>
    (unit, others.map (release unit.key))

/-- Place up to so many units. -/
def arrange : Nat → List WaitingUnit → List OrderingUnit
  | 0, _ => []
  | count + 1, waiting =>
    match place? waiting with
    | none => []
    | some (unit, others) => unit :: arrange count others

end WaitingUnit

namespace Condensation

/-- The units in ascending order of their names, none of them placed. -/
def waiting (condensation : Condensation) : List WaitingUnit :=
  condensation.byKey.map WaitingUnit.ofUnit

/-- The units in dependency-first order. -/
def arranged (condensation : Condensation) : List OrderingUnit :=
  WaitingUnit.arrange condensation.waiting.length condensation.waiting

end Condensation

namespace DependencyGraph

/-- All components, dependencies first; the members of a cycle stand together
in ascending order. -/
def dependencyOrder (graph : DependencyGraph) : List String :=
  graph.condense.arranged.flatMap OrderingUnit.members

end DependencyGraph

end ModuleAtlas
