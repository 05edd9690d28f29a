import ModuleAtlas.Graph.Basic
import ModuleAtlas.Graph.Search

/-!
# Condensing cycles

Components that depend on each other, directly or through others, form one
ordering unit; a component outside every cycle is a unit of its own.  A unit
is named by its smallest member.

A first search finishes every component after its dependencies.  A second one
goes backwards along the edges, from the component finished last to the one
finished first: what it meets from one start is exactly one unit, and units
come out with the dependent ones first.  Reversed, the list has every unit
after the units it depends on.
-/

namespace ModuleAtlas

/-- Components that are ordered as one: a single component or a cycle. -/
structure OrderingUnit where
  /-- The smallest member, which names the unit. -/
  key : String
  /-- The other members, ascending. -/
  others : List String
  /-- The names of the units that members of this one depend on. -/
  dependsOn : NameSet

namespace OrderingUnit

/-- All members, ascending. -/
def members (unit : OrderingUnit) : List String := unit.key :: unit.others

/-- Whether the members form a cycle. -/
def isCycle (unit : OrderingUnit) : Bool := !unit.others.isEmpty

end OrderingUnit

/-- The units of a dependency graph, each after the units it depends on. -/
structure Condensation where
  units : List OrderingUnit
  /-- The name of the unit of every component. -/
  keyOf : Keyed String

namespace DependencyGraph

/-- The dependencies of a component that are components, from the largest id
to the smallest. -/
def targets (graph : DependencyGraph) (id : String) : List String :=
  ((graph.dependencies id).filter graph.components.contains).reverse

/-- The components that depend on each component, ascending. -/
def dependents (graph : DependencyGraph) : Keyed (List String) :=
  graph.ids.foldr
    (fun id table =>
      (graph.targets id).foldl
        (fun table target =>
          table.insert target (id :: (table.find? target).getD []))
        table)
    .empty

/-- The components that depend on a component, from a table of dependents. -/
def sources (table : Keyed (List String)) (id : String) : List String :=
  (table.find? id).getD []

/-- Every component after its dependencies where cycles allow it, the last one
first. -/
def finishOrder (graph : DependencyGraph) : List String :=
  (Search.start.visitAll graph.targets graph.components.size
    graph.ids).finished

/-- Split components into groups that depend on each other: each start takes
what is newly met going against the edges. -/
def mutualGroups (graph : DependencyGraph) : List (List String) :=
  (Search.collect (sources graph.dependents) graph.components.size
    graph.finishOrder).2

/-- The unit of a group, with the units that its members depend on. -/
def unitOfGroup (graph : DependencyGraph) (keyOf : Keyed String)
    (group : List String) : Option OrderingUnit :=
  match (NameSet.ofList group).names with
  | [] => none
  | key :: others =>
    let targets := (key :: others).flatMap fun id =>
      (graph.dependencies id).filterMap keyOf.find?
    some {
      key, others
      dependsOn := .ofList (targets.filter (· ≠ key)) }

/-- The members of a group, each with the name of its unit. -/
def keyRows (group : List String) : List (String × String) :=
  match (NameSet.ofList group).names with
  | [] => []
  | key :: others => (key :: others).map fun id => (id, key)

/-- The name of the unit of every member of some groups. -/
def groupKeys (groups : List (List String)) : Keyed String :=
  .ofList (groups.flatMap keyRows)

/-- Collapse every cycle into one unit. -/
def condense (graph : DependencyGraph) : Condensation :=
  let groups := graph.mutualGroups
  let keyOf := groupKeys groups
  { units := groups.filterMap (graph.unitOfGroup keyOf), keyOf }

end DependencyGraph

namespace Condensation

/-- The unit with a name. -/
def find? (condensation : Condensation) (key : String) :
    Option OrderingUnit :=
  condensation.units.find? fun unit => unit.key = key

/-- The unit of a component. -/
def unitOf? (condensation : Condensation) (id : String) :
    Option OrderingUnit :=
  (condensation.keyOf.find? id).bind condensation.find?

/-- The members of every cycle, in the order of the units. -/
def cycles (condensation : Condensation) : List (List String) :=
  (condensation.units.filter OrderingUnit.isCycle).map
    OrderingUnit.members

/-- The units in ascending order of their names. -/
def byKey (condensation : Condensation) : List OrderingUnit :=
  (Keyed.ofList (condensation.units.map fun unit => (unit.key, unit))).values

end Condensation

end ModuleAtlas
