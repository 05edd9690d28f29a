import ModuleAtlas.Graph.Index

/-!
# Dependency graphs

A dependency graph holds components by id; its edges are their `dependsOn`
sets.  It carries the index that resolved its calls and a report on what was
left out.
-/

namespace ModuleAtlas

/-- A call whose callee was matched by a name that several components bear. -/
structure AmbiguousCall where
  caller : String
  calleeName : String
  chosen : String
  candidates : Nat
deriving DecidableEq, Repr

/-- What was left out or doubtful while a graph was built. -/
structure BuildReport where
  /-- Records that could not be decoded. -/
  malformedRecords : Nat := 0
  /-- Component records without an id. -/
  missingIds : Nat := 0
  /-- Component records with an id seen earlier. -/
  duplicateIds : Nat := 0
  /-- Calls whose caller is unknown. -/
  unknownCallers : Nat := 0
  /-- Calls whose callee is unknown. -/
  unknownCallees : Nat := 0
  /-- Calls from a component to itself. -/
  selfReferences : Nat := 0
  /-- Calls that repeat an edge. -/
  duplicateEdges : Nat := 0
  /-- Calls resolved by an ambiguous name, in order. -/
  ambiguous : List AmbiguousCall := []
deriving DecidableEq, Repr, Inhabited

namespace BuildReport

/-- Component records that gave no component. -/
def skippedComponents (report : BuildReport) : Nat :=
  report.malformedRecords + report.missingIds + report.duplicateIds

/-- Calls that gave no edge. -/
def skippedEdges (report : BuildReport) : Nat :=
  report.unknownCallers + report.unknownCallees + report.selfReferences

end BuildReport

/-- Components by id, with their edges. -/
structure DependencyGraph where
  components : Keyed Component
  index : ComponentIndex
  edgeCount : Nat
  /-- The modules of all components. -/
  modules : NameSet
  report : BuildReport
deriving Inhabited

namespace DependencyGraph

def empty : DependencyGraph :=
  { components := .empty, index := .empty, edgeCount := 0
    modules := .empty, report := {} }

/-- The ids of all components, ascending. -/
def ids (graph : DependencyGraph) : List String := graph.components.names

/-- The dependencies of a component, ascending; none for an unknown id. -/
def dependencies (graph : DependencyGraph) (id : String) : List String :=
  match graph.components.find? id with
  | some component => component.dependsOn.names
  | none => []

/-- The modules together with the module of one more component. -/
def addModule (modules : NameSet) (component : Component) : NameSet :=
  match component.modulePath? with
  | some path => modules.insert path
  | none => modules

/-- Keep the dependencies of a component that lead to another component. -/
def keepKnown (components : Keyed Component) (component : Component) :
    Component :=
  { component with
    dependsOn := component.dependsOn.filter fun id =>
      id ≠ component.id && components.contains id }

/-- Add one component of a complete mapping, counting the dependencies that
are dropped. -/
def adopt (known : Keyed Component) (graph : DependencyGraph)
    (component : Component) : DependencyGraph :=
  let kept := keepKnown known component
  { components := graph.components.insert component.id kept
    index := graph.index.register kept
    edgeCount := graph.edgeCount + kept.dependsOn.size
    modules := addModule graph.modules component
    report := { graph.report with
      unknownCallees := graph.report.unknownCallees
        + (component.dependsOn.size - kept.dependsOn.size) } }

/-- The graph around components that already carry their dependencies.  The
components are keyed by their ids; dependencies on unknown components and on
the component itself are dropped. -/
def ofComponents (components : Keyed Component) : DependencyGraph :=
  components.values.foldl (adopt components) empty

end DependencyGraph

end ModuleAtlas
