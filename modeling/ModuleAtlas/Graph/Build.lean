import ModuleAtlas.Component.Record
import ModuleAtlas.Graph.Basic

/-!
# Building a graph from analyzer records

Components are taken first, in record order; the first record of an id counts.
Then every call whose ends resolve to two different components becomes an
edge.  The report counts everything else.
-/

namespace ModuleAtlas

/-- The component that a record describes; none without an id. -/
def ComponentRecord.component? (record : ComponentRecord) :
    Option Component :=
  let id := Text.trim (record.id.getD "")
  if id = "" then none
  else
    let name := record.name.getD ""
    let docstring := record.docstring.getD ""
    let displayName := record.displayName.getD ""
    some {
      id, name
      displayName := if displayName = "" then name else displayName
      kind := Kind.ofLabel record.typeLabel
      filePath := record.filePath.getD ""
      relativePath := record.relativePath.getD ""
      startLine := record.startLine.getD 0
      endLine := record.endLine.getD 0
      sourceCode := record.source
      hasDocstring := record.hasDocstring.getD (docstring ≠ "")
      docstring
      parameters := record.parameterNames
      baseClasses := record.baseClasses
      className := record.className
      dependsOn := .empty }

namespace DependencyGraph

def addRecord (graph : DependencyGraph) (record : ComponentRecord) :
    DependencyGraph :=
  match record.component? with
  | none =>
    { graph with report := { graph.report with
        missingIds := graph.report.missingIds + 1 } }
  | some component =>
    if graph.components.contains component.id then
      { graph with report := { graph.report with
          duplicateIds := graph.report.duplicateIds + 1 } }
    else
      { graph with
        components := graph.components.insert component.id component
        index := graph.index.register component
        modules := addModule graph.modules component }

/-- What becomes of a call. -/
inductive CallOutcome where
  | unknownCaller
  | unknownCallee
  | selfReference
  | edge (caller : String) (callee : Match)
deriving DecidableEq, Repr

/-- Resolve both ends of a call. -/
def outcome (index : ComponentIndex) (call : CallRecord) :
    CallOutcome :=
  let callerKey := Text.trim (call.caller.getD "")
  if callerKey = "" then .unknownCaller
  else
    match index.resolve? callerKey with
    | none => .unknownCaller
    | some caller =>
      match index.resolveCallee? (call.callee.getD "") with
      | none => .unknownCallee
      | some callee =>
        if callee.target = caller then .selfReference
        else .edge caller callee

/-- The entry that an ambiguously resolved call leaves in the report. -/
def ambiguity (call : CallRecord) (caller : String) :
    Match → List AmbiguousCall
  | .byId _ => []
  | .byName id candidates =>
    if 1 < candidates then
      [⟨caller, Text.trim (call.callee.getD ""), id, candidates⟩]
    else []

/-- Add an edge, counting it once. -/
def addEdge (graph : DependencyGraph) (call : CallRecord) (caller : String)
    (callee : Match) : DependencyGraph :=
  let report := { graph.report with
    ambiguous := graph.report.ambiguous ++ ambiguity call caller callee }
  match graph.components.find? caller with
  | none =>
    { graph with report := { report with
        unknownCallers := report.unknownCallers + 1 } }
  | some component =>
    if component.dependsOn.contains callee.target then
      { graph with report := { report with
          duplicateEdges := report.duplicateEdges + 1 } }
    else
      { graph with
        components := graph.components.insert caller { component with
          dependsOn := component.dependsOn.insert callee.target }
        edgeCount := graph.edgeCount + 1
        report }

def addCall (graph : DependencyGraph) (call : CallRecord) :
    DependencyGraph :=
  match outcome graph.index call with
  | .unknownCaller =>
    { graph with report := { graph.report with
        unknownCallers := graph.report.unknownCallers + 1 } }
  | .unknownCallee =>
    { graph with report := { graph.report with
        unknownCallees := graph.report.unknownCallees + 1 } }
  | .selfReference =>
    { graph with report := { graph.report with
        selfReferences := graph.report.selfReferences + 1 } }
  | .edge caller callee => graph.addEdge call caller callee

/-- Build the graph of component records and calls. -/
def build (functions : List ComponentRecord) (calls : List CallRecord) :
    DependencyGraph :=
  calls.foldl addCall (functions.foldl addRecord empty)

/-- Build the graph of an analysis, reporting its malformed records too. -/
def ofAnalysis (analysis : Analysis) : DependencyGraph :=
  let graph := build analysis.functions analysis.relationships
  { graph with report := { graph.report with
      malformedRecords := graph.report.malformedRecords
        + analysis.malformed } }

end DependencyGraph

end ModuleAtlas
