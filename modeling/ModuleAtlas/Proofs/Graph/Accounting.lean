import ModuleAtlas.Proofs.Graph.Edges

/-!
# Every analyzer record is accounted for

A record that cannot be decoded, a component record and a call each leave one
mark on the graph that is built: a component, an edge or one step of one
counter.  So the counters of a graph add up to the records of the analyzer
document, and a record that cannot be decoded is noticed by nothing but its own
counter, wherever it stands.
-/

namespace ModuleAtlas

/-- Whether a record has an id, the blanks around it aside. -/
def ComponentRecord.hasId (record : ComponentRecord) (id : String) : Bool :=
  id ≠ "" && Text.trim (record.id.getD "") = id

namespace DependencyGraph

/-! ## Component records -/

/-- What so many component records leave behind: each one is a component or was
left out for one reason, and nothing else is counted. -/
structure Registers (before : DependencyGraph) (count : Nat)
    (after : DependencyGraph) : Prop where
  components :
    after.components.size + after.report.missingIds
        + after.report.duplicateIds =
      before.components.size + before.report.missingIds
        + before.report.duplicateIds + count
  edgeCount : after.edgeCount = before.edgeCount
  report : { after.report with missingIds := 0, duplicateIds := 0 } =
    { before.report with missingIds := 0, duplicateIds := 0 }

theorem registers_addRecord (graph : DependencyGraph)
    (record : ComponentRecord) :
    Registers graph 1 (graph.addRecord record) := by
  unfold addRecord
  cases record.component? with
  | none => exact ⟨by simp only; omega, rfl, rfl⟩
  | some component =>
    by_cases known : graph.components.contains component.id = true
    · simp only [if_pos known]
      exact ⟨by simp only; omega, rfl, rfl⟩
    · simp only [if_neg known]
      have grown := Keyed.size_insert (Bool.eq_false_iff.2 known) component
      exact ⟨by simp only; omega, rfl, rfl⟩

theorem registers_records (records : List ComponentRecord)
    (graph : DependencyGraph) :
    Registers graph records.length (records.foldl addRecord graph) := by
  induction records generalizing graph with
  | nil => exact ⟨rfl, rfl, rfl⟩
  | cons record rest step =>
    have first := registers_addRecord graph record
    have later := step (graph.addRecord record)
    rw [List.foldl_cons]
    refine ⟨?_, later.edgeCount.trans first.edgeCount,
      later.report.trans first.report⟩
    rw [later.components, first.components, List.length_cons]
    omega

/-! ## Calls -/

/-- Calls add no component. -/
theorem size_calls (calls : List CallRecord) (graph : DependencyGraph) :
    (calls.foldl addCall graph).components.size = graph.components.size := by
  have names : (calls.foldl addCall graph).components.names =
      graph.components.names := by
    apply NameSet.names_ext (Keyed.names_pairwise _) (Keyed.names_pairwise _)
    intro id
    rw [← Keyed.contains_iff, ← Keyed.contains_iff, Keyed.contains,
      find?_calls, Option.isSome_map, Keyed.contains]
  simpa [Keyed.names, Keyed.size] using congrArg List.length names

/-- Every call is unresolved at one end, leads back to its caller, or is a
link. -/
theorem length_eq_countP_outcome (index : ComponentIndex)
    (calls : List CallRecord) :
    calls.length =
      calls.countP (isLink index)
        + calls.countP (fun call => outcome index call = .unknownCaller)
        + calls.countP (fun call => outcome index call = .unknownCallee)
        + calls.countP (fun call => outcome index call = .selfReference) := by
  induction calls with
  | nil => rfl
  | cons call rest step =>
    rw [List.length_cons, step]
    cases same : outcome index call <;> simp [same, isLink] <;> omega

/-! ## Built graphs -/

section Build

variable (functions : List ComponentRecord) (calls : List CallRecord)

theorem malformedRecords_build :
    (build functions calls).report.malformedRecords = 0 := by
  rw [(reported_build functions calls).malformedRecords]
  exact congrArg BuildReport.malformedRecords
    (registers_records functions empty).report

theorem length_functions_build :
    functions.length =
      (build functions calls).components.size
        + (build functions calls).report.missingIds
        + (build functions calls).report.duplicateIds := by
  have registers := registers_records functions empty
  have reported := reported_build functions calls
  rw [reported.missingIds, reported.duplicateIds, build, size_calls,
    registers.components]
  simp [empty, Keyed.size, Keyed.empty]

theorem length_calls_build :
    calls.length =
      (build functions calls).edgeCount
        + (build functions calls).report.duplicateEdges
        + (build functions calls).report.unknownCallers
        + (build functions calls).report.unknownCallees
        + (build functions calls).report.selfReferences := by
  have registers := registers_records functions empty
  have reported := reported_build functions calls
  have callers : (functions.foldl addRecord empty).report.unknownCallers = 0 :=
    congrArg BuildReport.unknownCallers registers.report
  have callees : (functions.foldl addRecord empty).report.unknownCallees = 0 :=
    congrArg BuildReport.unknownCallees registers.report
  have selves : (functions.foldl addRecord empty).report.selfReferences = 0 :=
    congrArg BuildReport.selfReferences registers.report
  have repeated : (functions.foldl addRecord empty).report.duplicateEdges = 0 :=
    congrArg BuildReport.duplicateEdges registers.report
  have edges : (functions.foldl addRecord empty).edgeCount = 0 :=
    registers.edgeCount
  rw [reported.edges, reported.unknownCallers, reported.unknownCallees,
    reported.selfReferences, edges, callers, callees, selves, repeated,
    length_eq_countP_outcome (functions.foldl addRecord empty).index calls]
  omega

end Build

/-! ## Which record a component comes from -/

/-- A record describes a component exactly when it has an id. -/
theorem component?_id (record : ComponentRecord) (id : String) :
    (record.component?.any fun component => component.id = id) =
      record.hasId id := by
  unfold ComponentRecord.component? ComponentRecord.hasId
  by_cases blank : Text.trim (record.id.getD "") = ""
  · by_cases same : id = ""
    · simp [blank, same]
    · simp [blank, Ne.symm same]
  · by_cases same : Text.trim (record.id.getD "") = id
    · simp [same, same ▸ blank]
    · simp [blank, same]

/-- The component of an id is that of the first record with the id, but for
its dependencies. -/
theorem bare_of_build (functions : List ComponentRecord)
    (calls : List CallRecord) (id : String) :
    ((build functions calls).components.find? id).map Component.bare =
      (functions.find? fun record => record.hasId id).bind
        ComponentRecord.component? := by
  rw [(holds_build functions calls).find?, keptComponents, find?_firstPerId,
    List.find?_filterMap]
  simp only [component?_id]
  cases functions.find? fun record => record.hasId id with
  | none => rfl
  | some record =>
    rw [Option.bind_some]
    cases given : record.component? with
    | none => rfl
    | some component =>
      rw [Option.map_some, Component.bare, ← dependsOn_of_component? given]

/-! ## Records that cannot be decoded -/

/-- The graph after one more record that cannot be decoded. -/
def countMalformed (graph : DependencyGraph) : DependencyGraph :=
  { graph with report := { graph.report with
      malformedRecords := graph.report.malformedRecords + 1 } }

end DependencyGraph

namespace AnalysisDocument

open DependencyGraph

/-- A record that cannot be decoded is left out, wherever it stands. -/
theorem decoded_broken {α : Type} (decoder : Json.Decoder α)
    {broken : Json} (fails : Json.decode? decoder broken = none)
    (front back : List Json) :
    (front ++ broken :: back).filterMap (Json.decode? decoder) =
        (front ++ back).filterMap (Json.decode? decoder) ∧
      (front ++ broken :: back).length
          - ((front ++ back).filterMap (Json.decode? decoder)).length =
        (front ++ back).length
          - ((front ++ back).filterMap (Json.decode? decoder)).length + 1 := by
  constructor
  · rw [List.filterMap_append, List.filterMap_cons_none fails,
      List.filterMap_append]
  · have fewer :=
      List.length_filterMap_le (Json.decode? decoder) (front ++ back)
    simp only [List.length_append, List.length_cons] at fewer ⊢
    omega

/-- The records of a document are decoded or malformed. -/
theorem length_decode (document : AnalysisDocument) :
    document.functions.length + document.relationships.length =
      document.decode.functions.length + document.decode.relationships.length
        + document.decode.malformed := by
  have functions := List.length_filterMap_le
    (Json.decode? ComponentRecord.decode) document.functions
  have relationships := List.length_filterMap_le
    (Json.decode? CallRecord.decode) document.relationships
  simp only [decode]
  omega

theorem ofAnalysis_broken_function {broken : Json}
    (fails : Json.decode? ComponentRecord.decode broken = none)
    (front back relationships : List Json) :
    ofAnalysis (decode ⟨front ++ broken :: back, relationships⟩) =
      (ofAnalysis (decode ⟨front ++ back, relationships⟩)).countMalformed := by
  obtain ⟨same, counted⟩ := decoded_broken _ fails front back
  simp only [decode, same, counted, ofAnalysis, countMalformed]
  congr 2
  omega

theorem ofAnalysis_broken_call {broken : Json}
    (fails : Json.decode? CallRecord.decode broken = none)
    (functions front back : List Json) :
    ofAnalysis (decode ⟨functions, front ++ broken :: back⟩) =
      (ofAnalysis (decode ⟨functions, front ++ back⟩)).countMalformed := by
  obtain ⟨same, counted⟩ := decoded_broken _ fails front back
  simp only [decode, same, counted, ofAnalysis, countMalformed]
  rfl

end AnalysisDocument

namespace DependencyGraph

/-- The records of a document are the components and the edges of its graph and
what its report counts, each record once: those decoded as components, those
decoded as calls, and both together with the malformed ones.  A component is
that of the first record with its id.  One more record that cannot be decoded,
anywhere among the others, is counted as malformed and changes nothing else. -/
theorem records_accounted :
    (∀ document : AnalysisDocument,
      let graph := ofAnalysis document.decode
      document.functions.length + document.relationships.length =
          graph.components.size + graph.edgeCount
            + graph.report.duplicateEdges + graph.report.skippedComponents
            + graph.report.skippedEdges ∧
      document.decode.functions.length =
          graph.components.size + graph.report.missingIds
            + graph.report.duplicateIds ∧
      document.decode.relationships.length =
          graph.edgeCount + graph.report.duplicateEdges
            + graph.report.unknownCallers + graph.report.unknownCallees
            + graph.report.selfReferences ∧
      ∀ id, (graph.components.find? id).map Component.bare =
        (document.decode.functions.find? fun record =>
          record.hasId id).bind ComponentRecord.component?) ∧
    (∀ broken, Json.decode? ComponentRecord.decode broken = none →
      ∀ front back relationships,
        ofAnalysis (AnalysisDocument.decode
            ⟨front ++ broken :: back, relationships⟩) =
          (ofAnalysis (AnalysisDocument.decode
            ⟨front ++ back, relationships⟩)).countMalformed) ∧
    ∀ broken, Json.decode? CallRecord.decode broken = none →
      ∀ functions front back,
        ofAnalysis (AnalysisDocument.decode
            ⟨functions, front ++ broken :: back⟩) =
          (ofAnalysis (AnalysisDocument.decode
            ⟨functions, front ++ back⟩)).countMalformed := by
  refine ⟨fun document => ?_,
    fun broken fails => AnalysisDocument.ofAnalysis_broken_function fails,
    fun broken fails => AnalysisDocument.ofAnalysis_broken_call fails⟩
  have total := document.length_decode
  generalize document.decode = analysis at total ⊢
  have functions :=
    length_functions_build analysis.functions analysis.relationships
  have calls := length_calls_build analysis.functions analysis.relationships
  have malformed :=
    malformedRecords_build analysis.functions analysis.relationships
  refine ⟨?_, functions, calls,
    bare_of_build analysis.functions analysis.relationships⟩
  simp only [ofAnalysis, BuildReport.skippedComponents,
    BuildReport.skippedEdges]
  omega

namespace Sample

/-- Records of two components. -/
def written : List Json :=
  [.record [("id", .text " a.A "), ("name", .text "A")],
    .record [("id", .text "x.H"), ("name", .text "H")]]

/-- A record whose id is a number. -/
def numbered : Json := .record [("id", .ofNat 42), ("name", .text "B")]

/-- A call whose caller is a list. -/
def listed : Json := .record [("caller", .list [.text "a.A"])]

end Sample

/-- A broken record between two components, and a broken call. -/
theorem records_accounted_broken :
    Json.decode? ComponentRecord.decode Sample.numbered = none ∧
      Json.decode? CallRecord.decode Sample.listed = none ∧
      ofAnalysis (AnalysisDocument.decode
          ⟨Sample.written.take 1 ++ Sample.numbered :: Sample.written.drop 1,
            [Sample.listed]⟩) =
        (ofAnalysis (AnalysisDocument.decode
          ⟨Sample.written, []⟩)).countMalformed.countMalformed ∧
      (ofAnalysis (AnalysisDocument.decode
        ⟨Sample.written, []⟩)).components.names = ["a.A", "x.H"] := by
  have function : Json.decode? ComponentRecord.decode Sample.numbered =
      none := by decide +kernel
  have call : Json.decode? CallRecord.decode Sample.listed = none := by
    decide +kernel
  refine ⟨function, call, ?_, by decide +kernel⟩
  rw [records_accounted.2.1 _ function, ← List.nil_append [Sample.listed],
    records_accounted.2.2 _ call]
  rfl

end DependencyGraph

end ModuleAtlas
