import ModuleAtlas.Proofs.Graph.Contents
import ModuleAtlas.Proofs.Graph.Units

/-!
# The edges that calls add

A call adds an edge when both of its ends are resolved, to different
components.  Since calls leave the index as it is, the edges of a graph are
those of its calls, whatever order the calls come in; the same holds of every
count in the report, and the doubtful calls stand in it in the order in which
they came.
-/

namespace ModuleAtlas

/-- A component with more dependencies. -/
def Component.withTargets (component : Component) (targets : List String) :
    Component :=
  { component with
    dependsOn := targets.foldl NameSet.insert component.dependsOn }

theorem Component.withTargets_append (component : Component)
    (first second : List String) :
    component.withTargets (first ++ second) =
      (component.withTargets first).withTargets second := by
  simp [Component.withTargets]

theorem Component.withTargets_of_mem {component : Component}
    {target : String} (member : target ∈ component.dependsOn) :
    component.withTargets [target] = component := by
  simp [Component.withTargets, NameSet.insert_of_mem member]

namespace DependencyGraph

/-- Both ends of a call are resolved, to different components. -/
structure Links (index : ComponentIndex) (call : CallRecord)
    (caller : String) (callee : Match) : Prop where
  visible : Text.trim (call.caller.getD "") ≠ ""
  resolved : index.resolve? (Text.trim (call.caller.getD "")) = some caller
  matched : index.resolveCallee? (call.callee.getD "") = some callee
  apart : callee.target ≠ caller

theorem outcome_eq_edge {index : ComponentIndex} {call : CallRecord}
    {caller : String} {callee : Match} :
    outcome index call = .edge caller callee ↔
      Links index call caller callee := by
  constructor
  · intro same
    simp only [outcome] at same
    split at same
    · exact absurd same (by simp)
    · next visible =>
      split at same
      · exact absurd same (by simp)
      · next resolved =>
        split at same
        · exact absurd same (by simp)
        · next matched =>
          split at same
          · exact absurd same (by simp)
          · next apart =>
            cases same
            exact ⟨visible, resolved, matched, apart⟩
  · intro links
    simp [outcome, links.visible, links.resolved, links.matched, links.apart]

/-- The targets of the edges that calls add to a component, in order. -/
def targetsOf (index : ComponentIndex) (calls : List CallRecord)
    (id : String) : List String :=
  calls.flatMap fun call =>
    match outcome index call with
    | .edge caller callee => if caller = id then [callee.target] else []
    | _ => []

theorem mem_targetsOf {index : ComponentIndex} {calls : List CallRecord}
    {id target : String} :
    target ∈ targetsOf index calls id ↔
      ∃ call ∈ calls, ∃ callee, Links index call id callee ∧
        callee.target = target := by
  simp only [targetsOf, List.mem_flatMap, ← outcome_eq_edge]
  refine exists_congr fun call => and_congr_right fun _ => ?_
  cases outcome index call with
  | edge caller callee =>
    by_cases same : caller = id
    · simp [same, eq_comm]
    · simp [same]
  | _ => simp

/-- What is doubtful about a call: its callee was matched by a name that
several components bear. -/
def doubt? (index : ComponentIndex) (call : CallRecord) :
    Option AmbiguousCall :=
  match outcome index call with
  | .edge caller callee => (ambiguity call caller callee).head?
  | _ => none

theorem doubt?_eq_some {index : ComponentIndex} {call : CallRecord}
    {entry : AmbiguousCall} :
    doubt? index call = some entry ↔
      Links index call entry.caller
          (.byName entry.chosen entry.candidates) ∧
        1 < entry.candidates ∧
        entry.calleeName = Text.trim (call.callee.getD "") := by
  rw [← outcome_eq_edge]
  unfold doubt?
  cases outcome index call with
  | edge caller callee =>
    cases callee with
    | byId id => simp [ambiguity]
    | byName id candidates =>
      rcases entry with ⟨caller', name, chosen, candidates'⟩
      by_cases several : 1 < candidates
      · simp only [ambiguity, several, if_true, List.head?_cons,
          Option.some.injEq, AmbiguousCall.mk.injEq, CallOutcome.edge.injEq,
          Match.byName.injEq]
        constructor
        · rintro ⟨rfl, rfl, rfl, rfl⟩
          exact ⟨⟨rfl, rfl, rfl⟩, several, rfl⟩
        · rintro ⟨⟨rfl, rfl, rfl⟩, _, rfl⟩
          exact ⟨rfl, rfl, rfl, rfl⟩
      · simp only [ambiguity, several, if_false, List.head?_nil,
          CallOutcome.edge.injEq, Match.byName.injEq]
        constructor
        · intro none
          exact absurd none (by simp)
        · rintro ⟨⟨_, _, rfl⟩, more, _⟩
          exact absurd more several
  | _ => simp

/-! ## One call -/

section Call

variable {graph : DependencyGraph} {call : CallRecord}

theorem find?_addEdge {caller id : String} {callee : Match} :
    (graph.addEdge call caller callee).components.find? id =
      (graph.components.find? id).map fun component =>
        component.withTargets
          (if caller = id then [callee.target] else []) := by
  unfold addEdge
  cases found : graph.components.find? caller with
  | none =>
    by_cases same : caller = id
    · subst same
      simp [found]
    · simp [same, Component.withTargets]
  | some component =>
    by_cases member : callee.target ∈ component.dependsOn
    · by_cases same : caller = id
      · subst same
        simp [NameSet.contains, member, found,
          Component.withTargets_of_mem member]
      · simp [NameSet.contains, member, same, Component.withTargets]
    · by_cases same : caller = id
      · subst same
        simp [NameSet.contains, member, found, Component.withTargets]
      · simp [NameSet.contains, member, same, Component.withTargets]

@[simp]
theorem index_addEdge {caller : String} {callee : Match} :
    (graph.addEdge call caller callee).index = graph.index := by
  simp only [addEdge]
  split
  · rfl
  · split <;> rfl

@[simp]
theorem modules_addEdge {caller : String} {callee : Match} :
    (graph.addEdge call caller callee).modules = graph.modules := by
  simp only [addEdge]
  split
  · rfl
  · split <;> rfl

theorem find?_addCall (id : String) :
    (graph.addCall call).components.find? id =
      (graph.components.find? id).map fun component =>
        component.withTargets (targetsOf graph.index [call] id) := by
  unfold addCall
  cases same : outcome graph.index call with
  | edge caller callee => simp [find?_addEdge, targetsOf, same]
  | _ => simp [targetsOf, same, Component.withTargets]

@[simp]
theorem index_addCall : (graph.addCall call).index = graph.index := by
  unfold addCall
  cases outcome graph.index call <;> simp

@[simp]
theorem modules_addCall : (graph.addCall call).modules = graph.modules := by
  unfold addCall
  cases outcome graph.index call <;> simp

theorem contains_addCall (id : String) :
    (graph.addCall call).components.contains id =
      graph.components.contains id := by
  rw [Keyed.contains, find?_addCall, Option.isSome_map, Keyed.contains]

end Call

/-! ## All calls -/

theorem index_calls (calls : List CallRecord) (graph : DependencyGraph) :
    (calls.foldl addCall graph).index = graph.index := by
  induction calls generalizing graph with
  | nil => rfl
  | cons call rest step => rw [List.foldl_cons, step, index_addCall]

theorem modules_calls (calls : List CallRecord) (graph : DependencyGraph) :
    (calls.foldl addCall graph).modules = graph.modules := by
  induction calls generalizing graph with
  | nil => rfl
  | cons call rest step => rw [List.foldl_cons, step, modules_addCall]

/-- Calls add their targets to the components, and nothing else. -/
theorem find?_calls (calls : List CallRecord) (graph : DependencyGraph)
    (id : String) :
    (calls.foldl addCall graph).components.find? id =
      (graph.components.find? id).map fun component =>
        component.withTargets (targetsOf graph.index calls id) := by
  induction calls generalizing graph with
  | nil => simp [targetsOf, Component.withTargets]
  | cons call rest step =>
    have split : targetsOf graph.index (call :: rest) id =
        targetsOf graph.index [call] id ++ targetsOf graph.index rest id := by
      simp [targetsOf]
    rw [List.foldl_cons, step, index_addCall, find?_addCall, Option.map_map,
      split]
    refine congrArg (fun change => Option.map change _) (funext ?_)
    intro component
    rw [Function.comp_apply, Component.withTargets_append]

/-- What a graph holds does not depend on calls. -/
theorem Holds.calls {graph : DependencyGraph} {components : List Component}
    (holds : graph.Holds components) (calls : List CallRecord) :
    (calls.foldl addCall graph).Holds components where
  index := by rw [index_calls, holds.index]
  find? id := by
    rw [find?_calls, ← holds.find? id, Option.map_map]
    rfl
  modules := by rw [modules_calls]; exact holds.modules

/-- A built graph holds the components of its records. -/
theorem holds_build (functions : List ComponentRecord)
    (calls : List CallRecord) :
    (build functions calls).Holds (keptComponents functions) :=
  (holds_records functions).calls calls

/-- The number of all dependencies. -/
def edgeTotal (graph : DependencyGraph) : Nat :=
  (graph.components.values.map fun component =>
    component.dependsOn.size).sum

/-- The edge count keeps up with the dependencies. -/
theorem edgeCount_addCall {graph : DependencyGraph}
    (counted : graph.edgeCount = graph.edgeTotal) (call : CallRecord) :
    (graph.addCall call).edgeCount = (graph.addCall call).edgeTotal := by
  unfold addCall
  cases outcome graph.index call with
  | edge caller callee =>
    simp only [addEdge]
    cases found : graph.components.find? caller with
    | none => exact counted
    | some component =>
      by_cases member : callee.target ∈ component.dependsOn
      · simp only [NameSet.contains, member, decide_true, if_true]
        exact counted
      · have sum := graph.components.sum_insert
          (fun component => component.dependsOn.size) caller
          { component with
            dependsOn := component.dependsOn.insert callee.target }
        simp only [found, Option.map_some, Option.getD_some,
          NameSet.size_insert member] at sum
        simp only [NameSet.contains, member, decide_false,
          Bool.false_eq_true, if_false, edgeTotal] at counted ⊢
        omega
  | _ => exact counted

theorem edgeCount_calls (calls : List CallRecord) (graph : DependencyGraph)
    (counted : graph.edgeCount = graph.edgeTotal) :
    (calls.foldl addCall graph).edgeCount =
      (calls.foldl addCall graph).edgeTotal := by
  induction calls generalizing graph with
  | nil => exact counted
  | cons call rest step =>
    rw [List.foldl_cons]
    exact step _ (edgeCount_addCall counted call)

/-! ## The report -/

/-- A call that adds an edge, or repeats one. -/
def isLink (index : ComponentIndex) (call : CallRecord) : Bool :=
  match outcome index call with
  | .edge _ _ => true
  | _ => false

/-- How calls are reported: each one is counted once. -/
structure Reported (before : DependencyGraph) (calls : List CallRecord)
    (after : DependencyGraph) : Prop where
  malformedRecords :
    after.report.malformedRecords = before.report.malformedRecords
  missingIds : after.report.missingIds = before.report.missingIds
  duplicateIds : after.report.duplicateIds = before.report.duplicateIds
  unknownCallers : after.report.unknownCallers =
    before.report.unknownCallers + calls.countP fun call =>
      outcome before.index call = .unknownCaller
  unknownCallees : after.report.unknownCallees =
    before.report.unknownCallees + calls.countP fun call =>
      outcome before.index call = .unknownCallee
  selfReferences : after.report.selfReferences =
    before.report.selfReferences + calls.countP fun call =>
      outcome before.index call = .selfReference
  edges : after.edgeCount + after.report.duplicateEdges =
    before.edgeCount + before.report.duplicateEdges
      + calls.countP (isLink before.index)
  ambiguous : after.report.ambiguous =
    before.report.ambiguous ++ calls.filterMap (doubt? before.index)

/-- Whatever an id or a legacy key is resolved to is a component. -/
def Resolving (graph : DependencyGraph) : Prop :=
  ∀ {key id : String}, graph.index.resolve? key = some id →
    graph.components.contains id = true

theorem Resolving.addCall {graph : DependencyGraph}
    (resolving : graph.Resolving) (call : CallRecord) :
    (graph.addCall call).Resolving := by
  intro key id found
  rw [index_addCall] at found
  rw [contains_addCall]
  exact resolving found

theorem reported_addCall {graph : DependencyGraph}
    (resolving : graph.Resolving) (call : CallRecord) :
    Reported graph [call] (graph.addCall call) := by
  unfold addCall
  cases same : outcome graph.index call with
  | edge caller callee =>
    have known := resolving (outcome_eq_edge.1 same).resolved
    rcases Option.isSome_iff_exists.1 known with ⟨component, found⟩
    have doubts : (doubt? graph.index call).toList =
        ambiguity call caller callee := by
      simp only [doubt?, same]
      cases callee with
      | byId id => rfl
      | byName id candidates =>
        by_cases several : 1 < candidates <;> simp [ambiguity, several]
    have listed : [call].filterMap (doubt? graph.index) =
        ambiguity call caller callee := by
      rw [← doubts]
      cases doubted : doubt? graph.index call <;> simp [doubted]
    simp only [addEdge, found]
    by_cases member : callee.target ∈ component.dependsOn <;>
      simp only [NameSet.contains, member] <;>
      constructor <;> simp [same, isLink, listed]
    all_goals omega
  | _ =>
    constructor <;> simp [same, isLink, doubt?]

/-- Each call is reported as it comes. -/
theorem reported_calls (calls : List CallRecord) (graph : DependencyGraph)
    (resolving : graph.Resolving) :
    Reported graph calls (calls.foldl addCall graph) := by
  induction calls generalizing graph with
  | nil => constructor <;> simp
  | cons call rest step =>
    have first := reported_addCall resolving call
    have later := step (graph.addCall call) (resolving.addCall call)
    rw [List.foldl_cons]
    constructor
    · rw [later.malformedRecords, first.malformedRecords]
    · rw [later.missingIds, first.missingIds]
    · rw [later.duplicateIds, first.duplicateIds]
    · rw [later.unknownCallers, first.unknownCallers, index_addCall]
      simp [List.countP_cons]
      omega
    · rw [later.unknownCallees, first.unknownCallees, index_addCall]
      simp [List.countP_cons]
      omega
    · rw [later.selfReferences, first.selfReferences, index_addCall]
      simp [List.countP_cons]
      omega
    · rw [later.edges, first.edges, index_addCall]
      simp [List.countP_cons]
      omega
    · rw [later.ambiguous, first.ambiguous, index_addCall]
      simp [List.filterMap_cons]
      cases doubt? graph.index call <;> simp

/-! ## Built graphs -/

theorem resolving_records (functions : List ComponentRecord) :
    (functions.foldl addRecord empty).Resolving :=
  (holds_records functions).contains_of_resolve?

/-- A graph without edges, and without anything doubtful. -/
structure Edgeless (graph : DependencyGraph) : Prop where
  edgeCount : graph.edgeCount = 0
  ambiguous : graph.report.ambiguous = []
  dependsOn : ∀ {id : String} {component : Component},
    graph.components.find? id = some component → component.dependsOn = .empty

theorem dependsOn_of_component? {record : ComponentRecord}
    {component : Component} (given : record.component? = some component) :
    component.dependsOn = .empty := by
  simp only [ComponentRecord.component?] at given
  split at given
  · exact absurd given (by simp)
  · obtain rfl := Option.some.inj given
    rfl

theorem Edgeless.addRecord {graph : DependencyGraph}
    (edgeless : graph.Edgeless) (record : ComponentRecord) :
    (graph.addRecord record).Edgeless := by
  rcases edgeless with ⟨edgeCount, ambiguous, dependsOn⟩
  unfold DependencyGraph.addRecord
  split
  · exact ⟨edgeCount, ambiguous, dependsOn⟩
  · next added given =>
    split
    · exact ⟨edgeCount, ambiguous, dependsOn⟩
    · refine ⟨edgeCount, ambiguous, ?_⟩
      intro id component found
      rw [Keyed.find?_insert] at found
      split at found
      · obtain rfl := Option.some.inj found
        exact dependsOn_of_component? given
      · exact dependsOn found

theorem edgeless_records (functions : List ComponentRecord) :
    (functions.foldl addRecord empty).Edgeless := by
  induction functions using List.reverseRecOn with
  | nil => exact ⟨rfl, rfl, fun found => absurd found (by simp [empty])⟩
  | append_singleton functions last step =>
    rw [List.foldl_append, List.foldl_cons, List.foldl_nil]
    exact step.addRecord last

theorem Edgeless.edgeTotal_eq {graph : DependencyGraph}
    (edgeless : graph.Edgeless) : graph.edgeTotal = 0 := by
  apply List.sum_eq_zero_iff_forall_eq_nat.2
  intro size member
  rcases List.mem_map.1 member with ⟨component, inside, rfl⟩
  rcases Keyed.mem_values.1 inside with ⟨id, found⟩
  simp [edgeless.dependsOn found, NameSet.size, NameSet.empty]

theorem edgeCount_build (functions : List ComponentRecord)
    (calls : List CallRecord) :
    (build functions calls).edgeCount =
      (build functions calls).edgeTotal := by
  apply edgeCount_calls
  have edgeless := edgeless_records functions
  rw [edgeless.edgeCount, edgeless.edgeTotal_eq]

theorem index_build (functions : List ComponentRecord)
    (calls : List CallRecord) :
    (build functions calls).index =
      (functions.foldl addRecord empty).index :=
  index_calls calls _

theorem reported_build (functions : List ComponentRecord)
    (calls : List CallRecord) :
    Reported (functions.foldl addRecord empty) calls
      (build functions calls) :=
  reported_calls calls _ (resolving_records functions)

/-- A built graph has the edges that its calls say. -/
theorem mem_dependsOn_build {functions : List ComponentRecord}
    {calls : List CallRecord} {id target : String} {component : Component}
    (found : (build functions calls).components.find? id =
      some component) :
    target ∈ component.dependsOn ↔
      ∃ call ∈ calls, ∃ callee,
        Links (build functions calls).index call id callee ∧
          callee.target = target := by
  rw [build, find?_calls] at found
  rcases Option.map_eq_some_iff.1 found with ⟨given, first, rfl⟩
  rw [Component.withTargets, NameSet.mem_foldl_insert, mem_targetsOf,
    (edgeless_records functions).dependsOn first, index_build]
  simp

/-- Two graphs agree but for the order of what is doubtful. -/
structure Agrees (graph other : DependencyGraph) : Prop where
  components : other.components = graph.components
  index : other.index = graph.index
  edgeCount : other.edgeCount = graph.edgeCount
  modules : other.modules = graph.modules
  counters : { other.report with ambiguous := [] } =
    { graph.report with ambiguous := [] }
  ambiguous : other.report.ambiguous.Perm graph.report.ambiguous

theorem agrees_of_perm (functions : List ComponentRecord)
    {calls others : List CallRecord} (perm : calls.Perm others) :
    Agrees (build functions calls) (build functions others) := by
  have components : (build functions others).components =
      (build functions calls).components := by
    apply Keyed.ext
    intro id
    rw [build, build, find?_calls, find?_calls]
    refine congrArg (fun change => Option.map change _) (funext ?_)
    intro component
    have targets : ∀ {name : String}, name ∈ component.dependsOn ∨
        name ∈ targetsOf (functions.foldl addRecord empty).index others id ↔
        name ∈ component.dependsOn ∨
        name ∈ targetsOf (functions.foldl addRecord empty).index calls id := by
      intro name
      simp only [mem_targetsOf, perm.mem_iff]
    refine congrArg (fun names => { component with dependsOn := names }) ?_
    apply NameSet.ext
    intro name
    rw [NameSet.mem_foldl_insert, NameSet.mem_foldl_insert, or_comm,
      targets, or_comm]
  have edgeCount : (build functions others).edgeCount =
      (build functions calls).edgeCount := by
    rw [edgeCount_build, edgeCount_build, edgeTotal, components, edgeTotal]
  have reported := reported_build functions calls
  have reported' := reported_build functions others
  refine ⟨components, ?_, edgeCount, ?_, ?_, ?_⟩
  · rw [index_build, index_build]
  · rw [build, build, modules_calls, modules_calls]
  · have duplicates : (build functions others).report.duplicateEdges =
        (build functions calls).report.duplicateEdges := by
      have total := reported.edges
      have total' := reported'.edges
      rw [← perm.countP_eq] at total'
      omega
    simp only [BuildReport.mk.injEq, and_true]
    refine ⟨?_, ?_, ?_, ?_, ?_, ?_, duplicates⟩
    · exact reported'.malformedRecords.trans reported.malformedRecords.symm
    · exact reported'.missingIds.trans reported.missingIds.symm
    · exact reported'.duplicateIds.trans reported.duplicateIds.symm
    · exact reported'.unknownCallers.trans
        (perm.countP_eq _ ▸ reported.unknownCallers.symm)
    · exact reported'.unknownCallees.trans
        (perm.countP_eq _ ▸ reported.unknownCallees.symm)
    · exact reported'.selfReferences.trans
        (perm.countP_eq _ ▸ reported.selfReferences.symm)
  · rw [reported.ambiguous, reported'.ambiguous]
    exact (perm.symm.filterMap _).append_left _

/-- A component of a built graph depends on another one exactly when a call
leads from the one to the other.  So the calls may come in any order. -/
theorem dependsOn_iff_called (functions : List ComponentRecord)
    (calls : List CallRecord) :
    (∀ id target, (build functions calls).DependsOn id target ↔
      target ≠ id ∧ ∃ call ∈ calls,
        Text.trim (call.caller.getD "") ≠ "" ∧
        (build functions calls).index.resolve?
          (Text.trim (call.caller.getD "")) = some id ∧
        ∃ callee,
          (build functions calls).index.resolveCallee?
            (call.callee.getD "") = some callee ∧
          callee.target = target)
    ∧ (∃ doubt : CallRecord → Option AmbiguousCall,
      (build functions calls).report.ambiguous = calls.filterMap doubt ∧
      ∀ call entry, doubt call = some entry ↔
        Links (build functions calls).index call entry.caller
            (.byName entry.chosen entry.candidates) ∧
          1 < entry.candidates ∧
          entry.calleeName = Text.trim (call.callee.getD ""))
    ∧ ∀ others, calls.Perm others →
      Agrees (build functions calls) (build functions others) := by
  refine ⟨?_, ?_, fun others perm => agrees_of_perm functions perm⟩
  · intro id target
    have linked : (build functions calls).DependsOn id target ↔
        ∃ call ∈ calls, ∃ callee,
          Links (build functions calls).index call id callee ∧
            callee.target = target := by
      unfold DependsOn dependencies
      cases found : (build functions calls).components.find? id with
      | some component => exact mem_dependsOn_build found
      | none =>
        refine iff_of_false List.not_mem_nil ?_
        rintro ⟨call, _, callee, links, _⟩
        have known :=
          (holds_build functions calls).contains_of_resolve? links.resolved
        simp [Keyed.contains, found] at known
    rw [linked]
    constructor
    · rintro ⟨call, member, callee, links, rfl⟩
      exact ⟨links.apart, call, member, links.visible, links.resolved,
        callee, links.matched, rfl⟩
    · rintro ⟨apart, call, member, visible, resolved, callee, matched, rfl⟩
      exact ⟨call, member, callee, ⟨visible, resolved, matched, apart⟩, rfl⟩
  · refine ⟨doubt? (build functions calls).index, ?_, fun call entry =>
      doubt?_eq_some⟩
    rw [(reported_build functions calls).ambiguous, index_build,
      (edgeless_records functions).ambiguous, List.nil_append]

namespace Sample

def record (id name filePath : String) : ComponentRecord :=
  { id := some id, name := some name, filePath := some filePath }

/-- Three components, two of which bear one name. -/
def functions : List ComponentRecord :=
  [record "a.A" "A" "a.py", record "x.H" "H" "x.py",
    record "y.H" "H" "y.py"]

def call (caller callee : String) : CallRecord :=
  { caller := some caller, callee := some callee }

/-- A doubtful call, the same edge by its id, an edge from a legacy key, and a
call to oneself. -/
def calls : List CallRecord :=
  [call "a.A" " H ", call "a.A" "x.H", call "y.py:H" "a.A", call "a.A" "A"]

end Sample

/-- The calls of the sample in the opposite order. -/
theorem dependsOn_iff_called_reversed :
    Sample.calls.Perm Sample.calls.reverse ∧
      (build Sample.functions Sample.calls).edgeCount = 2 ∧
      (build Sample.functions Sample.calls).report.ambiguous =
        [⟨"a.A", "H", "x.H", 2⟩] ∧
      Agrees (build Sample.functions Sample.calls)
        (build Sample.functions Sample.calls.reverse) := by
  have perm : Sample.calls.Perm Sample.calls.reverse :=
    (List.reverse_perm _).symm
  exact ⟨perm, by decide +kernel, by decide +kernel,
    (dependsOn_iff_called Sample.functions Sample.calls).2.2 _ perm⟩

end DependencyGraph

end ModuleAtlas
