import ModuleAtlas.Proofs.Graph.Edges

/-!
# Well-formed graphs

A graph is made of records and calls, or of components by id.  Both ways give
a well-formed graph, in which references to components mean what the list of
components says.  Made of components, it keeps every dependency on another
component and counts the dropped ones.
-/

namespace ModuleAtlas

theorem Component.modulePath?_congr {left right : Component}
    (same : left.id = right.id) : left.modulePath? = right.modulePath? := by
  rw [Component.modulePath?, same, Component.modulePath?]

namespace DependencyGraph

/-- Components stand under their ids and depend on other components only; the
edges, the modules and the index go with them. -/
structure WellFormed (graph : DependencyGraph) : Prop where
  id_eq : ∀ {id : String} {component : Component},
    graph.components.find? id = some component → component.id = id
  apart : ∀ {id target : String} {component : Component},
    graph.components.find? id = some component →
    target ∈ component.dependsOn → target ≠ id
  known : ∀ {id target : String} {component : Component},
    graph.components.find? id = some component →
    target ∈ component.dependsOn → graph.components.contains target = true
  edgeCount_eq : graph.edgeCount =
    (graph.components.values.map fun component =>
      component.dependsOn.size).sum
  mem_modules : ∀ {path : String}, path ∈ graph.modules ↔
    ∃ component ∈ graph.components.values,
      component.modulePath? = some path
  resolved_known : ∀ {key id : String},
    graph.index.resolve? key = some id →
    graph.components.contains id = true
  matched_known : ∀ {key : String} {found : Match},
    graph.index.resolveCallee? key = some found →
    graph.components.contains found.target = true
  resolve?_self : ∀ {id : String}, graph.components.contains id = true →
    graph.index.resolve? id = some id

/-- The components that a graph holds have its modules. -/
theorem Holds.mem_modules {graph : DependencyGraph}
    {components : List Component} (holds : graph.Holds components)
    {path : String} :
    path ∈ graph.modules ↔
      ∃ component ∈ graph.components.values,
        component.modulePath? = some path := by
  rw [holds.modules]
  constructor
  · rintro ⟨component, member, named⟩
    have known := holds.contains_iff.2 (List.mem_map_of_mem member)
    rcases Option.isSome_iff_exists.1 known with ⟨held, found⟩
    refine ⟨held, Keyed.mem_values.2 ⟨_, found⟩, ?_⟩
    rw [Component.modulePath?_congr (holds.id_eq found), named]
  · rintro ⟨held, member, named⟩
    rcases Keyed.mem_values.1 member with ⟨id, found⟩
    have known : graph.components.contains id = true :=
      Option.isSome_iff_exists.2 ⟨held, found⟩
    rcases List.mem_map.1 (holds.contains_iff.1 known) with
      ⟨component, given, same⟩
    refine ⟨component, given, ?_⟩
    rw [Component.modulePath?_congr (same.trans (holds.id_eq found).symm),
      named]

/-- What is left to show of a graph that holds components are its edges. -/
theorem Holds.wellFormed {graph : DependencyGraph}
    {components : List Component} (holds : graph.Holds components)
    (edges : ∀ {id target : String} {component : Component},
      graph.components.find? id = some component →
      target ∈ component.dependsOn →
      target ≠ id ∧ graph.components.contains target = true)
    (edgeCount : graph.edgeCount = graph.edgeTotal) :
    graph.WellFormed where
  id_eq := holds.id_eq
  apart found member := (edges found member).1
  known found member := (edges found member).2
  edgeCount_eq := edgeCount
  mem_modules := holds.mem_modules
  resolved_known := holds.contains_of_resolve?
  matched_known := holds.contains_of_resolveCallee?
  resolve?_self := holds.resolve?_self

theorem wellFormed_build (functions : List ComponentRecord)
    (calls : List CallRecord) : (build functions calls).WellFormed := by
  have holds := holds_build functions calls
  refine holds.wellFormed ?_ (edgeCount_build functions calls)
  intro id target component found member
  rcases (mem_dependsOn_build found).1 member with
    ⟨call, _, callee, links, rfl⟩
  exact ⟨links.apart, holds.contains_of_resolveCallee? links.matched⟩

section Components

variable {components : Keyed Component}

/-- What becomes of a component of a given mapping. -/
theorem find?_ofComponents (keyed : KeyedById components) (id : String) :
    (ofComponents components).components.find? id =
      (components.find? id).map (keepKnown components) := by
  rw [components_ofComponents keyed, Keyed.find?_map]

theorem contains_ofComponents (keyed : KeyedById components) (id : String) :
    (ofComponents components).components.contains id =
      components.contains id := by
  rw [Keyed.contains, find?_ofComponents keyed, Option.isSome_map,
    Keyed.contains]

theorem edgeCount_ofComponents (components : Keyed Component) :
    (ofComponents components).edgeCount =
      (components.values.map fun component =>
        (keepKnown components component).dependsOn.size).sum := by
  rw [ofComponents, foldl_adopt]
  exact Nat.zero_add _

/-- The count of edges and of dropped dependencies is that of all given
dependencies. -/
theorem edgeCount_add_unknownCallees (components : Keyed Component) :
    (ofComponents components).edgeCount
        + (ofComponents components).report.unknownCallees =
      (components.values.map fun component =>
        component.dependsOn.size).sum := by
  have split : ∀ given : List Component,
      (given.map fun component =>
          (keepKnown components component).dependsOn.size).sum
        + (given.map fun component => component.dependsOn.size
            - (keepKnown components component).dependsOn.size).sum =
        (given.map fun component => component.dependsOn.size).sum := by
    intro given
    induction given with
    | nil => rfl
    | cons first rest step =>
      have fewer : (keepKnown components first).dependsOn.size ≤
          first.dependsOn.size := NameSet.size_filter_le _ _
      simp only [List.map_cons, List.sum_cons]
      omega
  rw [ofComponents, foldl_adopt, ← split components.values]
  simp [empty]

theorem wellFormed_ofComponents (keyed : KeyedById components) :
    (ofComponents components).WellFormed := by
  apply (holds_ofComponents keyed).wellFormed
  · intro id target component found member
    rw [find?_ofComponents keyed] at found
    rcases Option.map_eq_some_iff.1 found with ⟨given, first, rfl⟩
    rcases mem_dependsOn_keepKnown.1 member with ⟨_, apart, known⟩
    rw [contains_ofComponents keyed]
    exact ⟨keyed first ▸ apart, known⟩
  · rw [edgeCount_ofComponents, edgeTotal, components_ofComponents keyed,
      Keyed.values_map, Keyed.values, List.map_map, List.map_map]
    rfl

end Components

/-- Graphs are well-formed, whether they are made of records and calls or of
components by id.  In the latter case every dependency on another component is
kept, and the others are counted. -/
theorem graphs_wellFormed :
    (∀ functions calls, (build functions calls).WellFormed)
    ∧ ∀ components : Keyed Component, KeyedById components →
      (ofComponents components).WellFormed
      ∧ (ofComponents components).components.names = components.names
      ∧ (∀ id given, components.find? id = some given →
        ∃ kept, (ofComponents components).components.find? id = some kept ∧
          kept = { given with dependsOn := kept.dependsOn } ∧
          ∀ target, target ∈ kept.dependsOn ↔
            target ∈ given.dependsOn ∧ target ≠ id ∧
              components.contains target = true)
      ∧ (ofComponents components).edgeCount
          + (ofComponents components).report.unknownCallees =
        (components.values.map fun component =>
          component.dependsOn.size).sum := by
  refine ⟨wellFormed_build, fun components keyed =>
    ⟨wellFormed_ofComponents keyed, ?_, ?_,
      edgeCount_add_unknownCallees components⟩⟩
  · rw [components_ofComponents keyed]
    simp [Keyed.names, Keyed.map]
  · intro id given found
    refine ⟨keepKnown components given, ?_, rfl, ?_⟩
    · rw [find?_ofComponents keyed, found, Option.map_some]
    · intro target
      rw [mem_dependsOn_keepKnown, keyed found]

namespace Sample

/-- A component that names itself, another one, and one that is missing. -/
def given : Keyed Component :=
  .ofList ((keptComponents functions).map fun component =>
    (component.id, component.withTargets ["a.A", "gone.G", "x.H"]))

theorem given_keyed : KeyedById given := by
  intro id component found
  have rows : ∀ row ∈ given.entries, row.2.id = row.1 := by decide +kernel
  exact rows _ (Keyed.find?_eq_some_iff.1 found)

/-- Records of which one repeats an id and another one has none. -/
def damaged : List ComponentRecord :=
  functions ++ [record "x.H" "G" "z.py", {}]

/-- Calls of which one names a record that is dropped, and another one comes
from nowhere. -/
def dangling : List CallRecord :=
  calls ++ [call "a.A" "G", call "gone.G" "a.A"]

end Sample

/-- Three components with the same dependencies: four of them are kept.  Made of
records and calls, a graph drops two records and two calls. -/
theorem graphs_wellFormed_given :
    KeyedById Sample.given ∧ (ofComponents Sample.given).WellFormed ∧
      (ofComponents Sample.given).edgeCount = 4 ∧
      (ofComponents Sample.given).report.unknownCallees = 5 ∧
      (build Sample.damaged Sample.dangling).WellFormed ∧
      (build Sample.damaged Sample.dangling).edgeCount = 2 ∧
      (build Sample.damaged Sample.dangling).report =
        { missingIds := 1, duplicateIds := 1, unknownCallers := 1,
          unknownCallees := 1, selfReferences := 1, duplicateEdges := 1,
          ambiguous := [⟨"a.A", "H", "x.H", 2⟩] } :=
  ⟨Sample.given_keyed,
    (graphs_wellFormed.2 Sample.given Sample.given_keyed).1,
    by decide +kernel, by decide +kernel,
    graphs_wellFormed.1 Sample.damaged Sample.dangling,
    by decide +kernel, by decide +kernel⟩

/-! ## What references mean -/

/-- References are resolved as the list of components says. -/
structure Means (graph : DependencyGraph) (components : List Component) :
    Prop where
  /-- The list is what the graph holds, but for dependencies. -/
  held : ∀ id, (graph.components.find? id).map Component.bare =
    (components.find? fun component => component.id = id).map Component.bare
  contains_iff : ∀ id, graph.components.contains id = true ↔
    ∃ component ∈ components, component.id = id
  resolve? : ∀ key, graph.index.resolve? key = meaning? components key
  resolveCallee? : ∀ key,
    graph.index.resolveCallee? key = calleeMeaning? components key

theorem Holds.means {graph : DependencyGraph} {components : List Component}
    (holds : graph.Holds components) : graph.Means components where
  held := holds.find?
  contains_iff id := by rw [holds.contains_iff, List.mem_map]
  resolve? key := by rw [holds.index, ComponentIndex.resolve?_ofList]
  resolveCallee? key := by
    rw [holds.index, ComponentIndex.resolveCallee?_ofList]

/-- References mean components in record order, or in ascending order of the
ids when the graph is made of components by id. -/
theorem references_mean :
    (∀ functions calls,
      (build functions calls).Means (keptComponents functions))
    ∧ ∀ components : Keyed Component, KeyedById components →
      (ofComponents components).Means components.values :=
  ⟨fun functions calls => (holds_build functions calls).means,
    fun _ keyed => (holds_ofComponents keyed).means⟩

/-- The bare name of two components means the first one in order of ids.  Names
and keys of records that were dropped mean nothing. -/
theorem references_mean_given :
    KeyedById Sample.given ∧
      (ofComponents Sample.given).Means Sample.given.values ∧
      (ofComponents Sample.given).index.resolveCallee? " H" =
        some (.byName "x.H" 2) ∧
      (ofComponents Sample.given).index.resolve? "y.py:H" =
        some "y.H" ∧
      (build Sample.damaged Sample.dangling).Means
        (keptComponents Sample.damaged) ∧
      (build Sample.damaged Sample.dangling).index.resolveCallee? "G" =
        none ∧
      (build Sample.damaged Sample.dangling).index.resolve? "z.py:G" =
        none := by
  have means := references_mean.2 Sample.given Sample.given_keyed
  have built := references_mean.1 Sample.damaged Sample.dangling
  exact ⟨Sample.given_keyed, means, by decide +kernel, by decide +kernel,
    built, by decide +kernel, by decide +kernel⟩

end DependencyGraph

end ModuleAtlas
