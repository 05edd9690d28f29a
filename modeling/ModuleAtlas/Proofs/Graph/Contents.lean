import ModuleAtlas.Proofs.Graph.Resolution

/-!
# Components that a graph is made of

A graph is made of analyzer records or of components by id.  Either way it
holds a list of components: the first component of each id in record order, or
all components in ascending order of their ids.  It holds them as they are
given but for their dependencies, and its index and its modules are those of
the list.  Calls do not change any of this.
-/

namespace ModuleAtlas

/-- A component without its dependencies. -/
def Component.bare (component : Component) : Component :=
  { component with dependsOn := .empty }

/-- The first component of each id. -/
def firstPerId : List Component → List Component
  | [] => []
  | first :: rest =>
    first :: (firstPerId rest).filter fun component =>
      component.id ≠ first.id

/-- The components that records describe, the first one of each id. -/
def keptComponents (records : List ComponentRecord) : List Component :=
  firstPerId (records.filterMap ComponentRecord.component?)

theorem firstPerId_append (components : List Component) (last : Component) :
    firstPerId (components ++ [last]) =
      firstPerId components ++
        if last.id ∈ components.map Component.id then [] else [last] := by
  induction components with
  | nil => rfl
  | cons first rest step =>
    rw [List.cons_append, firstPerId, step, firstPerId, List.filter_append,
      List.cons_append]
    by_cases same : last.id = first.id
    · by_cases known : last.id ∈ rest.map Component.id <;> simp [same]
    · by_cases known : last.id ∈ rest.map Component.id <;>
        simp_all

/-- The first component with an id is kept. -/
theorem find?_firstPerId (components : List Component) (id : String) :
    (firstPerId components).find? (fun component => component.id = id) =
      components.find? fun component => component.id = id := by
  induction components with
  | nil => rfl
  | cons first rest step =>
    by_cases same : first.id = id
    · simp [firstPerId, same]
    · rw [firstPerId, List.find?_cons_of_neg (by simpa using same),
        List.find?_cons_of_neg (by simpa using same), ← step,
        List.find?_filter]
      congr 1
      funext component
      by_cases here : component.id = id
      · simp [here, Ne.symm same]
      · simp [here]

theorem nodup_firstPerId (components : List Component) :
    ((firstPerId components).map Component.id).Nodup := by
  induction components with
  | nil => exact List.nodup_nil
  | cons first rest step =>
    rw [firstPerId, List.map_cons, List.nodup_cons]
    refine ⟨fun member => ?_, step.sublist (List.filter_sublist.map _)⟩
    rcases List.mem_map.1 member with ⟨component, inside, same⟩
    simpa [same] using (List.mem_filter.1 inside).2

/-- Among components, an id is found exactly when one of them has it. -/
theorem isSome_find?_id {components : List Component} {id : String} :
    (components.find? fun component => component.id = id).isSome = true ↔
      id ∈ components.map Component.id := by
  simp [List.find?_isSome]

/-- Among components with different ids, each one is found by its id. -/
theorem find?_id_of_mem {components : List Component}
    (distinct : (components.map Component.id).Nodup) {component : Component}
    (member : component ∈ components) :
    (components.find? fun other => other.id = component.id) =
      some component := by
  rcases Option.isSome_iff_exists.1 (isSome_find?_id.2
    (List.mem_map_of_mem member)) with ⟨other, first⟩
  rw [first, List.inj_on_of_nodup_map distinct
    (List.mem_of_find?_eq_some first) member
    (by simpa using List.find?_some first)]

namespace DependencyGraph

/-- A graph holds these components, whatever they depend on. -/
structure Holds (graph : DependencyGraph) (components : List Component) :
    Prop where
  index : graph.index = .ofList components
  find? : ∀ id, (graph.components.find? id).map Component.bare =
    (components.find? fun component => component.id = id).map Component.bare
  modules : ∀ {path : String}, path ∈ graph.modules ↔
    ∃ component ∈ components, component.modulePath? = some path

namespace Holds

variable {graph : DependencyGraph} {components : List Component}

theorem contains_iff (holds : graph.Holds components) {id : String} :
    graph.components.contains id = true ↔
      id ∈ components.map Component.id := by
  rw [Keyed.contains, ← Option.isSome_map (f := Component.bare),
    holds.find? id, Option.isSome_map, isSome_find?_id]

/-- A component is held under its id. -/
theorem id_eq (holds : graph.Holds components) {id : String}
    {component : Component}
    (found : graph.components.find? id = some component) :
    component.id = id := by
  have bare := holds.find? id
  rw [found] at bare
  rcases Option.map_eq_some_iff.1 bare.symm with ⟨given, first, same⟩
  have named : given.id = id := by simpa using List.find?_some first
  exact (congrArg Component.id same).symm.trans named

/-- What an id or a legacy key is resolved to is a component. -/
theorem contains_of_resolve? (holds : graph.Holds components)
    {key id : String} (found : graph.index.resolve? key = some id) :
    graph.components.contains id = true := by
  rw [holds.index, ComponentIndex.resolve?_ofList] at found
  exact holds.contains_iff.2 (List.mem_map.2 (exists_of_meaning? found))

theorem contains_of_resolveCallee? (holds : graph.Holds components)
    {key : String} {found : Match}
    (matched : graph.index.resolveCallee? key = some found) :
    graph.components.contains found.target = true := by
  rw [holds.index, ComponentIndex.resolveCallee?_ofList] at matched
  exact holds.contains_iff.2
    (List.mem_map.2 (exists_of_calleeMeaning? matched))

/-- An id is resolved to itself. -/
theorem resolve?_self (holds : graph.Holds components) {id : String}
    (known : graph.components.contains id = true) :
    graph.index.resolve? id = some id := by
  rcases List.mem_map.1 (holds.contains_iff.1 known) with
    ⟨component, member, rfl⟩
  rw [holds.index, ComponentIndex.resolve?_ofList, meaning?_self member]

end Holds

theorem mem_addModule {modules : NameSet} {component : Component}
    {path : String} :
    path ∈ addModule modules component ↔
      path ∈ modules ∨ component.modulePath? = some path := by
  unfold addModule
  cases component.modulePath? with
  | none => simp
  | some module =>
    simp only [NameSet.mem_insert, Option.some.injEq]
    rw [or_comm, eq_comm]

/-! ## Records -/

theorem holds_empty : empty.Holds [] where
  index := rfl
  find? _ := rfl
  modules := by simp [empty]

/-- One more component is held when its id is new. -/
theorem Holds.addRecord {graph : DependencyGraph}
    {components : List Component} (holds : graph.Holds components)
    (record : ComponentRecord) :
    (graph.addRecord record).Holds (match record.component? with
      | none => components
      | some last =>
        components ++
          if last.id ∈ components.map Component.id then [] else [last]) := by
  unfold DependencyGraph.addRecord
  cases record.component? with
  | none => exact ⟨holds.index, holds.find?, holds.modules⟩
  | some last =>
    by_cases known : graph.components.contains last.id
    · have member := holds.contains_iff.1 known
      simp only [if_pos known, if_pos member, List.append_nil]
      exact ⟨holds.index, holds.find?, holds.modules⟩
    · have fresh : last.id ∉ components.map Component.id := fun member =>
        known (holds.contains_iff.2 member)
      simp only [if_neg known, if_neg fresh]
      refine ⟨?_, ?_, ?_⟩
      · rw [ComponentIndex.ofList_append, holds.index]
      · intro id
        rw [Keyed.find?_insert, List.find?_append]
        by_cases same : last.id = id
        · subst same
          have absent := mt isSome_find?_id.1 fresh
          rw [Option.not_isSome_iff_eq_none] at absent
          simp [absent]
        · rw [if_neg same, holds.find? id]
          cases components.find? fun component => component.id = id <;>
            simp [same]
      · intro path
        simp [mem_addModule, holds.modules, or_and_right, exists_or]

/-- Records give the first component of each id. -/
theorem holds_records (records : List ComponentRecord) :
    (records.foldl addRecord empty).Holds (keptComponents records) := by
  induction records using List.reverseRecOn with
  | nil => exact holds_empty
  | append_singleton records last step =>
    have next := step.addRecord last
    rw [List.foldl_append, List.foldl_cons, List.foldl_nil]
    unfold keptComponents at next ⊢
    rw [List.filterMap_append]
    cases given : last.component? with
    | none => simpa [given] using next
    | some component =>
      rw [given] at next
      simp only [List.filterMap_cons, given, List.filterMap_nil,
        firstPerId_append]
      have same : component.id ∈
            (firstPerId (records.filterMap
              ComponentRecord.component?)).map Component.id ↔
          component.id ∈
            (records.filterMap ComponentRecord.component?).map
              Component.id := by
        rw [← isSome_find?_id, find?_firstPerId, isSome_find?_id]
      simpa only [same] using next

/-! ## Components by id -/

/-- Every component stands under its id. -/
def KeyedById (components : Keyed Component) : Prop :=
  ∀ {id : String} {component : Component},
    components.find? id = some component → component.id = id

theorem KeyedById.find?_values {components : Keyed Component}
    (keyed : KeyedById components) (id : String) :
    (components.values.find? fun component => component.id = id) =
      components.find? id := by
  cases first : components.values.find? fun component => component.id = id with
  | some component =>
    have named : component.id = id := by simpa using List.find?_some first
    rcases Keyed.mem_values.1 (List.mem_of_find?_eq_some first) with
      ⟨key, found⟩
    rw [← named, keyed found, found]
  | none =>
    cases found : components.find? id with
    | none => rfl
    | some component =>
      have member := Keyed.mem_values.2 ⟨id, found⟩
      have apart := List.find?_eq_none.1 first component member
      exact absurd (keyed found) (by simpa using apart)

/-- A component keeps its dependencies on other components. -/
theorem mem_dependsOn_keepKnown {components : Keyed Component}
    {component : Component} {target : String} :
    target ∈ (keepKnown components component).dependsOn ↔
      target ∈ component.dependsOn ∧ target ≠ component.id ∧
        components.contains target = true := by
  simp [keepKnown]

theorem foldl_adopt (known : Keyed Component) (added : List Component)
    (graph : DependencyGraph) :
    added.foldl (adopt known) graph =
      { components := added.foldl (fun components component =>
          components.insert component.id (keepKnown known component))
            graph.components
        index := added.foldl .register graph.index
        edgeCount := graph.edgeCount + (added.map fun component =>
          (keepKnown known component).dependsOn.size).sum
        modules := added.foldl addModule graph.modules
        report := { graph.report with
          unknownCallees := graph.report.unknownCallees
            + (added.map fun component => component.dependsOn.size
                - (keepKnown known component).dependsOn.size).sum } } := by
  induction added generalizing graph with
  | nil => rfl
  | cons first rest step =>
    rw [List.foldl_cons, step]
    simp only [adopt, List.foldl_cons, List.map_cons, List.sum_cons,
      Nat.add_assoc]
    rfl

theorem mem_foldl_addModule {path : String} (added : List Component)
    (modules : NameSet) :
    path ∈ added.foldl addModule modules ↔
      path ∈ modules ∨
        ∃ component ∈ added, component.modulePath? = some path := by
  induction added generalizing modules with
  | nil => simp
  | cons first rest step =>
    simp [step, mem_addModule, or_assoc]

/-- The graph around components keeps them with their dependencies on other
components. -/
theorem components_ofComponents {components : Keyed Component}
    (keyed : KeyedById components) :
    (ofComponents components).components =
      components.map fun _ component => keepKnown components component := by
  have rows : components.values.map (fun component =>
        (component.id, keepKnown components component)) =
      (components.map fun _ component =>
        keepKnown components component).entries := by
    simp only [Keyed.values, Keyed.map, List.map_map]
    apply List.map_congr_left
    rintro ⟨id, component⟩ member
    have same := keyed (Keyed.find?_eq_some_iff.2 member)
    simp [same]
  rw [ofComponents, foldl_adopt, ← Keyed.ofList_entries (Keyed.map _ _),
    ← rows, Keyed.ofList, List.foldl_map]
  rfl

theorem holds_ofComponents {components : Keyed Component}
    (keyed : KeyedById components) :
    (ofComponents components).Holds components.values where
  index := by
    rw [ofComponents, foldl_adopt]
    rfl
  find? id := by
    rw [components_ofComponents keyed, Keyed.find?_map,
      keyed.find?_values, Option.map_map]
    rfl
  modules := by
    intro path
    rw [ofComponents, foldl_adopt, mem_foldl_addModule]
    simp [empty]

end DependencyGraph

end ModuleAtlas
