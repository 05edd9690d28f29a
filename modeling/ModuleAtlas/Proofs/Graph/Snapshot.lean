import ModuleAtlas.Graph.Order
import ModuleAtlas.Graph.Seeds
import ModuleAtlas.Graph.Snapshot
import ModuleAtlas.Graph.Walk
import ModuleAtlas.Proofs.Files
import ModuleAtlas.Proofs.Graph.WellFormed
import ModuleAtlas.Proofs.Json.Decoding

/-!
# A graph is read back from its snapshot

A snapshot holds the components and nothing else.  Reading it goes another way
than building the graph: the components are registered in ascending order of
their ids, their dependencies are looked over again, and everything is counted
anew.  In a well-formed graph nothing is dropped on this way, and references
mean the same as before as long as no two components compete for them.
-/

namespace ModuleAtlas

open Json

/-! ## Components -/

/-- The stored name of a kind is read as the kind. -/
theorem Kind.decode_document (levels : Nat) (kind : Kind) :
    Kind.decode levels (document (.text kind.name)) = some kind := by
  have stored : ofStoredName? kind.name = some kind := by
    cases kind <;> decide
  rw [document, Kind.decode, pieceText?_escaped, Option.bind_some, stored]

namespace Component

/-- The numbers of a stored component are read from their digits. -/
theorem legible_toJson (component : Component) :
    ∀ number ∈ numbers component.toJson, number.Legible := by
  have bases : numbers (.ofOption .ofTexts component.baseClasses) = [] := by
    cases component.baseClasses <;> simp [ofOption, ofTexts, numbers]
  have owner : numbers (.ofOption .text component.className) = [] := by
    cases component.className <;> simp [ofOption, numbers]
  have lines : numbers component.toJson =
      [.int component.startLine.toNat, .int component.endLine.toNat] := by
    simp [toJson, numbers, bases, owner, ofTexts, ofNat]
  rw [lines]
  simp [legible_natCast]

/-- The fields of a stored component. -/
def storedFields (component : Component) : List (String × Json) :=
  match component.toJson with
  | .record fields => fields
  | _ => []

/-- A stored component is read as itself. -/
theorem decode_document (levels : Nat) (component : Component) :
    decode (levels + 2) (document component.toJson) = some component := by
  obtain ⟨fields, decoded, inside, every⟩ : ∃ fields,
      Fields.decode fieldNames (levels + 2)
        (document component.toJson) = some fields ∧
      fields.levels = levels + 1 ∧
      ∀ field ∈ component.storedFields,
        fields.get? field.1 = some (document field.2) :=
    Fields.exists_decode_document (levels + 1) (by simp)
  simp only [storedFields, toJson, List.forall_mem_cons] at every
  obtain ⟨id, name, displayName, kind, filePath, relativePath, startLine,
    endLine, sourceCode, hasDocstring, docstring, parameters, baseClasses,
    className, dependsOn, -⟩ := every
  have bases : Decoder.text.list.nullable (levels + 1)
      (document (.ofOption .ofTexts component.baseClasses)) =
      some component.baseClasses :=
    option_document texts_document (fun _ same => nomatch same) _
  have owner : Decoder.text.nullable (levels + 1)
      (document (.ofOption .text component.className)) =
      some component.className :=
    option_document (text_document _) (fun _ same => nomatch same) _
  have targets : NameSet.ofList component.dependsOn.names =
      component.dependsOn :=
    NameSet.ext fun id => NameSet.mem_ofList
  rw [decode, decoded, Option.bind_eq_bind, Option.bind_some,
    Fields.required_of_get? id, Fields.required_of_get? name,
    Fields.required_of_get? displayName, Fields.required_of_get? kind,
    Fields.required_of_get? filePath, Fields.required_of_get? relativePath,
    Fields.required_of_get? startLine, Fields.required_of_get? endLine,
    Fields.required_of_get? sourceCode, Fields.required_of_get? hasDocstring,
    Fields.required_of_get? docstring, Fields.required_of_get? parameters,
    Fields.absentable_of_get? baseClasses,
    Fields.absentable_of_get? className, Fields.optional_of_get? dependsOn,
    inside]
  simp only [text_document, Kind.decode_document, count_document,
    flag_document, texts_document, bases, owner]
  show some { component with
    dependsOn := NameSet.ofList component.dependsOn.names } = _
  rw [targets]

end Component

/-! ## References -/

/-- At most one component answers to a key, unless the key is an id. -/
def Undisputed (components : List Component) (key : String) : Prop :=
  key ∈ components.map Component.id ∨
    components.countP (fun component => component.legacyId = key) ≤ 1 ∧
    components.countP (fun component => Text.trim component.name = key) ≤ 1

theorem map_id_bare (components : List Component) :
    (components.map Component.bare).map Component.id =
      components.map Component.id := by
  rw [List.map_map]
  rfl

/-- References do not depend on what the components depend on. -/
theorem meaning?_bare (components : List Component) (key : String) :
    meaning? (components.map Component.bare) key =
      meaning? components key := by
  rw [meaning?, meaning?, map_id_bare, List.find?_map, Option.map_map]
  rfl

theorem bearers_bare (components : List Component) (name : String) :
    bearers (components.map Component.bare) name =
      (bearers components name).map Component.bare := by
  rw [bearers, bearers, List.filter_map]
  rfl

theorem calleeMeaning?_bare (components : List Component) (key : String) :
    calleeMeaning? (components.map Component.bare) key =
      calleeMeaning? components key := by
  simp only [calleeMeaning?, meaning?_bare, bearers_bare, List.length_map,
    List.head?_map, Option.map_map]
  rfl

theorem undisputed_bare {components : List Component} {key : String} :
    Undisputed (components.map Component.bare) key ↔
      Undisputed components key := by
  rw [Undisputed, Undisputed, map_id_bare, List.countP_map, List.countP_map]
  rfl

/-- What at most one item has is the same in any order. -/
theorem filter_eq_of_perm {α : Type} {test : α → Bool} {left right : List α}
    (perm : left.Perm right) (few : left.countP test ≤ 1) :
    left.filter test = right.filter test := by
  have filtered := perm.filter test
  rw [List.countP_eq_length_filter] at few
  rcases shape : left.filter test with _ | ⟨first, _ | ⟨second, others⟩⟩
  · rw [shape] at filtered
    exact filtered.nil_eq
  · rw [shape] at filtered
    exact (List.perm_singleton.1 filtered.symm).symm
  · rw [shape] at few
    simp at few

section Order

variable {left right : List Component} (perm : left.Perm right) {key : String}

include perm

theorem meaning?_of_perm (undisputed : Undisputed left key) :
    meaning? left key = meaning? right key := by
  have ids := (perm.map Component.id).mem_iff (a := key)
  by_cases known : key ∈ left.map Component.id
  · rw [meaning?, meaning?, if_pos known, if_pos (ids.1 known)]
  · have few := (undisputed.resolve_left known).1
    rw [meaning?, meaning?, if_neg known, if_neg (mt ids.2 known),
      ← List.head?_filter, ← List.head?_filter, filter_eq_of_perm perm few]

theorem calleeMeaning?_of_perm (undisputed : Undisputed left (Text.trim key)) :
    calleeMeaning? left key = calleeMeaning? right key := by
  rw [calleeMeaning?, calleeMeaning?, ← meaning?_of_perm perm undisputed]
  by_cases known : Text.trim key ∈ left.map Component.id
  · have same : meaning? left (Text.trim key) = some (Text.trim key) :=
      if_pos known
    rw [same]
  · have few := (undisputed.resolve_left known).2
    have same : bearers left (Text.trim key) =
        bearers right (Text.trim key) := filter_eq_of_perm perm few
    rw [same]

end Order

namespace DependencyGraph

/-! ## Reading a snapshot -/

/-- A snapshot that was written is read as the components by their names. -/
theorem decodeText?_toText (graph : DependencyGraph) :
    decodeText? (Decoder.mapping Component.decode) (Snapshot.toText graph) =
      some graph.components := by
  have legible : ∀ number ∈ numbers (Snapshot.toJson graph),
      number.Legible := by
    intro number member
    simp only [Snapshot.toJson, numbers, fieldNumbers_eq_flatMap,
      List.mem_flatMap, List.mem_map] at member
    rcases member with ⟨_, ⟨row, _, rfl⟩, inside⟩
    exact row.2.legible_toJson number inside
  rw [decodeText?, Snapshot.toText, ofText?_pretty _ legible,
    Option.bind_some]
  exact mapping_document (fun value => Component.decode_document 124 value)
    graph.components

/-- Components that stand under their ids are taken as they are. -/
theorem byId_of_keyed {components : Keyed Component}
    (keyed : KeyedById components) :
    Snapshot.byId components = components := by
  have rows : components.values.map (fun component =>
      (component.id, component)) = components.entries := by
    rw [Keyed.values, List.map_map]
    conv_rhs => rw [← List.map_id components.entries]
    apply List.map_congr_left
    rintro ⟨id, component⟩ member
    exact Prod.ext (keyed (Keyed.find?_eq_some_iff.2 member)) rfl
  rw [Snapshot.byId, rows, Keyed.ofList_entries]

theorem keyed_byId (stored : Keyed Component) :
    KeyedById (Snapshot.byId stored) := by
  intro id component found
  rw [Snapshot.byId, Keyed.find?_ofList_eq_lookupRow] at found
  rcases List.mem_map.1 (List.mem_reverse.1 (mem_of_lookupRow found)) with
    ⟨given, _, same⟩
  rw [← (Prod.mk.inj same).1, (Prod.mk.inj same).2]

theorem ofText?_toText {graph : DependencyGraph}
    (keyed : KeyedById graph.components) :
    Snapshot.ofText? (Snapshot.toText graph) =
      some (ofComponents graph.components) := by
  rw [Snapshot.ofText?, decodeText?_toText, Option.map_some,
    byId_of_keyed keyed]

/-! ## Nothing is dropped -/

section WellFormed

variable {graph : DependencyGraph} (formed : graph.WellFormed)

include formed

/-- The dependencies of a well-formed graph are all kept. -/
theorem WellFormed.keepKnown {id : String} {component : Component}
    (found : graph.components.find? id = some component) :
    DependencyGraph.keepKnown graph.components component = component := by
  have kept : (DependencyGraph.keepKnown graph.components
      component).dependsOn = component.dependsOn := by
    apply NameSet.ext
    intro target
    rw [mem_dependsOn_keepKnown]
    refine ⟨And.left, fun member => ⟨member, ?_, formed.known found member⟩⟩
    rw [formed.id_eq found]
    exact formed.apart found member
  exact congrArg (fun targets => { component with dependsOn := targets }) kept

theorem WellFormed.components_eq :
    (ofComponents graph.components).components = graph.components := by
  apply Keyed.ext
  intro id
  rw [find?_ofComponents formed.id_eq]
  cases found : graph.components.find? id with
  | none => rfl
  | some component => rw [Option.map_some, formed.keepKnown found]

theorem WellFormed.edgeCount_ofComponents :
    (ofComponents graph.components).edgeCount = graph.edgeCount := by
  rw [(wellFormed_ofComponents formed.id_eq).edgeCount_eq,
    formed.components_eq, formed.edgeCount_eq]

theorem WellFormed.modules_eq :
    (ofComponents graph.components).modules = graph.modules := by
  apply NameSet.ext
  intro path
  rw [(wellFormed_ofComponents formed.id_eq).mem_modules,
    formed.components_eq, formed.mem_modules]

/-- Nothing is dropped, and nothing else is counted. -/
theorem WellFormed.report_eq :
    (ofComponents graph.components).report = {} := by
  have total := edgeCount_add_unknownCallees graph.components
  rw [formed.edgeCount_ofComponents, ← formed.edgeCount_eq] at total
  have none_lost :
      (ofComponents graph.components).report.unknownCallees = 0 := by omega
  rw [ofComponents, foldl_adopt] at none_lost ⊢
  exact congrArg
    (fun count : Nat => ({ unknownCallees := count } : BuildReport)) none_lost

end WellFormed

/-! ## Components in any order -/

theorem KeyedById.map_id_values {components : Keyed Component}
    (keyed : KeyedById components) :
    components.values.map Component.id = components.names := by
  rw [Keyed.values, List.map_map, Keyed.names]
  apply List.map_congr_left
  rintro ⟨id, component⟩ member
  exact keyed (Keyed.find?_eq_some_iff.2 member)

/-- A graph holds its components in whatever order they are given. -/
theorem Holds.perm {graph : DependencyGraph} {components : List Component}
    (holds : graph.Holds components)
    (distinct : (components.map Component.id).Nodup) :
    (graph.components.values.map Component.bare).Perm
      (components.map Component.bare) := by
  have keyed : KeyedById graph.components := holds.id_eq
  have apart : (graph.components.values.map Component.bare).Nodup := by
    apply List.Nodup.of_map Component.id
    rw [map_id_bare, keyed.map_id_values]
    exact graph.components.names_nodup
  have apart' : (components.map Component.bare).Nodup := by
    apply List.Nodup.of_map Component.id
    rwa [map_id_bare]
  rw [List.perm_ext_iff_of_nodup apart apart']
  intro bare
  constructor
  · intro member
    rcases List.mem_map.1 member with ⟨component, inside, rfl⟩
    rcases Keyed.mem_values.1 inside with ⟨id, found⟩
    have held := holds.find? id
    rw [found] at held
    rcases Option.map_eq_some_iff.1 held.symm with ⟨given, first, same⟩
    exact same ▸ List.mem_map_of_mem (List.mem_of_find?_eq_some first)
  · intro member
    rcases List.mem_map.1 member with ⟨component, inside, rfl⟩
    have held := holds.find? component.id
    rw [find?_id_of_mem distinct inside] at held
    rcases Option.map_eq_some_iff.1 held with ⟨given, found, same⟩
    exact same ▸ List.mem_map_of_mem (Keyed.mem_values.2 ⟨_, found⟩)

/-! ## Graphs that are written and read -/

/-- The graphs that are made of analyzer records or read from a snapshot. -/
inductive Made : DependencyGraph → Prop where
  | built (functions : List ComponentRecord) (calls : List CallRecord) :
      Made (build functions calls)
  | analysed (analysis : Analysis) : Made (ofAnalysis analysis)
  | loaded {text : String} {graph : DependencyGraph}
      (read : Snapshot.ofText? text = some graph) : Made graph

/-- Well-formed, and holding components with different ids. -/
structure Stands (graph : DependencyGraph) : Prop where
  wellFormed : graph.WellFormed
  held : ∃ components, graph.Holds components ∧
    (components.map Component.id).Nodup

theorem Made.stands {graph : DependencyGraph} (made : Made graph) :
    graph.Stands := by
  cases made with
  | built functions calls =>
    exact ⟨wellFormed_build functions calls, _,
      holds_build functions calls, nodup_firstPerId _⟩
  | analysed analysis =>
    have formed := wellFormed_build analysis.functions analysis.relationships
    have holds := holds_build analysis.functions analysis.relationships
    exact ⟨{ formed with }, _, { holds with }, nodup_firstPerId _⟩
  | loaded read =>
    rcases Option.map_eq_some_iff.1 read with ⟨stored, _, rfl⟩
    have keyed : KeyedById (Snapshot.byId stored) := keyed_byId stored
    refine ⟨wellFormed_ofComponents keyed, _, holds_ofComponents keyed, ?_⟩
    rw [keyed.map_id_values]
    exact Keyed.names_nodup _

/-- Leaves, cycles and orders are those of the components. -/
theorem condense_congr {left right : DependencyGraph}
    (same : left.components = right.components) :
    left.condense = right.condense := by
  cases left
  cases right
  cases same
  rfl

/-- The other graph has the components of a graph and what follows from them,
and reports nothing. -/
structure Restores (graph loaded : DependencyGraph) : Prop where
  components : loaded.components = graph.components
  edgeCount : loaded.edgeCount = graph.edgeCount
  modules : loaded.modules = graph.modules
  leaves : loaded.leaves = graph.leaves
  cycles : loaded.condense.cycles = graph.condense.cycles
  dependencyOrder : loaded.dependencyOrder = graph.dependencyOrder
  walk : Walk.all loaded.condense = Walk.all graph.condense
  report : loaded.report = {}
  resolve? : ∀ key, Undisputed graph.components.values key →
    loaded.index.resolve? key = graph.index.resolve? key
  resolveCallee? : ∀ key,
    Undisputed graph.components.values (Text.trim key) →
    loaded.index.resolveCallee? key = graph.index.resolveCallee? key

theorem Stands.restores {graph : DependencyGraph} (stands : graph.Stands) :
    graph.Restores (ofComponents graph.components) := by
  rcases stands with ⟨formed, components, holds, distinct⟩
  have condensed := condense_congr formed.components_eq
  have again : (ofComponents graph.components).Holds
      graph.components.values :=
    holds_ofComponents formed.id_eq
  have perm := holds.perm distinct
  constructor
  case components => exact formed.components_eq
  case edgeCount => exact formed.edgeCount_ofComponents
  case modules => exact formed.modules_eq
  case leaves => rw [leaves, leaves, formed.components_eq]
  case cycles => rw [condensed]
  case dependencyOrder =>
    rw [DependencyGraph.dependencyOrder, DependencyGraph.dependencyOrder,
      condensed]
  case walk => rw [condensed]
  case report => exact formed.report_eq
  case resolve? =>
    intro key undisputed
    rw [again.index, holds.index, ComponentIndex.resolve?_ofList,
      ComponentIndex.resolve?_ofList, ← meaning?_bare,
      meaning?_of_perm perm (undisputed_bare.2 undisputed), meaning?_bare]
  case resolveCallee? =>
    intro key undisputed
    rw [again.index, holds.index, ComponentIndex.resolveCallee?_ofList,
      ComponentIndex.resolveCallee?_ofList, ← calleeMeaning?_bare,
      calleeMeaning?_of_perm perm (undisputed_bare.2 undisputed),
      calleeMeaning?_bare]

/-- A snapshot that was read is restored by the graph. -/
theorem succeeds_load {path : String} {files : FileTree} {text : String}
    {graph : DependencyGraph} (held : files.readText path = some text)
    (read : Snapshot.ofText? text = some graph) :
    Succeeds (Snapshot.load path :
      ExceptT Failure (StateM FileTree) DependencyGraph) files graph files :=
  succeeds_bind.2 ⟨text, files, (FileTree.holdsText _).succeeds_read held, by
    rw [read]
    exact succeeds_pure.2 ⟨rfl, rfl⟩⟩

/-- Every graph is restored from its snapshot, with everything that follows
from its components.  References that no two components compete for are
resolved as before.  A file that a graph was saved to is loaded. -/
theorem snapshot_restores {graph : DependencyGraph} (made : Made graph) :
    ∃ loaded, Snapshot.ofText? (Snapshot.toText graph) = some loaded ∧
      graph.Restores loaded ∧
      ∀ (path : String) (files later : FileTree),
        Succeeds (Snapshot.save graph path :
          ExceptT Failure (StateM FileTree) Unit) files () later →
        Succeeds (Snapshot.load path :
          ExceptT Failure (StateM FileTree) DependencyGraph)
          later loaded later := by
  have stands := made.stands
  have read := ofText?_toText stands.wellFormed.id_eq
  exact ⟨_, read, stands.restores, fun path files later saved =>
    succeeds_load ((FileTree.holdsText _).text?_of_write saved) read⟩

namespace Sample

/-- Components in descending order of their ids, one of them with unusual
texts, on the last line that can be counted. -/
def descending : DependencyGraph :=
  build [record "y.H" "H" "y.py", record "x.H" "H" "x.py",
      { record "a.A" "\"A\"" "a.py" with
        docstring := some "\u0001\n", endLine := some 18446744073709551615
        baseClasses := some ["", "B"] }]
    [call "y.H" "a.A", call "a.A" "x.H"]

end Sample

/-- The graph is restored.  The name that two components bear means the first
one of the records before, and the first one in order of ids afterwards. -/
theorem snapshot_restores_descending :
    ∃ loaded,
      Snapshot.ofText? (Snapshot.toText Sample.descending) = some loaded ∧
      Sample.descending.Restores loaded ∧
      loaded.edgeCount = 2 ∧
      Sample.descending.index.resolveCallee? "H" =
        some (.byName "y.H" 2) ∧
      loaded.index.resolveCallee? "H" = some (.byName "x.H" 2) := by
  have made : Made Sample.descending := .built _ _
  rcases snapshot_restores made with ⟨loaded, read, restores, -⟩
  have same : loaded = ofComponents Sample.descending.components := by
    rw [ofText?_toText made.stands.wellFormed.id_eq] at read
    exact (Option.some.inj read).symm
  have count : Sample.descending.edgeCount = 2 := by decide +kernel
  refine ⟨loaded, read, restores, restores.edgeCount.trans count,
    by decide +kernel, ?_⟩
  rw [same]
  decide +kernel

end DependencyGraph

end ModuleAtlas
