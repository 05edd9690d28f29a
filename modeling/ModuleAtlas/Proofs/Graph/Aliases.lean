import ModuleAtlas.Proofs.Graph.Edges
import ModuleAtlas.Proofs.Text.Search

/-!
# Legacy keys as names of components

A legacy key is made of a file path and a name as the record gives them, while
a call is read with the blanks around its ends trimmed away.  So calls reach a
component by its legacy key when trimming leaves the key as it is, which the
blanks at the front of the path and at the end of the name decide.  Otherwise
the key of the call is another text, which means the component only if it
happens to be its id.
-/

namespace ModuleAtlas

namespace Component

/-- No blank begins the file path, and none ends the name. -/
structure KeyBare (component : Component) : Prop where
  path : ∀ c ∈ component.filePath.toList.head?, Text.isBlank c = false
  name : ∀ c ∈ component.name.toList.getLast?, Text.isBlank c = false

theorem toList_legacyId (component : Component) :
    component.legacyId.toList =
      component.filePath.toList ++ ':' :: component.name.toList := by
  simp [legacyId]

theorem trim_legacyId_eq_self {component : Component} :
    Text.trim component.legacyId = component.legacyId ↔
      component.KeyBare := by
  have bare := Text.trimList_append_visible_eq_self (c := ':') (by decide)
    component.filePath.toList component.name.toList
  rw [← toList_legacyId] at bare
  rw [Text.trim, ← String.toList_inj, String.toList_ofList, bare]
  exact ⟨fun both => ⟨both.1, both.2⟩, fun key => ⟨key.path, key.name⟩⟩

theorem trim_legacyId_ne_empty (component : Component) :
    Text.trim component.legacyId ≠ "" := by
  rw [Text.trim, toList_legacyId, Text.trimList_append_visible (by decide),
    Ne, ← String.toList_inj, String.toList_ofList]
  simp

/-- A trimmed legacy key is longer than the trimmed name in it. -/
theorem trim_name_ne_trim_legacyId (component : Component) :
    Text.trim component.name ≠ Text.trim component.legacyId := by
  intro same
  have lengths := congrArg (fun text => text.toList.length) same
  have shorter :=
    Text.length_trimList_le (Text.trimEndList component.name.toList)
  rw [Text.trimList_trimEndList] at shorter
  simp only [Text.trim, toList_legacyId,
    Text.trimList_append_visible (c := ':') (by decide), String.toList_ofList,
    List.length_append, List.length_cons] at lengths
  omega

end Component

/-! ## What the key of a component means -/

theorem firstPerId_sublist (components : List Component) :
    (firstPerId components).Sublist components := by
  induction components with
  | nil => exact .slnil
  | cons first rest step =>
    exact (List.filter_sublist.trans step).cons_cons first

/-- The id of a kept component is visible, and trimmed. -/
theorem trim_id_of_kept {records : List ComponentRecord}
    {component : Component} (member : component ∈ keptComponents records) :
    component.id ≠ "" ∧ Text.trim component.id = component.id := by
  rcases List.mem_filterMap.1 ((firstPerId_sublist _).mem member) with
    ⟨record, _, given⟩
  simp only [ComponentRecord.component?] at given
  split at given
  · exact absurd given (by simp)
  · next visible =>
    obtain rfl := Option.some.inj given
    exact ⟨visible, Text.trim_trim _⟩

/-- The legacy key of a component is no id, and no component before it has the
same key. -/
structure OwnsKey (components : List Component) (component : Component) :
    Prop where
  fresh : component.legacyId ∉ components.map Component.id
  first : ∃ before after, components = before ++ component :: after ∧
    ∀ earlier ∈ before, earlier.legacyId ≠ component.legacyId

namespace OwnsKey

variable {components : List Component} {component : Component}

/-- The owner of a key is the first that a search for the key meets. -/
theorem of_find? (fresh : component.legacyId ∉ components.map Component.id)
    (met : components.find? (fun earlier =>
      earlier.legacyId = component.legacyId) = some component) :
    OwnsKey components component := by
  rcases List.find?_eq_some_iff_append.1 met with
    ⟨_, before, after, split, others⟩
  exact ⟨fresh, before, after, split, by simpa using others⟩

theorem mem (owns : OwnsKey components component) :
    component ∈ components := by
  rcases owns.first with ⟨before, after, rfl, _⟩
  simp

theorem meaning?_legacyId (owns : OwnsKey components component) :
    meaning? components component.legacyId = some component.id := by
  rw [meaning?, if_neg owns.fresh]
  rcases owns.first with ⟨before, after, rfl, others⟩
  have none : before.find? (fun earlier =>
      earlier.legacyId = component.legacyId) = none := by
    simpa using others
  rw [List.find?_append, none]
  simp

/-- Only its id and its legacy key mean a component. -/
theorem meaning?_eq_some (owns : OwnsKey components component)
    (distinct : (components.map Component.id).Nodup) {key : String} :
    meaning? components key = some component.id ↔
      key = component.legacyId ∨ key = component.id := by
  constructor
  · intro means
    rw [meaning?] at means
    split at means
    · exact .inr (Option.some.inj means)
    · rcases Option.map_eq_some_iff.1 means with ⟨found, first, same⟩
      obtain rfl := List.inj_on_of_nodup_map distinct
        (List.mem_of_find?_eq_some first) owns.mem same
      have named : found.legacyId = key := by simpa using List.find?_some first
      exact .inl named.symm
  · rintro (rfl | rfl)
    · exact owns.meaning?_legacyId
    · exact meaning?_self owns.mem

/-- The legacy key of a component means it as a callee just when its trimmed
text does: no component bears its own legacy key as a name. -/
theorem calleeMeaning?_legacyId (owns : OwnsKey components component)
    (distinct : (components.map Component.id).Nodup) :
    (∃ callee, calleeMeaning? components component.legacyId = some callee ∧
        callee.target = component.id) ↔
      meaning? components (Text.trim component.legacyId) =
        some component.id := by
  simp only [calleeMeaning?, component.trim_legacyId_ne_empty, if_false]
  cases means : meaning? components (Text.trim component.legacyId) with
  | some id => simp [Match.target]
  | none =>
    refine iff_of_false ?_ (by simp)
    rintro ⟨callee, named, same⟩
    rcases Option.map_eq_some_iff.1 named with ⟨first, top, rfl⟩
    have bears := List.mem_filter.1 (List.mem_of_head? top)
    obtain rfl := List.inj_on_of_nodup_map distinct bears.1 owns.mem same
    exact first.trim_name_ne_trim_legacyId (by simpa using bears.2)

end OwnsKey

namespace DependencyGraph

/-! ## Calls by legacy keys -/

/-- The edges of a built graph in terms of its kept components. -/
theorem dependsOn_build {functions : List ComponentRecord}
    {calls : List CallRecord} {id target : String} :
    (build functions calls).DependsOn id target ↔
      ∃ call ∈ calls, ∃ callee,
        Links (.ofList (keptComponents functions)) call id callee ∧
          callee.target = target := by
  have holds := holds_build functions calls
  rw [← holds.index, DependsOn, dependencies]
  cases found : (build functions calls).components.find? id with
  | some component => exact mem_dependsOn_build found
  | none =>
    refine iff_of_false List.not_mem_nil ?_
    rintro ⟨call, _, callee, links, _⟩
    have known := holds.contains_of_resolve? links.resolved
    simp [Keyed.contains, found] at known

section Call

variable {components : List Component} {call : CallRecord}
  {caller callee : String} (starts : call.caller = some caller)
  (ends : call.callee = some callee)

include starts ends

/-- What the ends of a call mean decides which edge it adds. -/
theorem links_iff {id target : String} (visible : Text.trim caller ≠ "") :
    (∃ found, Links (.ofList components) call id found ∧
        found.target = target) ↔
      meaning? components (Text.trim caller) = some id ∧
        (∃ found, calleeMeaning? components callee = some found ∧
          found.target = target) ∧ target ≠ id := by
  constructor
  · rintro ⟨found, links, rfl⟩
    have resolved := links.resolved
    have matched := links.matched
    rw [starts, ComponentIndex.resolve?_ofList] at resolved
    rw [ends, ComponentIndex.resolveCallee?_ofList] at matched
    exact ⟨resolved, ⟨found, matched, rfl⟩, links.apart⟩
  · rintro ⟨resolved, ⟨found, matched, rfl⟩, apart⟩
    refine ⟨found, ⟨?_, ?_, ?_, apart⟩, rfl⟩
    · rwa [starts]
    · rwa [starts, ComponentIndex.resolve?_ofList]
    · rwa [ends, ComponentIndex.resolveCallee?_ofList]

end Call

/-- A call that stands for one edge adds it to every graph it is a call of
exactly when it adds it alone. -/
theorem forall_dependsOn_iff {functions : List ComponentRecord}
    {caller callee id target : String} {means : Prop}
    (linked : ∀ call : CallRecord, call.caller = some caller →
      call.callee = some callee →
      ((∃ found, Links (.ofList (keptComponents functions)) call id found ∧
        found.target = target) ↔ means)) :
    (∀ calls, ∀ call ∈ calls, call.caller = some caller →
      call.callee = some callee →
      (build functions calls).DependsOn id target) ↔ means := by
  constructor
  · intro always
    -- Every graph it is a call of includes the one it is the only call of.
    let call : CallRecord := { caller := some caller, callee := some callee }
    have depends := always [call] call List.mem_cons_self rfl rfl
    rcases dependsOn_build.1 depends with ⟨only, member, links⟩
    rw [List.mem_singleton.1 member] at links
    exact (linked call rfl rfl).1 links
  · intro holds calls call member starts ends
    exact dependsOn_build.2
      ⟨call, member, (linked call starts ends).2 holds⟩

/-- Calls to and from another component reach a component by its legacy key
exactly when no blank is trimmed off the key, or what is left of it is the id of
the component.  Neither depends on what other calls there are. -/
theorem legacyId_links_iff (functions : List ComponentRecord)
    {component other : Component}
    (owns : OwnsKey (keptComponents functions) component)
    (member : other ∈ keptComponents functions)
    (apart : other.id ≠ component.id) :
    ((∀ calls, ∀ call ∈ calls, call.caller = some component.legacyId →
        call.callee = some other.id →
        (build functions calls).DependsOn component.id other.id) ↔
      component.KeyBare ∨
        Text.trim component.legacyId = component.id) ∧
    ((∀ calls, ∀ call ∈ calls, call.caller = some other.id →
        call.callee = some component.legacyId →
        (build functions calls).DependsOn other.id component.id) ↔
      component.KeyBare ∨
        Text.trim component.legacyId = component.id) := by
  have distinct : ((keptComponents functions).map Component.id).Nodup :=
    nodup_firstPerId _
  obtain ⟨visible, trimmed⟩ := trim_id_of_kept member
  have key : meaning? (keptComponents functions)
      (Text.trim component.legacyId) = some component.id ↔
        component.KeyBare ∨ Text.trim component.legacyId = component.id := by
    rw [owns.meaning?_eq_some distinct, Component.trim_legacyId_eq_self]
  have whole := meaning?_self member
  constructor
  · refine forall_dependsOn_iff fun call starts ends => ?_
    have known : ∃ found, calleeMeaning? (keptComponents functions) other.id =
        some found ∧ found.target = other.id :=
      ⟨.byId other.id, by simp [calleeMeaning?, trimmed, visible, whole], rfl⟩
    rw [links_iff starts ends component.trim_legacyId_ne_empty, key]
    exact and_iff_left ⟨known, apart⟩
  · refine forall_dependsOn_iff fun call starts ends => ?_
    rw [links_iff starts ends (trimmed.symm ▸ visible), trimmed,
      owns.calleeMeaning?_legacyId distinct, key]
    exact ⟨fun both => both.2.1, fun bare => ⟨whole, bare, apart.symm⟩⟩

namespace Sample

/-- The component of a record with three fields. -/
def component (id name filePath : String) : Component where
  id; name; displayName := name; kind := Kind.ofLabel "function"; filePath
  relativePath := ""; startLine := 0; endLine := 0; sourceCode := ""
  hasDocstring := false; docstring := ""; parameters := []
  baseClasses := none; className := none; dependsOn := .empty

/-- A component whose name ends with a blank, and one whose name does not. -/
def padded : List ComponentRecord :=
  [record "a.A" "A " "a.py", record "b.B" "B" "b.py"]

end Sample

/-- The key of a name without blanks at its ends, in calls of both kinds. -/
theorem legacyId_links_bare :
    OwnsKey (keptComponents Sample.padded)
        (Sample.component "b.B" "B" "b.py") ∧
      Sample.component "a.A" "A " "a.py" ∈ keptComponents Sample.padded ∧
      (build Sample.padded [Sample.call "b.py:B" "a.A"]).DependsOn
        "b.B" "a.A" ∧
      (build Sample.padded [Sample.call "a.A" "b.py:B"]).DependsOn
        "a.A" "b.B" := by
  have owns : OwnsKey (keptComponents Sample.padded)
      (Sample.component "b.B" "B" "b.py") :=
    OwnsKey.of_find? (by decide +kernel) (by decide +kernel)
  have member : Sample.component "a.A" "A " "a.py" ∈
      keptComponents Sample.padded := by decide +kernel
  have bare : (Sample.component "b.B" "B" "b.py").KeyBare :=
    Component.trim_legacyId_eq_self.1 (by decide +kernel)
  have links := legacyId_links_iff Sample.padded owns member (by decide)
  exact ⟨owns, member, links.1.2 (.inl bare) _ _ List.mem_cons_self rfl rfl,
    links.2.2 (.inl bare) _ _ List.mem_cons_self rfl rfl⟩

/-- The blank at the end of a name keeps calls from the component, at either
end. -/
theorem blank_hides_legacyId :
    OwnsKey (keptComponents Sample.padded)
        (Sample.component "a.A" "A " "a.py") ∧
      Sample.component "b.B" "B" "b.py" ∈ keptComponents Sample.padded ∧
      (Sample.component "a.A" "A " "a.py").legacyId = "a.py:A " ∧
      ¬ (build Sample.padded [Sample.call "a.py:A " "b.B"]).DependsOn
        "a.A" "b.B" ∧
      ¬ (build Sample.padded [Sample.call "b.B" "a.py:A "]).DependsOn
        "b.B" "a.A" := by
  refine ⟨OwnsKey.of_find? (by decide +kernel) (by decide +kernel),
    by decide +kernel, by decide +kernel, ?_, ?_⟩
  · unfold DependsOn
    decide +kernel
  · unfold DependsOn
    decide +kernel

end DependencyGraph

end ModuleAtlas
