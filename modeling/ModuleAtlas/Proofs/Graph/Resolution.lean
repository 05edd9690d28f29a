import Mathlib.Data.List.Induction
import ModuleAtlas.Graph.Build
import ModuleAtlas.Proofs.Keyed

/-!
# What references to components mean

An index takes components in turn, and its rows are overwritten on the way: an
id takes the row that an earlier legacy key had.  What the index answers in the
end depends on the list of components only.  An id means its own component,
any other key the first component with that legacy key, and a callee that is
neither the first component that bears the name.
-/

namespace ModuleAtlas

/-- What an id or a legacy key means among components. -/
def meaning? (components : List Component) (key : String) : Option String :=
  if key ∈ components.map Component.id then some key
  else
    (components.find? fun component => component.legacyId = key).map
      Component.id

/-- The components that bear a name, the blanks around it aside. -/
def bearers (components : List Component) (name : String) : List Component :=
  components.filter fun component => Text.trim component.name = name

/-- What a callee means among components. -/
def calleeMeaning? (components : List Component) (key : String) :
    Option Match :=
  let name := Text.trim key
  if name = "" then none
  else
    match meaning? components name with
    | some id => some (.byId id)
    | none =>
      (bearers components name).head?.map fun first =>
        .byName first.id (bearers components name).length

theorem meaning?_append (components : List Component) (last : Component)
    (key : String) :
    meaning? (components ++ [last]) key =
      if key = last.id then some last.id
      else if key = last.legacyId then
        some ((meaning? components key).getD last.id)
      else meaning? components key := by
  unfold meaning?
  by_cases isId : key = last.id
  · simp [isId]
  · by_cases known : key ∈ components.map Component.id
    · have either : key ∈ (components ++ [last]).map Component.id := by
        rw [List.map_append]
        exact List.mem_append_left _ known
      rw [if_pos either, if_pos known, if_neg isId, Option.getD_some, ite_self]
    · simp only [List.map_append, List.map_cons, List.map_nil,
        List.mem_append, List.mem_singleton, known, isId, or_self, if_false,
        List.find?_append]
      cases components.find? fun component => component.legacyId = key with
      | some first => simp
      | none =>
        by_cases isLegacy : key = last.legacyId <;>
          simp [isLegacy, eq_comm]

/-- What an id or a legacy key means is a component. -/
theorem exists_of_meaning? {components : List Component} {key id : String}
    (means : meaning? components key = some id) :
    ∃ component ∈ components, component.id = id := by
  unfold meaning? at means
  split at means
  · next known =>
    obtain rfl := Option.some.inj means
    exact List.mem_map.1 known
  · rcases Option.map_eq_some_iff.1 means with ⟨component, first, same⟩
    exact ⟨component, List.mem_of_find?_eq_some first, same⟩

theorem meaning?_self {components : List Component} {component : Component}
    (member : component ∈ components) :
    meaning? components component.id = some component.id :=
  if_pos (List.mem_map_of_mem member)

/-- What a callee means is a component. -/
theorem exists_of_calleeMeaning? {components : List Component}
    {key : String} {found : Match}
    (means : calleeMeaning? components key = some found) :
    ∃ component ∈ components, component.id = found.target := by
  simp only [calleeMeaning?] at means
  split at means
  · exact absurd means (by simp)
  · split at means
    · next id known =>
      obtain rfl := Option.some.inj means
      exact exists_of_meaning? known
    · rcases Option.map_eq_some_iff.1 means with ⟨first, top, rfl⟩
      exact ⟨first, (List.mem_filter.1 (List.mem_of_head? top)).1, rfl⟩

namespace ComponentIndex

/-- The index of components that are registered in turn. -/
def ofList (components : List Component) : ComponentIndex :=
  components.foldl register empty

theorem ofList_append (components : List Component) (last : Component) :
    ofList (components ++ [last]) = (ofList components).register last := by
  simp [ofList]

theorem resolve?_register (index : ComponentIndex) (component : Component)
    (key : String) :
    (index.register component).resolve? key =
      if key = component.id then some component.id
      else if key = component.legacyId then
        some ((index.resolve? key).getD component.id)
      else index.resolve? key := by
  unfold register resolve?
  by_cases isId : key = component.id
  · subst isId
    by_cases same : component.legacyId = component.id <;>
      simp [same, Keyed.find?_insertNew]
  · by_cases isLegacy : key = component.legacyId
    · subst isLegacy
      simp [isId, Ne.symm isId, Keyed.find?_insertNew]
    · by_cases same : component.legacyId = component.id <;>
        simp [same, isId, isLegacy, Ne.symm isId, Ne.symm isLegacy,
          Keyed.find?_insertNew]

theorem resolve?_ofList (components : List Component) (key : String) :
    (ofList components).resolve? key = meaning? components key := by
  induction components using List.reverseRecOn with
  | nil => rfl
  | append_singleton components last step =>
    rw [ofList_append, resolve?_register, step, meaning?_append]

theorem find?_named_register (index : ComponentIndex) (component : Component)
    {name : String} (visible : name ≠ "") :
    (index.register component).named.find? name =
      if Text.trim component.name = name then
        some ((index.named.find? name).getD [] ++ [component.id])
      else index.named.find? name := by
  unfold register
  by_cases bears : Text.trim component.name = name
  · simp [bears, visible]
  · by_cases hidden : Text.trim component.name = ""
    · simp [hidden, visible.symm]
    · simp [hidden, bears]

/-- The row of a name has the ids of its bearers, in order. -/
theorem find?_named_ofList (components : List Component) {name : String}
    (visible : name ≠ "") :
    (ofList components).named.find? name =
      if bearers components name = [] then none
      else some ((bearers components name).map Component.id) := by
  induction components using List.reverseRecOn with
  | nil => rfl
  | append_singleton components last step =>
    rw [ofList_append, find?_named_register _ _ visible, step]
    have grown : bearers (components ++ [last]) name =
        bearers components name ++
          if Text.trim last.name = name then [last] else [] := by
      by_cases bears : Text.trim last.name = name <;>
        simp [bearers, bears]
    rw [grown]
    by_cases bears : Text.trim last.name = name
    · by_cases none : bearers components name = [] <;> simp [bears, none]
    · simp [bears]

theorem resolveCallee?_ofList (components : List Component) (key : String) :
    (ofList components).resolveCallee? key =
      calleeMeaning? components key := by
  unfold resolveCallee? calleeMeaning?
  by_cases blank : Text.trim key = ""
  · simp [blank]
  · simp only [blank, if_false, resolve?_ofList,
      find?_named_ofList components blank]
    cases meaning? components (Text.trim key) with
    | some id => rfl
    | none => cases bearers components (Text.trim key) <;> simp

end ComponentIndex

end ModuleAtlas
