import Mathlib.Data.List.Infix
import ModuleAtlas.Module.Forest

/-!
# Locations of a forest

A location of a forest is a path whose nodes exist; the empty path is the
location of the first level.  Changing a forest below one location is seen
from there on and nowhere else.  Ordered forests are equal when they have the
same values at all paths.
-/

namespace ModuleAtlas

universe u v

namespace Forest

variable {α : Type u} {β : Type v}

/-! ## Locations -/

/-- The forest below a location. -/
def level? : List String → Forest α → Option (Forest α)
  | [], forest => some forest
  | _ :: _, nil => none
  | first :: path, node name _ children rest =>
    if name = first then level? path children
    else level? (first :: path) rest

/-- The value of the node at a path. -/
def valueAt? (path : List String) (forest : Forest α) : Option α :=
  (find? path forest).map Prod.fst

@[simp]
theorem level?_root (forest : Forest α) : level? [] forest = some forest := by
  cases forest <;> rfl

@[simp]
theorem level?_empty (first : String) (path : List String) :
    level? (first :: path) (nil : Forest α) = none := rfl

theorem level?_node (first : String) (path : List String) (name : String)
    (value : α) (children rest : Forest α) :
    level? (first :: path) (node name value children rest) =
      if name = first then level? path children
      else level? (first :: path) rest := rfl

@[simp]
theorem changeBelow_root (change : Forest α → Forest α)
    (forest : Forest α) : changeBelow change [] forest = change forest := by
  cases forest <;> rfl

@[simp]
theorem changeBelow_empty (change : Forest α → Forest α) (first : String)
    (path : List String) :
    changeBelow change (first :: path) nil = nil := rfl

theorem changeBelow_node (change : Forest α → Forest α) (first : String)
    (path : List String) (name : String) (value : α)
    (children rest : Forest α) :
    changeBelow change (first :: path) (node name value children rest) =
      if name = first then
        node name value (changeBelow change path children) rest
      else
        node name value children (changeBelow change (first :: path) rest) :=
  rfl

@[simp]
theorem find?_root (forest : Forest α) : find? [] forest = none := by
  cases forest <;> rfl

@[simp]
theorem find?_empty (path : List String) :
    find? path (nil : Forest α) = none := by
  cases path <;> rfl

theorem find?_node (first : String) (path : List String) (name : String)
    (value : α) (children rest : Forest α) :
    find? (first :: path) (node name value children rest) =
      if name = first then
        if path = [] then some (value, children) else find? path children
      else find? (first :: path) rest := by
  cases path <;> simp [find?]

/-- A node is a location, and what is below it are its children. -/
theorem level?_of_find? {path : List String} {forest : Forest α}
    {found : α × Forest α} (met : find? path forest = some found) :
    level? path forest = some found.2 := by
  induction forest generalizing path with
  | nil => simp at met
  | node name value children rest below beside =>
    cases path with
    | nil => simp at met
    | cons first path =>
      rw [find?_node] at met
      rw [level?_node]
      split at met
      · next same =>
        rw [if_pos same]
        split at met
        · next last =>
          subst last
          simpa using congrArg (Option.map Prod.snd) met
        · exact below met
      · next different =>
        rw [if_neg different]
        exact beside met

/-- Apart from the first level, every location is a node. -/
theorem find?_isSome_of_level? {path : List String} {forest inner : Forest α}
    (nonempty : path ≠ []) (met : level? path forest = some inner) :
    ∃ value, find? path forest = some (value, inner) := by
  induction forest generalizing path with
  | nil =>
    cases path with
    | nil => exact absurd rfl nonempty
    | cons first path => simp at met
  | node name value children rest below beside =>
    cases path with
    | nil => exact absurd rfl nonempty
    | cons first path =>
      rw [level?_node] at met
      rw [find?_node]
      split at met
      · next same =>
        rw [if_pos same]
        split
        · next last =>
          subst last
          rw [level?_root, Option.some.injEq] at met
          exact ⟨value, by rw [met]⟩
        · next more => exact below more met
      · next different =>
        rw [if_neg different]
        exact beside nonempty met

theorem level?_append (path other : List String) (forest : Forest α) :
    level? (path ++ other) forest =
      (level? path forest).bind (level? other) := by
  induction forest generalizing path with
  | nil => cases path <;> simp
  | node name value children rest below beside =>
    cases path with
    | nil => simp
    | cons first path =>
      rw [List.cons_append, level?_node, level?_node]
      split
      · exact below path
      · exact beside (first :: path)

/-- The node at a path is sought below the location of its first part. -/
theorem find?_append (path : List String) (first : String)
    (other : List String) (forest : Forest α) :
    find? (path ++ first :: other) forest =
      (level? path forest).bind (find? (first :: other)) := by
  induction forest generalizing path with
  | nil => cases path <;> simp
  | node name value children rest below beside =>
    cases path with
    | nil => simp
    | cons head path =>
      rw [List.cons_append, find?_node, level?_node]
      split
      · rw [if_neg (by simp)]
        exact below path
      · exact beside (head :: path)

/-- Apart from the first level, locations are nodes. -/
theorem level?_cons (first : String) (path : List String)
    (forest : Forest α) :
    level? (first :: path) forest =
      (find? (first :: path) forest).map Prod.snd := by
  cases located : level? (first :: path) forest with
  | some inner =>
    rcases find?_isSome_of_level? (by simp) located with ⟨value, met⟩
    rw [met]
    rfl
  | none =>
    cases met : find? (first :: path) forest with
    | none => rfl
    | some found =>
      rw [level?_of_find? met] at located
      exact absurd located (by simp)

theorem find?_below {path : List String} {forest inner : Forest α}
    (located : level? path forest = some inner) {other : List String}
    (nonempty : other ≠ []) :
    find? (path ++ other) forest = find? other inner := by
  cases other with
  | nil => exact absurd rfl nonempty
  | cons first other =>
    rw [find?_append, located]
    rfl

theorem find?_single_eq_none {name : String} {forest : Forest α} :
    find? [name] forest = none ↔ name ∉ forest.roots.map Prod.fst := by
  induction forest with
  | nil => simp [roots]
  | node head value children rest _ beside =>
    rw [find?_node, roots, List.map_cons, List.mem_cons, not_or, ← beside]
    by_cases same : head = name
    · simp [same]
    · simp [same, Ne.symm same]

/-- Nothing is below a name that is not there. -/
theorem find?_cons_eq_none {name : String} {forest : Forest α}
    (absent : find? [name] forest = none) (path : List String) :
    find? (name :: path) forest = none := by
  cases path with
  | nil => exact absent
  | cons first path =>
    have lost : level? [name] forest = none := by
      rw [level?_cons, absent]
      rfl
    rw [← List.singleton_append, find?_append, lost]
    rfl

/-! ## Changes below a location -/

theorem changeBelow_id (path : List String) (forest : Forest α) :
    changeBelow (fun inner => inner) path forest = forest := by
  induction forest generalizing path with
  | nil => cases path <;> simp
  | node name value children rest below beside =>
    cases path with
    | nil => simp
    | cons first path => simp [changeBelow_node, below, beside]

theorem changeBelow_changeBelow (earlier later : Forest α → Forest α)
    (path : List String) (forest : Forest α) :
    changeBelow later path (changeBelow earlier path forest) =
      changeBelow (fun inner => later (earlier inner)) path forest := by
  induction forest generalizing path with
  | nil => cases path <;> simp
  | node name value children rest below beside =>
    cases path with
    | nil => simp
    | cons first path =>
      rw [changeBelow_node, changeBelow_node]
      split
      · next same => rw [changeBelow_node, if_pos same, below]
      · next different => rw [changeBelow_node, if_neg different, beside]

/-- Nothing changes below a path that leads nowhere. -/
theorem changeBelow_of_lost (change : Forest α → Forest α)
    {path : List String} {forest : Forest α}
    (lost : level? path forest = none) :
    changeBelow change path forest = forest := by
  induction forest generalizing path with
  | nil =>
    cases path with
    | nil => simp at lost
    | cons first path => rfl
  | node name value children rest below beside =>
    cases path with
    | nil => simp at lost
    | cons first path =>
      rw [level?_node] at lost
      rw [changeBelow_node]
      split at lost
      · next same => rw [if_pos same, below lost]
      · next different => rw [if_neg different, beside lost]

/-- A change below a longer path is one below a shorter path. -/
theorem changeBelow_append (change : Forest α → Forest α)
    (path other : List String) (forest : Forest α) :
    changeBelow change (path ++ other) forest =
      changeBelow (changeBelow change other) path forest := by
  induction forest generalizing path with
  | nil => cases path <;> simp
  | node name value children rest below beside =>
    cases path with
    | nil => simp
    | cons first path =>
      rw [List.cons_append, changeBelow_node, changeBelow_node, below,
        ← beside, List.cons_append]

theorem level?_changeBelow_self (change : Forest α → Forest α)
    (path other : List String) (forest : Forest α) :
    level? (path ++ other) (changeBelow change path forest) =
      (level? path forest).bind fun inner => level? other (change inner) := by
  induction forest generalizing path with
  | nil => cases path <;> simp
  | node name value children rest below beside =>
    cases path with
    | nil => simp
    | cons first path =>
      rw [changeBelow_node, level?_node, List.cons_append]
      split
      · next same =>
        rw [level?_node, if_pos same]
        exact below path
      · next different =>
        rw [level?_node, if_neg different]
        exact beside (first :: path)

theorem level?_changeBelow_of_apart (change : Forest α → Forest α)
    {path other : List String} (notBelow : ¬ path <+: other)
    (notAbove : ¬ other <+: path) (forest : Forest α) :
    level? other (changeBelow change path forest) = level? other forest := by
  induction forest generalizing path other with
  | nil =>
    cases path with
    | nil => exact absurd List.nil_prefix notBelow
    | cons first path => simp
  | node name value children rest below beside =>
    cases path with
    | nil => exact absurd List.nil_prefix notBelow
    | cons first path =>
      cases other with
      | nil => exact absurd List.nil_prefix notAbove
      | cons head other =>
        rw [changeBelow_node]
        split
        · next same =>
          rw [level?_node, level?_node]
          split
          · next same' =>
            rw [List.cons_prefix_cons] at notBelow notAbove
            apply below
            · exact fun inside => notBelow ⟨same.symm.trans same', inside⟩
            · exact fun inside => notAbove ⟨same'.symm.trans same, inside⟩
          · rfl
        · rw [level?_node, level?_node, beside notBelow notAbove]

/-- A change below a location removes no location with a path that is not
longer. -/
theorem isSome_level?_changeBelow (change : Forest α → Forest α)
    {path other : List String} (short : other.length ≤ path.length)
    (forest : Forest α) :
    (level? other (changeBelow change path forest)).isSome =
      (level? other forest).isSome := by
  by_cases above : other <+: path
  · rcases above with ⟨more, rfl⟩
    have changed :=
      level?_changeBelow_self (changeBelow change more) other [] forest
    rw [List.append_nil] at changed
    rw [changeBelow_append, changed]
    cases level? other forest <;> simp
  · rw [level?_changeBelow_of_apart change _ above]
    intro below
    obtain rfl := below.eq_of_length_le short
    exact above List.prefix_rfl

theorem find?_changeBelow_below (change : Forest α → Forest α)
    (path : List String) (first : String) (other : List String)
    (forest : Forest α) :
    find? (path ++ first :: other) (changeBelow change path forest) =
      (level? path forest).bind fun inner =>
        find? (first :: other) (change inner) := by
  have changed := level?_changeBelow_self change path [] forest
  rw [List.append_nil] at changed
  rw [find?_append, changed, Option.bind_assoc]
  simp

/-- A node above a change keeps its value. -/
theorem find?_changeBelow_above (change : Forest α → Forest α)
    {path : List String} (nonempty : path ≠ []) (other : List String)
    (forest : Forest α) :
    find? path (changeBelow change (path ++ other) forest) =
      (find? path forest).map fun found =>
        (found.1, changeBelow change other found.2) := by
  induction forest generalizing path with
  | nil =>
    cases path with
    | nil => exact absurd rfl nonempty
    | cons first path => simp
  | node name value children rest below beside =>
    cases path with
    | nil => exact absurd rfl nonempty
    | cons first path =>
      rw [List.cons_append, changeBelow_node, find?_node]
      split
      · next same =>
        rw [find?_node, if_pos same]
        split
        · next last => simp [last]
        · next more => exact below more
      · next different =>
        rw [find?_node, if_neg different]
        exact beside nonempty

theorem find?_changeBelow_of_apart (change : Forest α → Forest α)
    {path other : List String} (notBelow : ¬ path <+: other)
    (notAbove : ¬ other <+: path) (forest : Forest α) :
    find? other (changeBelow change path forest) = find? other forest := by
  induction forest generalizing path other with
  | nil =>
    cases path with
    | nil => exact absurd List.nil_prefix notBelow
    | cons first path => simp
  | node name value children rest below beside =>
    cases path with
    | nil => exact absurd List.nil_prefix notBelow
    | cons first path =>
      cases other with
      | nil => exact absurd List.nil_prefix notAbove
      | cons head other =>
        rw [changeBelow_node]
        split
        · next same =>
          rw [find?_node, find?_node]
          split
          · next same' =>
            rw [List.cons_prefix_cons] at notBelow notAbove
            rw [below (fun inside => notBelow ⟨same.symm.trans same', inside⟩)
              fun inside => notAbove ⟨same'.symm.trans same, inside⟩]
            cases other with
            | nil => exact absurd ⟨same'.symm.trans same, List.nil_prefix⟩ notAbove
            | cons next other => simp
          · rfl
        · rw [find?_node, find?_node, beside notBelow notAbove]

theorem find?_insert (first : String) (path : List String) (name : String)
    (value : α) (children forest : Forest α) :
    find? (first :: path) (forest.insert name value children) =
      if name = first then
        if path = [] then some (value, children) else find? path children
      else find? (first :: path) forest := by
  induction forest with
  | nil => rw [insert, find?_node, find?_empty]
  | node head headValue headChildren rest _ beside =>
    unfold insert
    split
    · rw [find?_node]
    · split
      · next same =>
        subst same
        by_cases here : head = first
        · simp [find?_node, here]
        · simp [find?_node, here]
      · next different =>
        rw [find?_node, find?_node, beside]
        by_cases here : head = first
        · have away : name ≠ first := fun equal =>
            different (here.trans equal.symm)
          simp [here, away]
        · simp [here]

/-- Two locations with nothing below them are not above one another. -/
theorem level?_changeBelow_of_childless (change : Forest α → Forest α)
    {path other : List String} {forest : Forest α} (different : other ≠ path)
    (childless : level? path forest = some nil)
    (childless' : level? other forest = some nil) :
    level? other (changeBelow change path forest) = some nil := by
  have apart : ∀ upper lower : List String, lower ≠ upper →
      level? upper forest = some nil → level? lower forest = some nil →
      ¬ upper <+: lower := by
    rintro upper _ distinct met met' ⟨tail, rfl⟩
    cases tail with
    | nil => exact distinct (List.append_nil upper)
    | cons first tail => simp [level?_append, met] at met'
  rw [level?_changeBelow_of_apart change
    (apart path other different childless childless')
    (apart other path different.symm childless' childless), childless']

theorem level?_insert (first : String) (path : List String) (name : String)
    (value : α) (children forest : Forest α) :
    level? (first :: path) (forest.insert name value children) =
      if name = first then level? path children
      else level? (first :: path) forest := by
  induction forest with
  | nil => rfl
  | node head headValue headChildren rest _ beside =>
    unfold insert
    split
    · rfl
    · split
      · next same =>
        subst same
        rw [level?_node, level?_node]
        split <;> rfl
      · next different =>
        rw [level?_node, level?_node, beside]
        split
        · next same => rw [if_neg fun equal => different (same.trans equal.symm)]
        · rfl

/-! ## Changing the values -/

@[simp]
theorem map_eq_nil {change : α → β} {forest : Forest α} :
    forest.map change = nil ↔ forest = nil := by
  cases forest <;> simp [map]

@[simp]
theorem roots_map (change : α → β) (forest : Forest α) :
    (forest.map change).roots =
      forest.roots.map fun root => (root.1, change root.2) := by
  induction forest with
  | nil => rfl
  | node name value children rest _ beside => simp [map, roots, beside]

theorem Ordered.map (change : α → β) {forest : Forest α}
    (ordered : forest.Ordered) : (forest.map change).Ordered := by
  induction forest with
  | nil => trivial
  | node name value children rest below beside =>
    rcases ordered with ⟨above, childrenOrdered, restOrdered⟩
    refine ⟨?_, below childrenOrdered, beside restOrdered⟩
    intro sibling member
    rw [roots_map, List.mem_map] at member
    rcases member with ⟨root, inside, rfl⟩
    exact above root inside

theorem map_insert (change : α → β) (name : String) (value : α)
    (children forest : Forest α) :
    (forest.insert name value children).map change =
      (forest.map change).insert name (change value)
        (children.map change) := by
  induction forest with
  | nil => rfl
  | node head headValue headChildren rest _ beside =>
    rw [map, insert, insert]
    split
    · rfl
    · split
      · rfl
      · rw [map, beside]

theorem map_changeBelow {change : α → β} {inner : Forest α → Forest α}
    {outer : Forest β → Forest β}
    (agree : ∀ forest, (inner forest).map change = outer (forest.map change))
    (path : List String) (forest : Forest α) :
    (changeBelow inner path forest).map change =
      changeBelow outer path (forest.map change) := by
  induction forest generalizing path with
  | nil =>
    cases path with
    | nil => simpa using agree nil
    | cons first path => rfl
  | node name value children rest below beside =>
    cases path with
    | nil => simpa using agree (node name value children rest)
    | cons first path =>
      rw [map, changeBelow_node, changeBelow_node]
      split
      · rw [map, below]
      · rw [map, beside]

@[simp]
theorem find?_map (change : α → β) (path : List String)
    (forest : Forest α) :
    find? path (forest.map change) =
      (find? path forest).map fun found =>
        (change found.1, found.2.map change) := by
  induction forest generalizing path with
  | nil => simp [map]
  | node name value children rest below beside =>
    cases path with
    | nil => simp
    | cons first path =>
      rw [map, find?_node, find?_node]
      split
      · split
        · rfl
        · exact below path
      · exact beside (first :: path)

/-! ## Ordered forests -/

theorem Ordered.of_level? {path : List String} {forest inner : Forest α}
    (ordered : forest.Ordered) (located : level? path forest = some inner) :
    inner.Ordered := by
  induction forest generalizing path with
  | nil =>
    cases path with
    | nil => exact Option.some.inj located ▸ ordered
    | cons first path => simp at located
  | node name value children rest below beside =>
    cases path with
    | nil => exact Option.some.inj located ▸ ordered
    | cons first path =>
      rw [level?_node] at located
      split at located
      · exact below ordered.2.1 located
      · exact beside ordered.2.2 located

theorem find?_eq_none_of_below {forest : Forest α} {first : String}
    (absent : ∀ root ∈ forest.roots, first < root.1) (path : List String) :
    find? (first :: path) forest = none := by
  induction forest with
  | nil => rfl
  | node name value children rest _ beside =>
    have before : first < name := absent (name, value) (by simp [roots])
    rw [find?_node, if_neg (String.ne_of_lt before).symm]
    apply beside
    intro root member
    exact absent root (List.mem_cons_of_mem _ member)

theorem find?_rest {name first : String} {value : α} {children rest : Forest α}
    (ordered : (node name value children rest).Ordered) {path : List String}
    {found : α × Forest α} (met : find? (first :: path) rest = some found) :
    name ≠ first := by
  rintro rfl
  rw [find?_eq_none_of_below ordered.1] at met
  exact absurd met (by simp)

/-- Nothing is found before the first node of an ordered forest. -/
theorem find?_eq_none_of_lt {name first : String} {value : α}
    {children rest : Forest α}
    (ordered : (node name value children rest).Ordered)
    (before : first < name) (path : List String) :
    find? (first :: path) (node name value children rest) = none := by
  apply find?_eq_none_of_below
  intro root member
  rcases List.mem_cons.1 member with same | inside
  · exact same ▸ before
  · exact String.lt_trans before (ordered.1 root inside)

/-- The roots of an ordered forest, seen through look-up. -/
theorem mem_roots_iff {forest : Forest α} (ordered : forest.Ordered)
    {name : String} {value : α} :
    (name, value) ∈ forest.roots ↔ valueAt? [name] forest = some value := by
  induction forest with
  | nil => simp [roots, valueAt?]
  | node head item children rest _ beside =>
    have onward := beside ordered.2.2
    rw [roots, List.mem_cons, Prod.mk.injEq, onward, valueAt?, valueAt?,
      find?_node]
    by_cases same : head = name
    · subst same
      have absent := find?_eq_none_of_below ordered.1 []
      simp [absent, eq_comm]
    · simp [same, Ne.symm same]

theorem ext_of_valueAt? {left right : Forest α} (ordered : left.Ordered)
    (ordered' : right.Ordered)
    (agree : ∀ path, valueAt? path left = valueAt? path right) :
    left = right := by
  induction left generalizing right with
  | nil =>
    cases right with
    | nil => rfl
    | node name value children rest =>
      simpa [valueAt?, find?_node] using agree [name]
  | node name value children rest below beside =>
    cases right with
    | nil => simpa [valueAt?, find?_node] using agree [name]
    | node name' value' children' rest' =>
      have heads : name = name' := by
        apply Std.le_antisymm
        · apply Std.not_lt.1
          intro after
          have absent := find?_eq_none_of_lt ordered after []
          simpa [valueAt?, absent, find?_node] using agree [name']
        · apply Std.not_lt.1
          intro before
          have absent := find?_eq_none_of_lt ordered' before []
          simpa [valueAt?, absent, find?_node] using agree [name]
      subst heads
      have values : value = value' := by
        simpa [valueAt?, find?_node] using agree [name]
      have inner : children = children' := by
        apply below ordered.2.1 ordered'.2.1
        intro path
        cases path with
        | nil => simp [valueAt?]
        | cons first path =>
          simpa [valueAt?, find?_node] using agree (name :: first :: path)
      have others : rest = rest' := by
        apply beside ordered.2.2 ordered'.2.2
        intro path
        cases path with
        | nil => simp [valueAt?]
        | cons first path =>
          by_cases same : name = first
          · subst same
            rw [valueAt?, valueAt?, find?_eq_none_of_below ordered.1,
              find?_eq_none_of_below ordered'.1]
          · simpa [valueAt?, find?_node, same] using agree (first :: path)
      rw [values, inner, others]

end Forest

end ModuleAtlas
