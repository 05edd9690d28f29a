import ModuleAtlas.Proofs.Module.Tree

/-!
# Records of a module tree

A record of a tree is a module with the slots of its children by name.
Placing a module changes the records at and below its own path, and that of
its parent.  So a module that is not replaced keeps its slot, and the slots
that an insertion answers are those of the new modules.
-/

namespace ModuleAtlas

namespace Forest

/-- The slots of the first level by name. -/
def slotRows (forest : Forest Module) : List (String × Nat) :=
  forest.roots.map fun (name, value) => (name, value.slot)

/-- The module at a path and the slots of its children by name. -/
def record? (path : List String) (forest : Forest Module) :
    Option (Module × List (String × Nat)) :=
  (find? path forest).map fun (value, children) => (value, slotRows children)

/-! ## Slots of one level -/

@[simp]
theorem slotRows_nil : slotRows nil = [] := rfl

theorem slotRows_node (name : String) (value : Module)
    (children rest : Forest Module) :
    slotRows (node name value children rest) =
      (name, value.slot) :: slotRows rest := rfl

theorem lookupRow_slotRows (name : String) (forest : Forest Module) :
    lookupRow name (slotRows forest) =
      (find? [name] forest).map fun found => found.1.slot := by
  induction forest with
  | nil => rfl
  | node head value children rest _ beside =>
    rw [slotRows_node, lookupRow, find?_node, beside]
    split <;> simp

theorem slotRows_insert (name : String) (value : Module)
    (children forest : Forest Module) :
    slotRows (forest.insert name value children) =
      setRow name value.slot (slotRows forest) := by
  induction forest with
  | nil => rfl
  | node head headValue headChildren rest _ beside =>
    rw [insert, slotRows_node, setRow]
    split
    · rfl
    · split
      · rfl
      · rw [slotRows_node, beside]

theorem slotRows_changeBelow (change : Forest Module → Forest Module)
    {path : List String} (nonempty : path ≠ []) (forest : Forest Module) :
    slotRows (changeBelow change path forest) = slotRows forest := by
  cases path with
  | nil => exact absurd rfl nonempty
  | cons first path => rw [slotRows, roots_changeBelow, slotRows]

end Forest

open Forest

namespace ModuleTree

/-! ## Locations of a tree -/

theorem forest_insertOne (tree : ModuleTree) (path : List String)
    (added : NewModule) :
    (tree.insertOne path added).1.forest =
      place tree.forest path added (tree.insertOne path added).2 := by
  rw [insertOne]
  split
  · rfl
  · split <;> rfl

theorem level?_place {forest inner : Forest Module} {path : List String}
    (located : level? path forest = some inner) (added : NewModule)
    (slot : Nat) :
    level? path (place forest path added slot) =
      some (inner.insert added.name
        ⟨slot, added.description, added.components⟩ .nil) := by
  have changed := level?_changeBelow_self
    (·.insert added.name ⟨slot, added.description, added.components⟩ .nil)
    path [] forest
  rw [List.append_nil, located] at changed
  rw [place, changed]
  simp

theorem located_insertOne {tree : ModuleTree} {path : List String}
    {inner : Forest Module} (located : level? path tree.forest = some inner)
    (added : NewModule) :
    ∃ level, level? path (tree.insertOne path added).1.forest = some level := by
  rw [forest_insertOne]
  exact ⟨_, level?_place located added _⟩

/-- Modules can be put on the first level and below every module. -/
theorem exists_level?_iff {tree : ModuleTree} {path : List String} :
    (∃ inner, level? path tree.forest = some inner) ↔
      path = [] ∨ (tree.find? path).isSome = true := by
  cases path with
  | nil => simp
  | cons first path =>
    rw [level?_cons, ModuleTree.find?, Option.isSome_map,
      ← Option.isSome_iff_exists, Option.isSome_map]
    simp

theorem insertModules?_of_located {tree : ModuleTree} {path : List String}
    {inner : Forest Module} (located : level? path tree.forest = some inner)
    (added : List NewModule) :
    tree.insertModules? path added = some (tree.insertAll path added) := by
  rw [insertModules?, if_pos]
  rw [Bool.or_eq_true, List.isEmpty_iff]
  exact exists_level?_iff.1 ⟨inner, located⟩

theorem insertModules?_of_lost {tree : ModuleTree} {path : List String}
    (lost : level? path tree.forest = none) (added : List NewModule) :
    tree.insertModules? path added = none := by
  rw [insertModules?, if_neg]
  rw [Bool.or_eq_true, List.isEmpty_iff, ← exists_level?_iff, lost]
  simp

/-- A location of the stored form is one of the tree. -/
theorem isSome_level?_toStored (tree : ModuleTree) (path : List String) :
    (level? path tree.toStored).isSome =
      (level? path tree.forest).isSome := by
  have same := @insertModules?_isSome tree path []
  rw [Bool.eq_iff_iff, ← same]
  cases located : level? path tree.forest with
  | none => simp [insertModules?_of_lost located]
  | some inner => simp [insertModules?_of_located located]

/-! ## Records around a placed module -/

theorem slotRows_place (forest : Forest Module) (path : List String)
    (added : NewModule) (slot : Nat) :
    slotRows (place forest path added slot) =
      if path = [] then setRow added.name slot (slotRows forest)
      else slotRows forest := by
  rw [place]
  split
  · next top =>
    subst top
    rw [changeBelow_root, slotRows_insert]
  · next below => exact slotRows_changeBelow _ below forest

theorem exists_find?_of_record? {forest : Forest Module} {path : List String}
    {value : Module} {children : List (String × Nat)}
    (recorded : forest.record? path = some (value, children)) :
    ∃ found, forest.find? path = some found ∧ found.1 = value := by
  rcases Option.map_eq_some_iff.1 recorded with ⟨found, met, same⟩
  exact ⟨found, met, congrArg Prod.fst same⟩

section Records

variable {forest inner : Forest Module} {path : List String}
  {added : NewModule} {slot : Nat}

theorem record?_place_self (located : level? path forest = some inner) :
    (place forest path added slot).record? (path ++ [added.name]) =
      some (⟨slot, added.description, added.components⟩, []) := by
  rw [record?, place, find?_changeBelow_below, located]
  simp [find?_insert]

theorem record?_place_inside (located : level? path forest = some inner)
    (first : String) (below : List String) :
    (place forest path added slot).record?
      (path ++ added.name :: first :: below) = none := by
  rw [record?, place, find?_changeBelow_below, located]
  simp [find?_insert]

theorem record?_place_parent (nonempty : path ≠ []) :
    (place forest path added slot).record? path =
      (forest.record? path).map fun (value, children) =>
        (value, setRow added.name slot children) := by
  have above := find?_changeBelow_above
    (·.insert added.name ⟨slot, added.description, added.components⟩ .nil)
    nonempty [] forest
  rw [List.append_nil] at above
  rw [record?, place, above, record?, Option.map_map, Option.map_map]
  congr 1
  funext found
  simp [slotRows_insert]

/-- Records elsewhere stay. -/
theorem record?_place_apart (located : level? path forest = some inner)
    {other : List String} (notParent : other ≠ path)
    (apart : ¬ path ++ [added.name] <+: other) :
    (place forest path added slot).record? other = forest.record? other := by
  rw [record?, record?, place]
  by_cases inside : path <+: other
  · rcases inside with ⟨below, rfl⟩
    cases below with
    | nil => exact absurd (List.append_nil path) notParent
    | cons first below =>
      have different : added.name ≠ first := by
        rintro rfl
        exact apart ⟨below, by simp⟩
      rw [find?_changeBelow_below, find?_append, located]
      simp [find?_insert, different]
  · by_cases above : other <+: path
    · rcases above with ⟨below, rfl⟩
      cases other with
      | nil => simp
      | cons first other =>
        have nonempty : below ≠ [] := by
          rintro rfl
          exact notParent (List.append_nil _).symm
        rw [find?_changeBelow_above _ (by simp), Option.map_map]
        congr 1
        funext found
        simp [slotRows_changeBelow _ nonempty]
    · rw [find?_changeBelow_of_apart _ inside above]

/-- What is recorded after a placement. -/
theorem record?_place_cases (located : level? path forest = some inner)
    {other : List String} {value : Module} {children : List (String × Nat)}
    (recorded : (place forest path added slot).record? other =
      some (value, children)) :
    (other = path ++ [added.name] ∧
        value = ⟨slot, added.description, added.components⟩ ∧
        children = []) ∨
      (other = path ∧ ∃ old, forest.record? path = some (value, old) ∧
        children = setRow added.name slot old) ∨
      (other ≠ path ∧ ¬ path ++ [added.name] <+: other ∧
        forest.record? other = some (value, children)) := by
  by_cases inside : path ++ [added.name] <+: other
  · rcases inside with ⟨below, rfl⟩
    cases below with
    | nil =>
      rw [List.append_nil, record?_place_self located, Option.some.injEq,
        Prod.mk.injEq] at recorded
      exact Or.inl ⟨List.append_nil _, recorded.1.symm, recorded.2.symm⟩
    | cons first below =>
      rw [List.append_assoc, List.singleton_append,
        record?_place_inside located] at recorded
      exact absurd recorded (by simp)
  · by_cases parent : other = path
    · subst parent
      cases other with
      | nil => simp [record?] at recorded
      | cons first other =>
        rw [record?_place_parent (by simp), Option.map_eq_some_iff] at recorded
        rcases recorded with ⟨⟨value, old⟩, recorded, same⟩
        rw [Prod.mk.injEq] at same
        rcases same with ⟨rfl, rfl⟩
        exact Or.inr (Or.inl ⟨rfl, old, recorded, rfl⟩)
    · rw [record?_place_apart located parent inside] at recorded
      exact Or.inr (Or.inr ⟨parent, inside, recorded⟩)

/-- Modules elsewhere stay where they are. -/
theorem exists_find?_place (located : level? path forest = some inner)
    {other : List String} {found : Module × Forest Module}
    (met : forest.find? other = some found) (notParent : other ≠ path)
    (apart : ¬ path ++ [added.name] <+: other) :
    ∃ found', (place forest path added slot).find? other = some found' ∧
      found'.1 = found.1 := by
  have kept : (place forest path added slot).record? other =
      some (found.1, slotRows found.2) := by
    rw [record?_place_apart located notParent apart, record?, met]
    rfl
  exact exists_find?_of_record? kept

end Records

theorem find?_eq_record? (tree : ModuleTree) (path : List String) :
    tree.find? path =
      (tree.forest.record? path).map fun record => record.1.slot := by
  rw [find?, record?, Option.map_map]
  rfl

/-- The parent of a placed module keeps its slot. -/
theorem find?_place_parent {tree grown : ModuleTree} {path : List String}
    {added : NewModule} {slot : Nat}
    (placed : grown.forest = place tree.forest path added slot) :
    grown.find? path = tree.find? path := by
  rw [find?_eq_record?, find?_eq_record?, placed]
  cases path with
  | nil => simp [record?]
  | cons first path =>
    rw [record?_place_parent (by simp), Option.map_map]
    rfl

/-! ## Answered slots -/

section Answers

variable {tree : ModuleTree} {path : List String} {inner : Forest Module}

theorem find?_insertOne_self (located : level? path tree.forest = some inner)
    (added : NewModule) :
    (tree.insertOne path added).1.find? (path ++ [added.name]) =
      some (tree.insertOne path added).2 := by
  rw [find?_eq_record?, forest_insertOne, record?_place_self located]
  rfl

theorem find?_insertOne_apart (located : level? path tree.forest = some inner)
    (added : NewModule) {other : List String} (notParent : other ≠ path)
    (apart : ¬ path ++ [added.name] <+: other) :
    (tree.insertOne path added).1.find? other = tree.find? other := by
  rw [find?_eq_record?, forest_insertOne,
    record?_place_apart located notParent apart, find?_eq_record?]

/-- A module on the level keeps its slot, be it replaced or not. -/
theorem find?_insertOne_of_some (located : level? path tree.forest = some inner)
    (added : NewModule) {name : String} {slot : Nat}
    (met : tree.find? (path ++ [name]) = some slot) :
    (tree.insertOne path added).1.find? (path ++ [name]) = some slot := by
  by_cases same : added.name = name
  · subst same
    rw [find?_insertOne_self located]
    rcases Option.map_eq_some_iff.1 met with ⟨⟨old, children⟩, taken, rfl⟩
    simp [insertOne, taken]
  · rw [find?_insertOne_apart located, met]
    · simp
    · simpa using same

theorem find?_insertAll_of_some (located : level? path tree.forest = some inner)
    (added : List NewModule) {name : String} {slot : Nat}
    (met : tree.find? (path ++ [name]) = some slot) :
    (tree.insertAll path added).1.find? (path ++ [name]) = some slot := by
  induction added generalizing tree inner with
  | nil => exact met
  | cons next rest step =>
    rcases located_insertOne located next with ⟨level, located'⟩
    exact step located' (find?_insertOne_of_some located next met)

theorem find?_insertAll_apart (located : level? path tree.forest = some inner)
    (added : List NewModule) {other : List String} (notParent : other ≠ path)
    (apart : ∀ next ∈ added, ¬ path ++ [next.name] <+: other) :
    (tree.insertAll path added).1.find? other = tree.find? other := by
  induction added generalizing tree inner with
  | nil => rfl
  | cons next rest step =>
    rw [List.forall_mem_cons] at apart
    rcases located_insertOne located next with ⟨level, located'⟩
    exact (step located' apart.2).trans
      (find?_insertOne_apart located next notParent apart.1)

/-- The answered slots are those of the new modules. -/
theorem slots_insertAll (located : level? path tree.forest = some inner)
    (added : List NewModule) :
    (tree.insertAll path added).2.map some =
      added.map fun next =>
        (tree.insertAll path added).1.find? (path ++ [next.name]) := by
  induction added generalizing tree inner with
  | nil => rfl
  | cons next rest step =>
    rcases located_insertOne located next with ⟨level, located'⟩
    have here := find?_insertAll_of_some located' rest
      (find?_insertOne_self located next)
    rw [List.map_cons]
    show some (tree.insertOne path next).2
      :: (((tree.insertOne path next).1.insertAll path rest).2.map some) = _
    rw [step located', ← here]
    rfl

end Answers

end ModuleTree

end ModuleAtlas
