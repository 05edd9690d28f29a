import ModuleAtlas.Module.Tree
import ModuleAtlas.Proofs.Module.Rows

/-!
# Insertion into a module tree

Slots are forgotten in the stored form of a tree.  There, inserting modules is
a change below one location, which puts one node after another on that level.
-/

namespace ModuleAtlas

/-- What is stored of a new module. -/
def NewModule.stored (added : NewModule) : StoredModule :=
  ⟨added.description, added.components.names⟩

/-- A new module as a row below a path. -/
def NewModule.row (path : List String) (added : NewModule) :
    List String × StoredModule :=
  (path ++ [added.name], added.stored)

namespace StoredTree

open Forest

/-- Put new modules on a level, one after another. -/
def putAll (added : List NewModule) (level : StoredTree) : StoredTree :=
  added.foldl
    (fun level next => level.insert next.name next.stored .nil) level

theorem putAll_grows {added : List NewModule} (filled : added ≠ [])
    (level : StoredTree) : putAll added level ≠ .nil := by
  have grows : ∀ (name : String) (value : StoredModule) (level : StoredTree),
      level.insert name value .nil ≠ .nil := by
    intro name value level
    cases level with
    | nil => simp [Forest.insert]
    | node head headValue headChildren rest =>
      rw [Forest.insert]
      split
      · simp
      · split <;> simp
  induction added generalizing level with
  | nil => exact absurd rfl filled
  | cons next rest step =>
    cases rest with
    | nil => exact grows next.name next.stored level
    | cons other rest => exact step (by simp) _

theorem level?_putAll (added : List NewModule) (first : String)
    (path : List String) (level : StoredTree) :
    level? (first :: path) (putAll added level) =
      if first ∈ added.map NewModule.name then
        level? path (.nil : StoredTree)
      else level? (first :: path) level := by
  induction added generalizing level with
  | nil => rfl
  | cons next rest step =>
    rw [putAll, List.foldl_cons, ← putAll, step, level?_insert, List.map_cons]
    by_cases later : first ∈ rest.map NewModule.name
    · rw [if_pos later, if_pos (List.mem_cons_of_mem _ later)]
    · by_cases same : next.name = first
      · simp [same]
      · simp [later, same, Ne.symm same]

/-- Of new modules with one name, the last is found. -/
theorem find?_putAll (added : List NewModule) (first : String)
    (path : List String) (level : StoredTree) :
    find? (first :: path) (putAll added level) =
      match added.reverse.find? fun next => next.name = first with
      | some next => if path = [] then some (next.stored, .nil) else none
      | none => find? (first :: path) level := by
  induction added generalizing level with
  | nil => rfl
  | cons next rest step =>
    rw [putAll, List.foldl_cons, ← putAll, step, List.reverse_cons,
      List.find?_append]
    cases rest.reverse.find? fun next => next.name = first with
    | some later => rfl
    | none =>
      rw [find?_insert, Option.none_or]
      by_cases same : next.name = first
      · simp [same]
      · simp [same]

/-- A view that gains one row with every fresh name gains a row for each of
several new modules with different names. -/
theorem view_putAll {view : StoredTree → Multiset (List String × StoredModule)}
    {above : List String}
    (gains : ∀ (name : String) (value : StoredModule) (level : StoredTree),
      name ∉ level.roots.map Prod.fst →
      view (level.insert name value .nil) =
        (above ++ [name], value) ::ₘ view level)
    {added : List NewModule} (distinct : (added.map NewModule.name).Nodup)
    {level : StoredTree}
    (fresh : ∀ next ∈ added, next.name ∉ level.roots.map Prod.fst) :
    view (putAll added level) =
      (added : Multiset NewModule).map (NewModule.row above)
        + view level := by
  induction added generalizing level with
  | nil => simp [putAll]
  | cons next rest step =>
    rw [List.map_cons, List.nodup_cons] at distinct
    rw [putAll, List.foldl_cons, ← putAll, step distinct.2,
      gains _ _ _ (fresh next List.mem_cons_self)]
    · rw [Multiset.add_cons, ← Multiset.cons_coe, Multiset.map_cons,
        Multiset.cons_add]
      rfl
    · intro other member inside
      rcases List.mem_map.1 inside with ⟨sibling, among, same⟩
      rcases mem_roots_insert among with equal | old
      · apply distinct.1
        rw [← equal, same]
        exact List.mem_map_of_mem member
      · apply fresh other (List.mem_cons_of_mem _ member)
        rw [← same]
        exact List.mem_map_of_mem old

/-- A row of a level with new modules was there before or is one of them. -/
theorem mem_rows_putAll {above : List String} {added : List NewModule}
    {level : StoredTree} {row : List String × StoredModule}
    (member : row ∈ rows above (putAll added level)) :
    (∃ next ∈ added, next.row above = row) ∨ row ∈ rows above level := by
  induction added generalizing level with
  | nil => exact Or.inr member
  | cons next rest step =>
    rw [putAll, List.foldl_cons, ← putAll] at member
    rcases step member with ⟨other, among, same⟩ | old
    · exact Or.inl ⟨other, List.mem_cons_of_mem _ among, same⟩
    · exact (mem_rows_insert old).imp
        (fun same => ⟨next, List.mem_cons_self, same.symm⟩) id

theorem rows_putAll (above : List String) {added : List NewModule}
    (distinct : (added.map NewModule.name).Nodup) :
    rows above (putAll added .nil) =
      (added : Multiset NewModule).map (NewModule.row above) := by
  rw [view_putAll (fun _ value _ fresh => rows_insert above value fresh)
    distinct (by simp [roots])]
  simp [rows]

theorem leaves_putAll (above : List String) {added : List NewModule}
    (distinct : (added.map NewModule.name).Nodup) :
    leaves above (putAll added .nil) =
      (added : Multiset NewModule).map (NewModule.row above) := by
  rw [view_putAll (fun _ value _ fresh => leaves_insert above value fresh)
    distinct (by simp [roots])]
  simp [leaves]

theorem ordered_putAll (modules : List NewModule) {level : StoredTree}
    (ordered : level.Ordered) : (putAll modules level).Ordered := by
  induction modules generalizing level with
  | nil => exact ordered
  | cons added rest step =>
    have leaf : (Forest.nil : StoredTree).Ordered := trivial
    exact step (leaf.insert ordered)

theorem mem_roots_putAll_iff {modules : List NewModule} {name : String}
    {value : StoredModule} :
    (name, value) ∈ (putAll modules .nil).roots ↔
      ([name], value) ∈ rows [] (putAll modules .nil) := by
  have bare : (Forest.nil : StoredTree).Ordered := trivial
  have ordered := ordered_putAll modules bare
  rw [mem_roots_iff ordered, mem_rows_nil ordered]

theorem exists_of_mem_roots_putAll {modules : List NewModule} {name : String}
    {value : StoredModule}
    (member : (name, value) ∈ (putAll modules .nil).roots) :
    ∃ added ∈ modules, added.name = name ∧ added.stored = value := by
  rw [mem_roots_putAll_iff] at member
  rcases mem_rows_putAll member with ⟨added, among, same⟩ | old
  · obtain ⟨path, stored⟩ := Prod.mk.inj same
    exact ⟨added, among, by simpa using path, stored⟩
  · simp [rows] at old

theorem mem_roots_putAll {modules : List NewModule}
    (distinct : (modules.map NewModule.name).Nodup) {added : NewModule}
    (member : added ∈ modules) :
    (added.name, added.stored) ∈ (putAll modules .nil).roots := by
  rw [mem_roots_putAll_iff, rows_putAll [] distinct]
  exact Multiset.mem_map_of_mem (NewModule.row []) (Multiset.mem_coe.2 member)

end StoredTree

namespace ModuleTree

open Forest StoredTree

theorem toStored_ordered (tree : ModuleTree) : tree.toStored.Ordered :=
  tree.ordered.map _

theorem isEmpty_iff_toStored {tree : ModuleTree} :
    tree.isEmpty = true ↔ tree.toStored = .nil := by
  rw [isEmpty, Forest.isEmpty_iff, toStored, Forest.map_eq_nil]

theorem toStored_place (forest : Forest Module) (path : List String)
    (added : NewModule) (slot : Nat) :
    (place forest path added slot).map Module.stored =
      changeBelow (putAll [added]) path (forest.map Module.stored) :=
  map_changeBelow (fun level => map_insert _ _ _ _ level) path forest

theorem toStored_insertOne (tree : ModuleTree) (path : List String)
    (added : NewModule) :
    (tree.insertOne path added).1.toStored =
      changeBelow (putAll [added]) path tree.toStored := by
  rw [insertOne]
  split
  · exact toStored_place tree.forest path added _
  · split
    · exact toStored_place tree.forest path added _
    · exact toStored_place tree.forest path added _

theorem toStored_insertAll (path : List String) (added : List NewModule)
    (tree : ModuleTree) :
    (insertAll path tree added).1.toStored =
      changeBelow (putAll added) path tree.toStored := by
  induction added generalizing tree with
  | nil => exact (changeBelow_id path tree.toStored).symm
  | cons next rest step =>
    rw [insertAll]
    show (insertAll path (tree.insertOne path next).1 rest).1.toStored = _
    rw [step, toStored_insertOne, changeBelow_changeBelow]
    rfl

/-- Modules can be put below every location, and only there. -/
theorem insertModules?_isSome {tree : ModuleTree} {path : List String}
    {added : List NewModule} :
    (tree.insertModules? path added).isSome = true ↔
      (level? path tree.toStored).isSome = true := by
  rw [insertModules?]
  cases path with
  | nil => simp
  | cons first path =>
    have located : (tree.find? (first :: path)).isSome = true ↔
        (level? (first :: path) tree.toStored).isSome = true := by
      rw [find?, level?_cons, toStored, find?_map]
      simp
    rw [← located]
    cases (tree.find? (first :: path)).isSome <;> simp

theorem toStored_insertModules? {tree grown : ModuleTree}
    {path : List String} {added : List NewModule} {slots : List Nat}
    (inserted : tree.insertModules? path added = some (grown, slots)) :
    grown.toStored = changeBelow (putAll added) path tree.toStored := by
  rw [insertModules?] at inserted
  split at inserted
  · rw [Option.some.injEq] at inserted
    rw [← toStored_insertAll, inserted]
  · exact absurd inserted (by simp)

/-- The modules of a tree, seen through look-up. -/
theorem mem_modules {tree : ModuleTree} {entry : Entry Module} :
    entry ∈ tree.modules ↔
      tree.forest.find? entry.path = some (entry.value, entry.children) := by
  simp [modules, mem_preorder tree.ordered]

/-- What is found at a path is what is stored of a module and its children. -/
theorem find?_toStored {tree : ModuleTree} {path : List String}
    {value : StoredModule} {children : StoredTree} :
    tree.toStored.find? path = some (value, children) ↔
      ∃ entry ∈ tree.modules, entry.path = path ∧
        entry.value.stored = value ∧
        entry.children.map Module.stored = children := by
  rw [toStored, find?_map, Option.map_eq_some_iff]
  constructor
  · rintro ⟨⟨item, below⟩, met, same⟩
    obtain ⟨rfl, rfl⟩ := Prod.mk.inj same
    rcases List.eq_nil_or_concat' path with rfl | ⟨above, name, rfl⟩
    · simp at met
    · exact ⟨⟨above, name, item, below⟩, mem_modules.2 met, rfl, rfl, rfl⟩
  · rintro ⟨entry, member, rfl, rfl, rfl⟩
    exact ⟨_, mem_modules.1 member, rfl⟩

/-- The leaf modules of a tree, seen through look-up. -/
theorem exists_leafModule_iff {tree : ModuleTree} {path : List String}
    {value : StoredModule} :
    (∃ leaf ∈ tree.leafModules,
        leaf.path = path ∧ leaf.value.stored = value) ↔
      tree.toStored.find? path = some (value, .nil) := by
  rw [find?_toStored]
  simp only [leafModules, List.mem_filter, Entry.isLeaf,
    Forest.isEmpty_iff, Forest.map_eq_nil, and_assoc]
  constructor
  · rintro ⟨leaf, member, bare, same, stored⟩
    exact ⟨leaf, member, same, stored, bare⟩
  · rintro ⟨leaf, member, same, stored, bare⟩
    exact ⟨leaf, member, bare, same, stored⟩

theorem isEmpty_of_leaf {tree : ModuleTree} {leaf : Entry Module}
    (member : leaf ∈ tree.leafModules) : tree.isEmpty = false := by
  rw [← Bool.not_eq_true, isEmpty, Forest.isEmpty_iff]
  intro bare
  simp [leafModules, modules, bare, preorder] at member

/-- The modules of a tree, by path and what is stored of them. -/
theorem rows_toStored (tree : ModuleTree) :
    rows [] tree.toStored =
      (tree.modules : Multiset (Entry Module)).map fun entry =>
        (entry.path, entry.value.stored) := by
  rw [toStored, rows_eq_map_preorder, preorder_map, List.map_map,
    Multiset.map_coe]
  rfl

theorem mem_rows_toStored {tree : ModuleTree} {path : List String}
    {value : StoredModule} :
    (path, value) ∈ rows [] tree.toStored ↔
      ∃ entry ∈ tree.modules, entry.path = path ∧
        entry.value.stored = value := by
  simp [rows_toStored]

/-- The leaf modules of a tree, by path and what is stored of them. -/
theorem leaves_toStored (tree : ModuleTree) :
    leaves [] tree.toStored =
      (tree.leafModules : Multiset (Entry Module)).map fun entry =>
        (entry.path, entry.value.stored) := by
  rw [toStored, leaves_map, leaves_eq_map_preorder, Multiset.map_coe,
    List.map_map]
  rfl

end ModuleTree

end ModuleAtlas
