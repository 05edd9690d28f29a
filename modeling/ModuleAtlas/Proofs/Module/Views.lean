import ModuleAtlas.Proofs.Module.Orders
import ModuleAtlas.Proofs.Module.Table

/-!
# Views of a table of modules

A table is read in four ways: by a walk with a stack, by visiting the modules
below a module before the module, by following names, and by the paths that its
entries hold.  A table that can be reached unfolds to one forest of slots, whose
siblings are sorted by name, and all four read that forest.
-/

namespace ModuleAtlas

open Forest

namespace ModuleTable

/-- The modules in use with their slots, each before those below it. -/
def inUse (table : ModuleTable) : List (Nat × ModuleEntry) :=
  table.slotsInUse.filterMap fun slot =>
    (table.get? slot).map fun entry => (slot, entry)

/-- A table unfolds to a forest of slots when both name the same slots on each
level, and its entries hold the paths of the forest. -/
structure Unfolds (table : ModuleTable) (forest : Forest Nat) : Prop where
  ordered : forest.Ordered
  roots : forest.roots = table.roots.entries
  held : ∀ node ∈ preorder [] forest, ∃ entry,
    table.get? node.value = some entry ∧ entry.path = node.path ∧
      node.children.roots = entry.children.entries

/-- What the views of a table say of each other. -/
structure ViewsAgree (table : ModuleTable) : Prop where
  /-- Each slot that the walk meets holds a module. -/
  slots_inUse : table.inUse.map Prod.fst = table.slotsInUse
  held : ∀ {slot : Nat} {entry : ModuleEntry}, (slot, entry) ∈ table.inUse →
    table.get? slot = some entry
  met_once : table.slotsInUse.Nodup
  met_iff : ∀ {slot : Nat},
    slot ∈ table.slotsInUse ↔ ∃ path, table.Leads path slot
  parent_first : ∀ {slot : Nat} {entry : ModuleEntry},
    (slot, entry) ∈ table.inUse → ∀ child ∈ entry.children.values,
    [slot, child].Sublist table.slotsInUse
  find?_iff : ∀ {path : List String} {slot : Nat},
    table.find? path = some slot ↔
      ∃ entry, (slot, entry) ∈ table.inUse ∧ entry.path = path
  path_once : (table.inUse.map fun met => met.2.path).Nodup
  count : table.moduleCount = table.inUse.length
  leaves : table.leafModules =
    (table.inUse.filter fun met => met.2.isLeaf).map Prod.fst
  order_perm :
    table.processingOrder.Perm (table.inUse.map fun met => met.2.path)
  order_once : table.processingOrder.Nodup
  /-- The modules below a module stand together, right before it. -/
  order_below : ∀ path ∈ table.processingOrder, ∃ front block behind,
    table.processingOrder = front ++ (block ++ path :: behind) ∧
      ∀ other, other ∈ block ↔ other ∈ table.processingOrder ∧
        path <+: other ∧ other ≠ path
  /-- The modules at and below a sibling with an earlier name come first. -/
  order_beside : ∀ {above : List String} {name later : String}, name < later →
    ∀ path ∈ table.processingOrder, above ++ [name] <+: path →
    ∀ other ∈ table.processingOrder, above ++ [later] <+: other →
    [path, other].Sublist table.processingOrder
  /-- The walk goes through one forest in pre-order, the processing order in
  post-order. -/
  unfolded : ∃ forest, Unfolds table forest ∧
    table.slotsInUse = (preorder [] forest).map Entry.value ∧
    table.processingOrder = (postorder [] forest).map Entry.path
  /-- Neither is cut short by its bound. -/
  unbounded : ∀ further,
    table.walk (table.entries.size + further) table.roots.values =
      table.slotsInUse ∧
    table.pathsAfter (table.entries.size + further) table.roots.values =
      table.processingOrder

end ModuleTable

namespace LaysOut

variable {table : ModuleTable} {tree : ModuleTree}

theorem pathsAfter_forest {above : List String} {forest : Forest Module}
    (laid : Laid table.entries above forest) {depth : Nat}
    (deep : forest.size ≤ depth) :
    table.pathsAfter depth ((slotRows forest).map Prod.snd) =
      (postorder above forest).map Entry.path := by
  induction forest generalizing above depth with
  | nil => cases depth <;> rfl
  | node name value children rest below beside =>
    rcases laid with ⟨⟨entry, held, shows⟩, inner, others⟩
    have values : entry.children.values = (slotRows children).map Prod.snd := by
      rw [Keyed.values, shows.children]
    rw [Forest.size] at deep
    cases depth with
    | zero => omega
    | succ depth =>
      rw [slotRows_node, List.map_cons, ModuleTable.pathsAfter,
        ModuleTable.get?, held]
      simp only [values, shows.path]
      rw [below inner (by omega), beside others (by omega), postorder,
        List.map_append, List.map_cons]
      rfl

/-- The processing order is complete, whatever further depth it is given. -/
theorem pathsAfter (laid : LaysOut table tree) (sound : tree.Sound)
    (further : Nat) :
    table.pathsAfter (table.entries.size + further) table.roots.values =
      tree.processingOrder := by
  have deep : tree.forest.size ≤ table.entries.size + further := by
    rw [laid.size, ← sound.size_add_length]
    omega
  rw [Keyed.values, laid.roots]
  exact pathsAfter_forest (laid.laid_below (level?_root _)) deep

theorem processingOrder (laid : LaysOut table tree) (sound : tree.Sound) :
    table.processingOrder = tree.processingOrder :=
  laid.pathsAfter sound 0

/-- A table unfolds to the slots of the tree that it lays out. -/
theorem unfolds (laid : LaysOut table tree) :
    table.Unfolds (tree.forest.map Module.slot) where
  ordered := tree.ordered.map _
  roots := by
    rw [roots_map, laid.roots]
    rfl
  held := by
    intro node member
    rw [preorder_map, List.mem_map] at member
    rcases member with ⟨entry, member, rfl⟩
    rcases laid.held_of_find? (ModuleTree.mem_modules.1 member) with
      ⟨found, held, shows⟩
    refine ⟨found, held, shows.path, ?_⟩
    rw [shows.children]
    exact roots_map _ _

/-- What is read of the modules in use is read of the modules of the tree. -/
theorem map_inUse (laid : LaysOut table tree) (sound : tree.Sound)
    {β : Type} {read : Nat × ModuleEntry → β} {value : Entry Module → β}
    (agree : ∀ (node : Entry Module) (entry : ModuleEntry),
      entry.Shows node.path node.value (slotRows node.children) →
      read (node.value.slot, entry) = value node) :
    table.inUse.map read = tree.modules.map value := by
  rw [ModuleTable.inUse, laid.slotsInUse sound, List.filterMap_map,
    List.map_filterMap, ← List.filterMap_eq_map]
  refine List.filterMap_congr fun node member => ?_
  rcases laid.held_of_find? (ModuleTree.mem_modules.1 member) with
    ⟨entry, held, shows⟩
  simp [held, agree node entry shows]

theorem slots_inUse (laid : LaysOut table tree) (sound : tree.Sound) :
    table.inUse.map Prod.fst = table.slotsInUse := by
  rw [laid.slotsInUse sound]
  exact laid.map_inUse sound fun _ _ _ => rfl

theorem paths_inUse (laid : LaysOut table tree) (sound : tree.Sound) :
    (table.inUse.map fun met => met.2.path) =
      (preorder [] tree.forest).map Entry.path :=
  laid.map_inUse sound fun _ _ shows => shows.path

end LaysOut

namespace ModuleTable

variable {table : ModuleTable}

theorem mem_inUse {slot : Nat} {entry : ModuleEntry} :
    (slot, entry) ∈ table.inUse ↔
      slot ∈ table.slotsInUse ∧ table.get? slot = some entry := by
  simp [inUse]

end ModuleTable

namespace LaysOut

/-- A child is met after the module that names it. -/
theorem parent_first (laid : LaysOut table tree) (sound : tree.Sound)
    {slot : Nat} {entry : ModuleEntry} (met : (slot, entry) ∈ table.inUse)
    {child : Nat} (below : child ∈ entry.children.values) :
    [slot, child].Sublist table.slotsInUse := by
  rcases ModuleTable.mem_inUse.1 met with ⟨used, held⟩
  rw [laid.slotsInUse sound] at used ⊢
  rcases List.mem_map.1 used with ⟨node, member, rfl⟩
  have found := ModuleTree.mem_modules.1 member
  rcases laid.held_of_find? found with ⟨entry', held', shows⟩
  obtain rfl := Option.some.inj (held.symm.trans held')
  rcases Keyed.mem_values.1 below with ⟨name, named⟩
  rw [Keyed.find?, shows.children, lookupRow_slotRows,
    Option.map_eq_some_iff] at named
  rcases named with ⟨⟨value, children⟩, named, rfl⟩
  have member' : ⟨node.path, name, value, children⟩ ∈ tree.modules := by
    rw [ModuleTree.mem_modules, Entry.path,
      find?_below (level?_of_find? found) (by simp), named]
  have less : node.path < node.path ++ [name] := lt_append_cons _ _ _
  have later := pair_sublist_of_pairwise
    (pairwise_preorder tree.ordered []) member member'
    (fun same => Std.ne_of_lt less (congrArg Entry.path same))
    (List.lt_asymm less)
  exact later.map fun entry => entry.value.slot

/-- Names lead to the modules in use, by the paths that these hold. -/
theorem find?_iff_inUse (laid : LaysOut table tree) (sound : tree.Sound)
    {path : List String} {slot : Nat} :
    table.find? path = some slot ↔
      ∃ entry, (slot, entry) ∈ table.inUse ∧ entry.path = path := by
  have wellFormed := laid.wellFormed sound
  have holds : ∀ {path : List String} {slot : Nat}, table.Leads path slot →
      ∃ entry, table.get? slot = some entry ∧ entry.path = path := by
    intro path slot leads
    rcases laid.leads_iff.1 leads with ⟨found, met, rfl⟩
    rcases laid.held_of_find? met with ⟨entry, held, shows⟩
    exact ⟨entry, held, shows.path⟩
  rw [← ModuleTable.leads_iff_find?]
  constructor
  · intro leads
    rcases holds leads with ⟨entry, held, full⟩
    refine ⟨entry, ModuleTable.mem_inUse.2 ⟨?_, held⟩, full⟩
    exact wellFormed.mem_used.2 ⟨path, leads⟩
  · rintro ⟨entry, met, rfl⟩
    rcases ModuleTable.mem_inUse.1 met with ⟨used, held⟩
    rcases wellFormed.mem_used.1 used with ⟨path, leads⟩
    rcases holds leads with ⟨entry', held', full⟩
    obtain rfl := Option.some.inj (held.symm.trans held')
    rwa [full]

theorem leafModules_eq (laid : LaysOut table tree) (sound : tree.Sound) :
    table.leafModules =
      (table.inUse.filter fun met => met.2.isLeaf).map Prod.fst := by
  rw [ModuleTable.leafModules, ← laid.slots_inUse sound, List.filter_map]
  refine congrArg _ (List.filter_congr fun met member => ?_)
  simp [ModuleTable.isLeafModule, (ModuleTable.mem_inUse.1 member).2]

theorem viewsAgree (laid : LaysOut table tree) (sound : tree.Sound) :
    table.ViewsAgree where
  slots_inUse := laid.slots_inUse sound
  held := fun met => (ModuleTable.mem_inUse.1 met).2
  met_once := (laid.wellFormed sound).used_once
  met_iff := (laid.wellFormed sound).mem_used
  parent_first := fun met _ below => laid.parent_first sound met below
  find?_iff := laid.find?_iff_inUse sound
  path_once := by
    rw [laid.paths_inUse sound]
    exact paths_nodup tree.ordered []
  count := by
    rw [ModuleTable.moduleCount, ← laid.slots_inUse sound, List.length_map]
  leaves := laid.leafModules_eq sound
  order_perm := by
    rw [laid.processingOrder sound, laid.paths_inUse sound]
    exact (postorder_perm _ _).map _
  order_once := by
    rw [laid.processingOrder sound]
    exact ((postorder_perm _ _).map _).nodup_iff.2 (paths_nodup tree.ordered [])
  order_below := by
    rw [laid.processingOrder sound]
    exact fun path => postorder_below tree.ordered
  order_beside := by
    rw [laid.processingOrder sound]
    intro above name later less path member first other member' second
    exact postorder_beside tree.ordered less member first member' second
  unfolded := by
    refine ⟨_, laid.unfolds, ?_, ?_⟩
    · rw [preorder_map, List.map_map, laid.slotsInUse sound]
      rfl
    · rw [postorder_map, List.map_map, laid.processingOrder sound]
      rfl
  unbounded := by
    intro further
    refine ⟨(laid.wellFormed sound).walk_ends further, ?_⟩
    rw [laid.pathsAfter sound, laid.processingOrder sound]

end LaysOut

namespace ModuleTable

/-- The views of a table that can be reached agree. -/
theorem views_agree {table : ModuleTable} (reached : Reached table) :
    table.ViewsAgree := by
  rcases reached.exists_tree with ⟨tree, laid, sound⟩
  exact laid.viewsAgree sound

/-- Modules below one that came after slots were freed. -/
def Sample.regrown : ModuleTable :=
  (Sample.recycled.insertModules ["b"] [Sample.leaf "f", Sample.leaf "c"]).1

/-- A table in which the slots do not ascend with the paths. -/
theorem views_agree_regrown :
    Reached Sample.regrown ∧ Sample.regrown.ViewsAgree ∧
      Sample.regrown.slotsInUse = [0, 1, 4, 3, 2] ∧
      Sample.regrown.processingOrder =
        [["a"], ["b", "c"], ["b", "f"], ["b"], ["e"]] := by
  have reached : Reached Sample.regrown :=
    .inserted ["b"] _ (.inserted [] _ Sample.reached_grown)
  exact ⟨reached, views_agree reached, by decide +kernel, by decide +kernel⟩

end ModuleTable

end ModuleAtlas
