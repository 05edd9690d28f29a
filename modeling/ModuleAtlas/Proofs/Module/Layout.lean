import ModuleAtlas.Module.Table
import ModuleAtlas.Proofs.Module.Slots

/-!
# Layout of a module tree in a table

A table lays out a module tree when its entries show the modules of the tree
in their slots, with the slots of their children by name, and its free slots
are those of the tree.  Freeing the slots below a module empties just the
entries of the modules below it.  Insertion into the table and into the tree
give the same slot and lay out again, and entries elsewhere stay as they are.
-/

namespace ModuleAtlas

open Forest ModuleTree

/-- An entry shows a module and the slots of its children by name. -/
structure ModuleEntry.Shows (entry : ModuleEntry) (path : List String)
    (value : Module) (children : List (String × Nat)) : Prop where
  path : entry.path = path
  description : entry.description = value.description
  components : entry.components = value.components
  children : entry.children.entries = children

/-- A table shows the modules of a tree in their slots. -/
structure LaysOut (table : ModuleTable) (tree : ModuleTree) : Prop where
  roots : table.roots.entries = slotRows tree.forest
  free : table.free = tree.free.map FreeSlot.slot
  size : table.entries.size = tree.slots
  held : ∀ {path : List String} {value : Module}
    {children : List (String × Nat)},
    tree.forest.record? path = some (value, children) →
    ∃ entry, table.get? value.slot = some entry ∧
      entry.Shows path value children
  cleared : ∀ slot ∈ table.free, ∃ entry, table.get? slot = some entry ∧
    entry.children = .empty

/-- Entries show the modules of a forest below a path. -/
def Laid (entries : Array ModuleEntry) (above : List String) :
    Forest Module → Prop
  | nil => True
  | node name value children rest =>
    (∃ entry, entries[value.slot]? = some entry ∧
        entry.Shows (above ++ [name]) value (slotRows children))
      ∧ Laid entries (above ++ [name]) children ∧ Laid entries above rest

namespace Laid

variable {entries entries' : Array ModuleEntry} {above : List String}
  {forest : Forest Module}

theorem congr (laid : Laid entries above forest)
    (agree : ∀ slot ∈ forest.slots, entries'[slot]? = entries[slot]?) :
    Laid entries' above forest := by
  induction forest generalizing above with
  | nil => trivial
  | node name value children rest below beside =>
    rcases laid with ⟨⟨entry, held, shows⟩, inner, others⟩
    simp only [Forest.slots, Multiset.mem_cons, Multiset.mem_add] at agree
    constructor
    · exact ⟨entry, (agree _ (Or.inl rfl)).trans held, shows⟩
    · constructor
      · exact below inner fun slot member => agree slot (Or.inr (Or.inl member))
      · exact beside others fun slot member =>
          agree slot (Or.inr (Or.inr member))

theorem of_find? (ordered : forest.Ordered)
    (held : ∀ {path : List String} {found : Module × Forest Module},
      forest.find? path = some found →
      ∃ entry, entries[found.1.slot]? = some entry ∧
        entry.Shows (above ++ path) found.1 (slotRows found.2)) :
    Laid entries above forest := by
  induction forest generalizing above with
  | nil => trivial
  | node name value children rest below beside =>
    refine ⟨@held [name] (value, children) ?_, ?_, ?_⟩
    · simp [find?_node]
    · apply below ordered.2.1
      intro path found met
      have more : path ≠ [] := by
        rintro rfl
        simp at met
      rw [List.append_assoc]
      exact held (by simp [find?_node, more, met])
    · apply beside ordered.2.2
      intro path found met
      cases path with
      | nil => simp at met
      | cons first path =>
        apply held
        rw [find?_node, if_neg (find?_rest ordered met), met]

end Laid

/-! ## Freeing the slots of a forest -/

/-- The entries with those in some slots emptied. -/
def clearSlots (slots : List Nat) (entries : Array ModuleEntry) :
    Array ModuleEntry :=
  slots.foldr (fun slot entries => entries.modify slot ModuleEntry.emptied)
    entries

theorem size_clearSlots (slots : List Nat) (entries : Array ModuleEntry) :
    (clearSlots slots entries).size = entries.size := by
  induction slots with
  | nil => rfl
  | cons slot rest step =>
    rw [clearSlots, List.foldr_cons, Array.size_modify]
    exact step

theorem getElem?_clearSlots (slots : List Nat) (entries : Array ModuleEntry)
    (slot : Nat) :
    (clearSlots slots entries)[slot]? =
      if slot ∈ slots then entries[slot]?.map ModuleEntry.emptied
      else entries[slot]? := by
  induction slots with
  | nil => rfl
  | cons head rest step =>
    rw [clearSlots, List.foldr_cons, Array.getElem?_modify]
    rw [clearSlots] at step
    rw [step]
    by_cases same : head = slot
    · subst same
      by_cases again : head ∈ rest
      · simp only [again, List.mem_cons, or_true, if_true, Option.map_map]
        rfl
      · simp [again]
    · simp [same, Ne.symm same]

/-- The release loop frees just the slots of a forest whose first level is on
top of its stack. -/
theorem releaseAll_forest {entries : Array ModuleEntry}
    {above : List String} {forest : Forest Module}
    (laid : Laid entries above forest) (distinct : forest.slots.Nodup)
    (free stack : List Nat) :
    ModuleTable.releaseAll entries free
        (((slotRows forest).map Prod.snd).reverse ++ stack) =
      ModuleTable.releaseAll (clearSlots forest.slotsAfter entries)
        (forest.slotsAfter ++ free) stack := by
  induction forest generalizing entries above free stack with
  | nil => rfl
  | node name value children rest below beside =>
    rcases laid with ⟨⟨entry, held, shows⟩, inner, others⟩
    rw [Forest.slots, Multiset.nodup_cons, Multiset.mem_add, not_or,
      Multiset.nodup_add] at distinct
    rcases distinct with ⟨⟨notInner, notOther⟩, innerDistinct, othersDistinct,
      apart⟩
    -- the last siblings go first, then the module, then what is below it
    have held' : (clearSlots rest.slotsAfter entries)[value.slot]? =
        some entry := by
      rw [getElem?_clearSlots, if_neg (mt mem_slotsAfter.1 notOther), held]
    have inner' : Laid ((clearSlots rest.slotsAfter entries).modify value.slot
        ModuleEntry.emptied) (above ++ [name]) children := by
      apply inner.congr
      intro slot member
      have away : slot ∉ rest.slotsAfter := fun other =>
        Multiset.disjoint_left.1 apart member (mem_slotsAfter.1 other)
      have here : value.slot ≠ slot := fun same => notInner (same ▸ member)
      rw [Array.getElem?_modify, if_neg here, getElem?_clearSlots,
        if_neg away]
    have values : entry.children.values = (slotRows children).map Prod.snd := by
      rw [Keyed.values, shows.children]
    rw [slotRows_node, List.map_cons, List.reverse_cons, List.append_assoc,
      List.singleton_append, beside others othersDistinct,
      ModuleTable.releaseAll]
    split
    · next absent => exact absurd (held'.symm.trans absent) (by simp)
    · next entry' again =>
      obtain rfl : entry = entry' := Option.some.inj (held'.symm.trans again)
      rw [values, below inner' innerDistinct]
      simp [slotsAfter, clearSlots]

namespace LaysOut

variable {table : ModuleTable} {tree : ModuleTree}

theorem held_of_find? (laid : LaysOut table tree) {path : List String}
    {found : Module × Forest Module}
    (met : tree.forest.find? path = some found) :
    ∃ entry, table.get? found.1.slot = some entry ∧
      entry.Shows path found.1 (slotRows found.2) :=
  laid.held (by rw [record?, met]; rfl)

theorem laid_below (laid : LaysOut table tree) {path : List String}
    {inner : Forest Module}
    (located : level? path tree.forest = some inner) :
    Laid table.entries path inner := by
  apply Laid.of_find? (tree.ordered.of_level? located)
  intro below found met
  cases below with
  | nil => simp at met
  | cons first below =>
    apply laid.held_of_find?
    rwa [find?_below located (by simp)]

/-- A level of the table has the slots of that level of the tree. -/
theorem entries_level (laid : LaysOut table tree) {path : List String}
    {inner : Forest Module}
    (located : level? path tree.forest = some inner) :
    (table.level (tree.find? path)).entries = slotRows inner := by
  cases path with
  | nil =>
    rw [level?_root, Option.some.injEq] at located
    rw [ModuleTree.find?, find?_root, ← located]
    exact laid.roots
  | cons first path =>
    rw [level?_cons, Option.map_eq_some_iff] at located
    rcases located with ⟨found, met, rfl⟩
    rcases laid.held_of_find? met with ⟨entry, held, shows⟩
    rw [ModuleTree.find?, met]
    show (table.level (some found.1.slot)).entries = _
    rw [ModuleTable.level, held]
    exact shows.children

theorem find?_level (laid : LaysOut table tree) {path : List String}
    {inner : Forest Module}
    (located : level? path tree.forest = some inner) (name : String) :
    (table.level (tree.find? path)).find? name =
      tree.find? (path ++ [name]) := by
  rw [Keyed.find?, laid.entries_level located, lookupRow_slotRows,
    ModuleTree.find?, find?_below located (by simp)]

/-! ## Reads -/

theorem follow? (laid : LaysOut table tree) {above : List String}
    {found : Module × Forest Module}
    (met : tree.forest.find? above = some found) (path : List String) :
    table.follow? found.1.slot path = tree.find? (above ++ path) := by
  induction path generalizing above found with
  | nil =>
    rw [List.append_nil, ModuleTree.find?, met]
    rfl
  | cons name path step =>
    rcases laid.held_of_find? met with ⟨entry, held, shows⟩
    have located := level?_of_find? met
    have named : entry.children.find? name =
        (found.2.find? [name]).map fun found => found.1.slot := by
      rw [Keyed.find?, shows.children, lookupRow_slotRows]
    rw [ModuleTable.follow?, held]
    simp only [Option.bind_eq_bind, Option.bind_some, named]
    cases met' : found.2.find? [name] with
    | none =>
      rw [ModuleTree.find?, find?_below located (by simp),
        find?_cons_eq_none met']
      rfl
    | some child =>
      rw [← find?_below located (by simp)] at met'
      rw [List.append_cons]
      exact step met'

theorem find? (laid : LaysOut table tree) (path : List String) :
    table.find? path = tree.find? path := by
  cases path with
  | nil =>
    rw [ModuleTable.find?, ModuleTree.find?, find?_root]
    rfl
  | cons first path =>
    have named : table.roots.find? first =
        (tree.forest.find? [first]).map fun found => found.1.slot := by
      rw [Keyed.find?, laid.roots, lookupRow_slotRows]
    rw [ModuleTable.find?, named]
    cases met : tree.forest.find? [first] with
    | none =>
      rw [ModuleTree.find?, find?_cons_eq_none met]
      rfl
    | some found => exact laid.follow? met path

theorem walk_forest {above : List String} {forest : Forest Module}
    (laid : Laid table.entries above forest) (steps : Nat)
    (stack : List Nat) :
    table.walk (forest.size + steps)
        ((slotRows forest).map Prod.snd ++ stack) =
      (preorder above forest).map (fun entry => entry.value.slot)
        ++ table.walk steps stack := by
  induction forest generalizing above steps stack with
  | nil =>
    rw [Forest.size, Nat.zero_add]
    rfl
  | node name value children rest below beside =>
    rcases laid with ⟨⟨entry, held, shows⟩, inner, others⟩
    have values : entry.children.values = (slotRows children).map Prod.snd := by
      rw [Keyed.values, shows.children]
    have steps' : (node name value children rest).size + steps =
        (children.size + (rest.size + steps)) + 1 := by
      rw [Forest.size]
      omega
    rw [steps', slotRows_node, List.map_cons, List.cons_append,
      ModuleTable.walk, ModuleTable.get?, held]
    simp only [values]
    rw [below inner, beside others, preorder]
    simp

theorem storedLevel_forest {above : List String} {forest : Forest Module}
    (laid : Laid table.entries above forest) {depth : Nat}
    (deep : forest.size ≤ depth) :
    table.storedLevel depth (slotRows forest) = forest.map Module.stored := by
  induction forest generalizing above depth with
  | nil => cases depth <;> rfl
  | node name value children rest below beside =>
    rcases laid with ⟨⟨entry, held, shows⟩, inner, others⟩
    rw [Forest.size] at deep
    cases depth with
    | zero => omega
    | succ depth =>
      have same : entry.stored = value.stored := by
        rw [ModuleEntry.stored, shows.description, shows.components]
        rfl
      rw [slotRows_node, ModuleTable.storedLevel, ModuleTable.get?, held]
      simp only [shows.children]
      rw [below inner (by omega), beside others (by omega), Forest.map, same]

/-- A stored form is complete, whatever further depth it is given. -/
theorem storedLevel (laid : LaysOut table tree) (sound : tree.Sound)
    (further : Nat) :
    table.storedLevel (table.entries.size + further) table.roots.entries =
      tree.toStored := by
  have deep : tree.forest.size ≤ table.entries.size + further := by
    rw [laid.size, ← sound.size_add_length]
    omega
  rw [laid.roots]
  exact storedLevel_forest (laid.laid_below (level?_root _)) deep

theorem toStored (laid : LaysOut table tree) (sound : tree.Sound) :
    table.toStored = tree.toStored :=
  laid.storedLevel sound 0

/-- A walk meets the modules of the tree, and ends. -/
theorem walk (laid : LaysOut table tree) (sound : tree.Sound)
    (further : Nat) :
    table.walk (table.entries.size + further) table.roots.values =
      tree.modules.map fun entry => entry.value.slot := by
  have walked := walk_forest (laid.laid_below (level?_root tree.forest))
    (tree.free.length + further) []
  rw [← Nat.add_assoc, sound.size_add_length, ← laid.size, List.append_nil]
    at walked
  rw [Keyed.values, laid.roots, walked, ModuleTree.modules]
  cases tree.free.length + further <;> simp [ModuleTable.walk]

/-- Freeing what is below a module. -/
theorem releaseBelow (laid : LaysOut table tree) (sound : tree.Sound)
    {path : List String} {value : Module} {children : Forest Module}
    (met : tree.forest.find? path = some (value, children)) :
    table.releaseBelow value.slot =
      { table with
        entries := clearSlots children.slotsAfter table.entries
        free := children.slotsAfter ++ table.free } := by
  rcases laid.held_of_find? met with ⟨entry, held, shows⟩
  have located := level?_of_find? met
  have inner := laid.laid_below located
  have distinct : children.slots.Nodup :=
    Multiset.nodup_of_le (slots_le_of_level? located) sound.nodup.1
  have values : entry.children.values = (slotRows children).map Prod.snd := by
    rw [Keyed.values, shows.children]
  have freed := releaseAll_forest inner distinct table.free []
  rw [List.append_nil, ← values, ModuleTable.releaseAll] at freed
  rw [ModuleTable.releaseBelow, held]
  simp only [freed]

end LaysOut

end ModuleAtlas
