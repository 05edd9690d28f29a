import ModuleAtlas.Proofs.Module.Layout

/-!
# Insertion into a table of modules

A new module is seated in the slot of the module that it replaces, in the slot
freed last, or in a new one.  Whichever it is, entries elsewhere stay as they
are, and naming the slot on its level lays the grown tree out.  So insertion
into a table follows insertion into the tree that it lays out, and a table
that is read from a stored form lays out the tree with that stored form.
-/

namespace ModuleAtlas

open Forest ModuleTree

/-! ## Single entries -/

namespace ModuleTable

theorem get?_put (table : ModuleTable) {slot : Nat}
    (made : slot < table.entries.size) (entry : ModuleEntry) (other : Nat) :
    (table.put slot entry).get? other =
      if slot = other then some entry else table.get? other := by
  rw [get?, put, Array.getElem?_setIfInBounds]
  simp [made, get?]

theorem get?_setChild_of_ne (table : ModuleTable) {parent : Option Nat}
    {slot : Nat} (different : parent ≠ some slot) (name : String)
    (child : Nat) :
    (table.setChild parent name child).get? slot = table.get? slot := by
  cases parent with
  | none => rfl
  | some parent =>
    have away : parent ≠ slot := fun same => different (congrArg some same)
    rw [get?, setChild, Array.getElem?_modify,
      if_neg away, get?]

theorem get?_setChild_parent (table : ModuleTable) (parent : Nat)
    (name : String) (child : Nat) :
    (table.setChild (some parent) name child).get? parent =
      (table.get? parent).map fun entry =>
        { entry with children := entry.children.insert name child } := by
  rw [get?, setChild, Array.getElem?_modify,
    if_pos rfl, get?]

@[simp]
theorem free_setChild (table : ModuleTable) (parent : Option Nat)
    (name : String) (child : Nat) :
    (table.setChild parent name child).free = table.free := by
  cases parent <;> rfl

@[simp]
theorem size_setChild (table : ModuleTable) (parent : Option Nat)
    (name : String) (child : Nat) :
    (table.setChild parent name child).entries.size = table.entries.size := by
  cases parent with
  | none => rfl
  | some parent => exact Array.size_modify

end ModuleTable

/-! ## Seating an entry -/

/-- What putting an entry into the slot of a taken module, or into an unused
one, does to a table that lays out a tree. -/
structure Seats (table : ModuleTable) (tree : ModuleTree)
    (apart : List String) (entry : ModuleEntry) (slot : Nat)
    (free : List FreeSlot) (made : Nat) (after : ModuleTable) : Prop where
  roots : after.roots = table.roots
  free : after.free = free.map FreeSlot.slot
  size : after.entries.size = made
  here : after.get? slot = some entry
  elsewhere : ∀ {path : List String} {found : Module × Forest Module},
    tree.forest.find? path = some found → ¬ apart <+: path →
    after.get? found.1.slot = table.get? found.1.slot
  cleared : ∀ slot ∈ after.free, ∃ entry, after.get? slot = some entry ∧
    entry.children = .empty

theorem Seats.of_put {table before : ModuleTable} {tree : ModuleTree}
    {apart : List String} {entry : ModuleEntry} {slot : Nat}
    {free : List FreeSlot} {made : Nat} (roots : before.roots = table.roots)
    (unused : before.free = free.map FreeSlot.slot)
    (size : before.entries.size = made) (inside : slot < made)
    (elsewhere : ∀ {path : List String} {found : Module × Forest Module},
      tree.forest.find? path = some found → ¬ apart <+: path →
      slot ≠ found.1.slot ∧
        before.get? found.1.slot = table.get? found.1.slot)
    (cleared : ∀ other ∈ free.map FreeSlot.slot, slot ≠ other ∧
      ∃ entry, before.get? other = some entry ∧ entry.children = .empty) :
    Seats table tree apart entry slot free made (before.put slot entry) := by
  have read := before.get?_put (size.symm ▸ inside) entry
  constructor
  · exact roots
  · exact unused
  · exact Array.size_setIfInBounds.trans size
  · rw [read, if_pos rfl]
  · intro path found met away
    rcases elsewhere met away with ⟨different, same⟩
    rw [read, if_neg different, same]
  · intro other member
    rcases cleared other (unused ▸ member) with ⟨different, held⟩
    rw [read, if_neg different]
    exact held

/-- Entries keep what they hold, apart from that of the parent and those at or
below the paths of some names. -/
def Keeps (tree : ModuleTree) (path : List String) (names : List String)
    (before after : ModuleTable) : Prop :=
  ∀ {other : List String} {found : Module × Forest Module},
    tree.forest.find? other = some found → other ≠ path →
    (∀ name ∈ names, ¬ path ++ [name] <+: other) →
    after.get? found.1.slot = before.get? found.1.slot

namespace LaysOut

variable {table : ModuleTable} {tree : ModuleTree}

/-- After a release every free slot holds an entry without children. -/
theorem childless_released (laid : LaysOut table tree) {path : List String}
    {inner : Forest Module} (located : level? path tree.forest = some inner)
    {slot : Nat} (member : slot ∈ inner.slotsAfter ++ table.free) :
    ∃ entry,
      (clearSlots inner.slotsAfter table.entries)[slot]? = some entry ∧
      entry.children = .empty := by
  rw [getElem?_clearSlots]
  split
  · next inside =>
    rw [mem_slotsAfter, mem_slots (tree.ordered.of_level? located)] at inside
    rcases inside with ⟨below, found, met, rfl⟩
    rw [← find?_below located (by rintro rfl; simp at met)] at met
    rcases laid.held_of_find? met with ⟨entry, held, _⟩
    rw [ModuleTable.get?] at held
    exact ⟨entry.emptied, by rw [held]; rfl, rfl⟩
  · next outside =>
    exact laid.cleared slot
      ((List.mem_append.1 member).resolve_left outside)

theorem seats_replaced (laid : LaysOut table tree) (sound : tree.Sound)
    {path : List String} {old : Module} {children : Forest Module}
    (taken : tree.forest.find? path = some (old, children))
    (entry : ModuleEntry) :
    Seats table tree path entry old.slot
      (freedBelow path children ++ tree.free) tree.slots
      ((table.releaseBelow old.slot).put old.slot entry) := by
  have located := level?_of_find? taken
  rw [laid.releaseBelow sound taken]
  apply Seats.of_put
  · rfl
  · rw [List.map_append, map_slot_freedBelow, ← laid.free]
  · rw [← laid.size]
    exact size_clearSlots children.slotsAfter table.entries
  · exact sound.slot_lt taken
  · intro other found met apart
    constructor
    · intro same
      exact apart (sound.path_eq taken met same ▸ List.prefix_rfl)
    · rw [ModuleTable.get?, getElem?_clearSlots, if_neg, ModuleTable.get?]
      intro member
      rcases sound.below_of_mem_slots located met (mem_slotsAfter.1 member)
        with ⟨first, below, rfl⟩
      exact apart (List.prefix_append path _)
  · intro slot member
    rw [List.map_append, map_slot_freedBelow, ← laid.free] at member
    refine ⟨?_, laid.childless_released located member⟩
    rintro rfl
    rcases List.mem_append.1 member with inside | free
    · rcases sound.below_of_mem_slots located taken (mem_slotsAfter.1 inside)
        with ⟨first, below, same⟩
      exact absurd same (by simp)
    · exact sound.not_free taken (laid.free ▸ free)

theorem seats_reused (laid : LaysOut table tree) (sound : tree.Sound)
    {next : FreeSlot} {free : List FreeSlot} (unused : tree.free = next :: free)
    (path : List String) (entry : ModuleEntry) :
    Seats table tree path entry next.slot free tree.slots
      (ModuleTable.put { table with free := free.map FreeSlot.slot }
        next.slot entry) := by
  have listed : table.free = next.slot :: free.map FreeSlot.slot := by
    rw [laid.free, unused, List.map_cons]
  have distinct := sound.nodup.2.1
  rw [unused, List.map_cons, List.nodup_cons] at distinct
  apply Seats.of_put
  · rfl
  · rfl
  · exact laid.size
  · rw [sound.lt_slots, unused]
    exact Or.inr List.mem_cons_self
  · intro other found met _
    refine ⟨?_, rfl⟩
    intro same
    apply sound.not_free met
    rw [unused, ← same]
    exact List.mem_cons_self
  · intro slot member
    refine ⟨?_, laid.cleared slot (listed ▸ List.mem_cons_of_mem _ member)⟩
    rintro rfl
    exact distinct.1 member

theorem seats_made (laid : LaysOut table tree) (sound : tree.Sound)
    (unused : tree.free = []) (path : List String) (entry : ModuleEntry) :
    Seats table tree path entry tree.slots [] (tree.slots + 1)
      { table with entries := table.entries.push entry } := by
  have listed : table.free = [] := by rw [laid.free, unused, List.map_nil]
  constructor
  · rfl
  · exact listed
  · rw [Array.size_push, laid.size]
  · rw [ModuleTable.get?, ← laid.size, Array.getElem?_push_size]
  · intro other found met _
    have old : found.1.slot < table.entries.size := by
      rw [laid.size]
      exact sound.slot_lt met
    rw [ModuleTable.get?, Array.getElem?_push_lt old, ModuleTable.get?,
      Array.getElem?_eq_getElem old]
  · intro slot member
    exact absurd (listed ▸ member) List.not_mem_nil

theorem placeEntry (laid : LaysOut table tree) (sound : tree.Sound)
    {path : List String} {name : String} {slot made : Nat}
    {free : List FreeSlot} (takes : Takes tree path name slot free made)
    (entry : ModuleEntry) :
    ∃ after,
      table.placeEntry (tree.find? (path ++ [name])) entry = (after, slot) ∧
      Seats table tree (path ++ [name]) entry slot free made after := by
  rw [ModuleTree.find?]
  cases takes with
  | replaced taken =>
    rw [taken]
    exact ⟨_, rfl, laid.seats_replaced sound taken entry⟩
  | reused absent unused =>
    next next =>
    have listed : table.free = next.slot :: free.map FreeSlot.slot := by
      rw [laid.free, unused, List.map_cons]
    refine ⟨_, ?_, laid.seats_reused sound unused _ entry⟩
    rw [absent]
    show table.allocate entry = _
    rw [ModuleTable.allocate, listed]
  | made absent unused =>
    have listed : table.free = [] := by rw [laid.free, unused, List.map_nil]
    refine ⟨_, ?_, laid.seats_made sound unused _ entry⟩
    rw [absent]
    show table.allocate entry = _
    rw [ModuleTable.allocate, listed, laid.size]

/-! ## Naming a seated slot -/

theorem roots_setChild (laid : LaysOut table tree) {path : List String}
    {inner : Forest Module} (located : level? path tree.forest = some inner)
    (added : NewModule) (slot : Nat) {after : ModuleTable}
    (same : after.roots = table.roots) :
    (after.setChild (tree.find? path) added.name slot).roots.entries =
      slotRows (place tree.forest path added slot) := by
  rw [slotRows_place, ← laid.roots, ← same]
  cases path with
  | nil =>
    rw [if_pos rfl, ModuleTree.find?, find?_root]
    rfl
  | cons first path =>
    rw [level?_cons, Option.map_eq_some_iff] at located
    rcases located with ⟨found, met, _⟩
    rw [if_neg (by simp), ModuleTree.find?, met]
    rfl

theorem held_setChild (laid : LaysOut table tree) (sound : tree.Sound)
    {path : List String} {inner : Forest Module}
    (located : level? path tree.forest = some inner) {added : NewModule}
    {slot made : Nat} {free : List FreeSlot}
    (takes : Takes tree path added.name slot free made)
    {after : ModuleTable}
    (seats : Seats table tree (path ++ [added.name])
      ⟨added.name, added.description, path, added.components, .empty⟩
      slot free made after)
    {other : List String} {value : Module} {children : List (String × Nat)}
    (recorded : (place tree.forest path added slot).record? other =
      some (value, children)) :
    ∃ entry,
      (after.setChild (tree.find? path) added.name slot).get? value.slot =
        some entry ∧ entry.Shows other value children := by
  rcases record?_place_cases located recorded with
    ⟨rfl, rfl, rfl⟩ | ⟨rfl, old, before, rfl⟩ | ⟨notParent, apart, before⟩
  · have read := after.get?_setChild_of_ne (sound.parent_ne_taken takes)
      added.name slot
    exact ⟨_, read.trans seats.here, rfl, rfl, rfl, rfl⟩
  · rcases laid.held before with ⟨entry, held, shows⟩
    rcases exists_find?_of_record? before with ⟨found, met, rfl⟩
    have kept := seats.elsewhere met fun inside =>
      absurd inside.length_le (by simp)
    have parent : tree.find? other = some found.1.slot := by
      rw [ModuleTree.find?, met]
      rfl
    refine ⟨{ entry with
      children := entry.children.insert added.name slot }, ?_, ?_⟩
    · rw [parent, ModuleTable.get?_setChild_parent, kept, held]
      rfl
    · exact ⟨shows.path, shows.description, shows.components,
        congrArg (setRow added.name slot) shows.children⟩
  · rcases laid.held before with ⟨entry, held, shows⟩
    rcases exists_find?_of_record? before with ⟨found, met, rfl⟩
    refine ⟨entry, ?_, shows⟩
    rw [after.get?_setChild_of_ne (sound.parent_ne_slot met notParent),
      seats.elsewhere met apart, held]

/-- Naming the slot of a seated entry on its level lays the grown tree out. -/
theorem setChild (laid : LaysOut table tree) (sound : tree.Sound)
    {path : List String} {inner : Forest Module}
    (located : level? path tree.forest = some inner) {added : NewModule}
    {grown : ModuleTree} {slot : Nat} (grownSound : grown.Sound)
    (takes : Takes tree path added.name slot grown.free grown.slots)
    (placed : grown.forest = place tree.forest path added slot)
    {after : ModuleTable}
    (seats : Seats table tree (path ++ [added.name])
      ⟨added.name, added.description, path, added.components, .empty⟩
      slot grown.free grown.slots after) :
    LaysOut (after.setChild (tree.find? path) added.name slot) grown := by
  constructor
  · rw [placed]
    exact laid.roots_setChild located added slot seats.roots
  · rw [ModuleTable.free_setChild, seats.free]
  · rw [ModuleTable.size_setChild, seats.size]
  · intro other value children recorded
    rw [placed] at recorded
    exact laid.held_setChild sound located takes seats recorded
  · intro other free
    rw [ModuleTable.free_setChild] at free
    have notParent : tree.find? path ≠ some other := by
      rw [← find?_place_parent placed]
      exact grownSound.parent_not_free (seats.free ▸ free)
    rw [after.get?_setChild_of_ne notParent]
    exact seats.cleared other free

/-! ## Insertion -/

/-- Insertion into the table follows insertion into the tree. -/
theorem insertOne (laid : LaysOut table tree) (sound : tree.Sound)
    {path : List String} {inner : Forest Module}
    (located : level? path tree.forest = some inner) (added : NewModule) :
    ∃ after,
      table.insertOne (tree.find? path) path added =
        (after, (tree.insertOne path added).2) ∧
      LaysOut after (tree.insertOne path added).1 ∧
      Keeps tree path [added.name] table after := by
  have takes := tree.takes_insertOne path added
  rcases laid.placeEntry sound takes
    ⟨added.name, added.description, path, added.components, .empty⟩ with
    ⟨seated, same, seats⟩
  refine ⟨seated.setChild (tree.find? path) added.name
    (tree.insertOne path added).2, ?_, ?_, ?_⟩
  · rw [ModuleTable.insertOne, laid.find?_level located, same]
  · exact laid.setChild sound located (sound.insertOne located added) takes
      (tree.forest_insertOne path added) seats
  · intro other found met notParent apart
    rw [seated.get?_setChild_of_ne (sound.parent_ne_slot met notParent)]
    exact seats.elsewhere met (apart _ List.mem_cons_self)

theorem insertAll (laid : LaysOut table tree) (sound : tree.Sound)
    {path : List String} {inner : Forest Module}
    (located : level? path tree.forest = some inner)
    (added : List NewModule) :
    ∃ after,
      ModuleTable.insertAll (tree.find? path) path table added =
        (after, (tree.insertAll path added).2) ∧
      LaysOut after (tree.insertAll path added).1 ∧
      Keeps tree path (added.map NewModule.name) table after := by
  induction added generalizing table tree inner with
  | nil => exact ⟨table, rfl, laid, fun _ _ _ => rfl⟩
  | cons next rest step =>
    rcases laid.insertOne sound located next with ⟨middle, same, laid', kept⟩
    have placed := tree.forest_insertOne path next
    rcases located_insertOne located next with ⟨level, located'⟩
    rcases step laid' (sound.insertOne located next) located' with
      ⟨after, same', laid'', kept'⟩
    rw [find?_place_parent placed] at same'
    refine ⟨after, ?_, laid'', ?_⟩
    · simp only [ModuleTable.insertAll, same, same']
      rfl
    · intro other found met notParent apart
      simp only [List.map_cons, List.mem_cons, forall_eq_or_imp] at apart
      have first := kept met notParent (by simpa using apart.1)
      have moved : ∃ found',
          (tree.insertOne path next).1.forest.find? other = some found' ∧
            found'.1 = found.1 := by
        rw [placed]
        exact exists_find?_place located met notParent apart.1
      rcases moved with ⟨found', met', same⟩
      rw [← first, ← same]
      exact kept' met' notParent apart.2

theorem insertModules (laid : LaysOut table tree) (sound : tree.Sound)
    {path : List String} {inner : Forest Module}
    (located : level? path tree.forest = some inner)
    (added : List NewModule) :
    ∃ after,
      table.insertModules path added =
        (after, some (tree.insertAll path added).2) ∧
      LaysOut after (tree.insertAll path added).1 ∧
      Keeps tree path (added.map NewModule.name) table after := by
  rcases laid.insertAll sound located added with ⟨after, same, laid', kept⟩
  refine ⟨after, ?_, laid', kept⟩
  cases path with
  | nil =>
    rw [ModuleTree.find?, find?_root, Option.map_none] at same
    simp only [ModuleTable.insertModules, same]
  | cons first path =>
    rw [level?_cons, Option.map_eq_some_iff] at located
    rcases located with ⟨found, met, _⟩
    have known : tree.find? (first :: path) = some found.1.slot := by
      rw [ModuleTree.find?, met]
      rfl
    rw [known] at same
    simp only [ModuleTable.insertModules, laid.find?, known, same]

theorem insertModules_lost (laid : LaysOut table tree) {path : List String}
    (lost : level? path tree.forest = none) (added : List NewModule) :
    table.insertModules path added = (table, none) := by
  cases path with
  | nil => simp at lost
  | cons first path =>
    have unknown : tree.find? (first :: path) = none := by
      rw [level?_cons, Option.map_eq_none_iff] at lost
      rw [ModuleTree.find?, lost]
      rfl
    simp only [ModuleTable.insertModules, laid.find?, unknown]

/-! ## Reading a stored form -/

theorem restoreBelow (laid : LaysOut table tree) (sound : tree.Sound)
    (path : List String) (stored : StoredTree) :
    LaysOut (ModuleTable.restoreBelow path stored table)
        (ModuleTree.restoreBelow path stored tree)
      ∧ (ModuleTree.restoreBelow path stored tree).Sound := by
  induction stored generalizing table tree path with
  | nil => exact ⟨laid, sound⟩
  | node name value children rest below beside =>
    cases children with
    | nil => exact beside laid sound path
    | node head headValue headChildren others =>
      simp only [ModuleTable.restoreBelow, ModuleTree.restoreBelow]
      cases located : level? (path ++ [name]) tree.forest with
      | none =>
        rw [laid.insertModules_lost located, insertModules?_of_lost located]
        exact beside laid sound path
      | some inner =>
        rcases laid.insertModules sound located (newModules
          (node head headValue headChildren others)) with
          ⟨after, same, laid', _⟩
        rw [same, insertModules?_of_located located]
        have restored := below laid' (sound.insertAll located _) (path ++ [name])
        exact beside restored.1 restored.2 path

theorem empty : LaysOut ModuleTable.empty ModuleTree.empty where
  roots := rfl
  free := rfl
  size := rfl
  held := by
    intro path value children recorded
    simp [record?, ModuleTree.empty] at recorded
  cleared := by
    intro slot member
    exact absurd member List.not_mem_nil

theorem ofStored (stored : StoredTree) :
    LaysOut (ModuleTable.ofStored stored) (ModuleTree.ofStored stored)
      ∧ (ModuleTree.ofStored stored).Sound := by
  have located := level?_root ModuleTree.empty.forest
  rcases empty.insertModules Sound.empty located (newModules stored) with
    ⟨after, same, laid, _⟩
  rw [ModuleTable.ofStored, same]
  exact laid.restoreBelow (Sound.empty.insertAll located _) [] stored

end LaysOut

end ModuleAtlas
