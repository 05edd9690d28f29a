import Mathlib.Data.Multiset.Range
import ModuleAtlas.Proofs.Module.Records

/-!
# Slots of a module tree

In a sound tree every slot that was made belongs to one module or is free,
and never twice.  An insertion below a location takes the slot of the module
that it replaces, the slot freed last, or a new one; in each case the tree
stays sound, and no module elsewhere has the slot that is taken.
-/

namespace ModuleAtlas

namespace Forest

/-- The slots of all modules. -/
def slots : Forest Module → Multiset Nat
  | nil => 0
  | node _ value children rest => value.slot ::ₘ (children.slots + rest.slots)

/-- The slots of all modules, each after those below it. -/
def slotsAfter : Forest Module → List Nat
  | nil => []
  | node _ value children rest =>
    children.slotsAfter ++ value.slot :: rest.slotsAfter

theorem slots_eq_map_rows (above : List String) (forest : Forest Module) :
    forest.slots = (rows above forest).map fun row => row.2.slot := by
  induction forest generalizing above with
  | nil => rfl
  | node name value children rest below beside =>
    rw [slots, rows, Multiset.map_cons, Multiset.map_add,
      ← below (above ++ [name]), ← beside above]

theorem mem_slots {forest : Forest Module} (ordered : forest.Ordered)
    {slot : Nat} :
    slot ∈ forest.slots ↔
      ∃ path found, find? path forest = some found ∧ found.1.slot = slot := by
  rw [slots_eq_map_rows [], Multiset.mem_map]
  constructor
  · rintro ⟨⟨path, value⟩, member, same⟩
    rw [mem_rows_nil ordered, valueAt?, Option.map_eq_some_iff] at member
    rcases member with ⟨found, met, rfl⟩
    exact ⟨path, found, met, same⟩
  · rintro ⟨path, found, met, same⟩
    refine ⟨(path, found.1), ?_, same⟩
    rw [mem_rows_nil ordered, valueAt?, met]
    rfl

theorem coe_slotsAfter (forest : Forest Module) :
    (forest.slotsAfter : Multiset Nat) = forest.slots := by
  induction forest with
  | nil => rfl
  | node name value children rest below beside =>
    rw [slotsAfter, slots, ← below, ← beside, ← Multiset.coe_add,
      ← Multiset.cons_coe, Multiset.add_cons]

theorem mem_slotsAfter {forest : Forest Module} {slot : Nat} :
    slot ∈ forest.slotsAfter ↔ slot ∈ forest.slots := by
  rw [← coe_slotsAfter, Multiset.mem_coe]

theorem coe_slots_preorder (above : List String) (forest : Forest Module) :
    (((preorder above forest).map fun entry => entry.value.slot : List Nat) :
      Multiset Nat) = forest.slots := by
  rw [slots_eq_map_rows above, rows_eq_map_preorder, Multiset.map_coe,
    List.map_map]
  rfl

theorem card_slots (forest : Forest Module) :
    forest.slots.card = forest.size := by
  induction forest with
  | nil => rfl
  | node name value children rest below beside =>
    rw [slots, Multiset.card_cons, Multiset.card_add, below, beside, size]

theorem slots_changeBelow (change : Forest Module → Forest Module)
    {path : List String} {forest inner : Forest Module}
    (located : level? path forest = some inner) :
    (changeBelow change path forest).slots + inner.slots =
      forest.slots + (change inner).slots := by
  have changed := congrArg (Multiset.map fun row => row.2.slot)
    (rows_changeBelow_add change [] located)
  simpa only [Multiset.map_add, ← slots_eq_map_rows] using changed

theorem slots_le_of_level? {path : List String}
    {forest inner : Forest Module}
    (located : level? path forest = some inner) :
    inner.slots ≤ forest.slots := by
  induction forest generalizing path with
  | nil =>
    cases path with
    | nil => rw [Option.some.inj located]
    | cons first path => simp at located
  | node name value children rest below beside =>
    cases path with
    | nil => rw [Option.some.inj located]
    | cons first path =>
      rw [level?_node] at located
      rw [slots]
      apply le_trans _ (Multiset.le_cons_self _ _)
      split at located
      · exact (below located).trans (Multiset.le_add_right _ _)
      · exact (beside located).trans (Multiset.le_add_left _ _)

theorem slots_insert {name : String} (value : Module)
    {forest : Forest Module} (fresh : find? [name] forest = none) :
    (forest.insert name value nil).slots = value.slot ::ₘ forest.slots := by
  rw [slots_eq_map_rows [], rows_insert, Multiset.map_cons,
    ← slots_eq_map_rows]
  exact find?_single_eq_none.1 fresh

theorem slots_insert_taken {name : String} (value : Module)
    {forest : Forest Module} (ordered : forest.Ordered)
    {old : Module} {children : Forest Module}
    (taken : find? [name] forest = some (old, children)) :
    (forest.insert name value nil).slots
        + old.slot ::ₘ children.slots =
      value.slot ::ₘ forest.slots := by
  have counted := congrArg (Multiset.map fun row => row.2.slot)
    (rows_insert_taken [] value ordered taken)
  simpa only [Multiset.map_add, Multiset.map_cons, ← slots_eq_map_rows]
    using counted

/-- Modules of a forest in the same slot have the same path. -/
theorem path_eq_of_slot {forest : Forest Module} (ordered : forest.Ordered)
    (distinct : forest.slots.Nodup) {path other : List String}
    {found found' : Module × Forest Module}
    (met : find? path forest = some found)
    (met' : find? other forest = some found')
    (same : found.1.slot = found'.1.slot) : path = other := by
  rw [slots_eq_map_rows []] at distinct
  have row : (path, found.1) ∈ rows [] forest := by
    rw [mem_rows_nil ordered, valueAt?, met]
    rfl
  have row' : (other, found'.1) ∈ rows [] forest := by
    rw [mem_rows_nil ordered, valueAt?, met']
    rfl
  exact congrArg Prod.fst
    (Multiset.inj_on_of_nodup_map distinct _ row _ row' same)

end Forest

open Forest

namespace ModuleTree

/-! ## Taking a slot -/

/-- The slot that is taken for a module with a name below a path, and the
free slots and the number of slots afterwards. -/
inductive Takes (tree : ModuleTree) (path : List String) (name : String) :
    Nat → List FreeSlot → Nat → Prop where
  | replaced {old : Module} {children : Forest Module} :
      tree.forest.find? (path ++ [name]) = some (old, children) →
      Takes tree path name old.slot
        (freedBelow (path ++ [name]) children ++ tree.free) tree.slots
  | reused {next : FreeSlot} {free : List FreeSlot} :
      tree.forest.find? (path ++ [name]) = none → tree.free = next :: free →
      Takes tree path name next.slot free tree.slots
  | made :
      tree.forest.find? (path ++ [name]) = none → tree.free = [] →
      Takes tree path name tree.slots [] (tree.slots + 1)

theorem takes_insertOne (tree : ModuleTree) (path : List String)
    (added : NewModule) :
    Takes tree path added.name (tree.insertOne path added).2
      (tree.insertOne path added).1.free
      (tree.insertOne path added).1.slots := by
  rw [insertOne]
  split
  · next old children taken => exact Takes.replaced taken
  · next absent =>
    split
    · next next free unused => exact Takes.reused absent unused
    · next unused => exact unused ▸ Takes.made absent unused

theorem slots_place {forest inner : Forest Module} {path : List String}
    (located : level? path forest = some inner) {added : NewModule}
    (absent : forest.find? (path ++ [added.name]) = none) (slot : Nat) :
    (place forest path added slot).slots = slot ::ₘ forest.slots := by
  have placed := slots_changeBelow
    (·.insert added.name ⟨slot, added.description, added.components⟩ .nil)
    located
  rw [find?_below located (by simp)] at absent
  rw [slots_insert _ absent, Multiset.add_cons, ← Multiset.cons_add,
    add_left_inj] at placed
  exact placed

theorem slots_place_taken {forest inner : Forest Module} {path : List String}
    (ordered : inner.Ordered) (located : level? path forest = some inner)
    {added : NewModule} {old : Module} {children : Forest Module}
    (taken : forest.find? (path ++ [added.name]) = some (old, children)) :
    (place forest path added old.slot).slots + children.slots =
      forest.slots := by
  have placed := slots_changeBelow
    (·.insert added.name ⟨old.slot, added.description, added.components⟩ .nil)
    located
  rw [find?_below located (by simp)] at taken
  have level := slots_insert_taken
    ⟨old.slot, added.description, added.components⟩ ordered taken
  rw [Multiset.add_cons, Multiset.cons_inj_right] at level
  rw [← level, ← add_assoc, add_right_comm, add_left_inj] at placed
  exact placed

theorem map_slot_freedBelow (path : List String) (children : Forest Module) :
    (freedBelow path children).map FreeSlot.slot = children.slotsAfter := by
  rw [freedBelow, List.map_map]
  induction children generalizing path with
  | nil => rfl
  | node name value children rest below beside =>
    rw [postorder, List.map_append, List.map_cons, below, beside]
    rfl

/-! ## Sound trees -/

/-- Every slot that was made belongs to one module or is free, once. -/
def Sound (tree : ModuleTree) : Prop :=
  tree.forest.slots + (tree.free.map FreeSlot.slot : List Nat) =
    Multiset.range tree.slots

namespace Sound

variable {tree : ModuleTree}

theorem empty : Sound ModuleTree.empty := rfl

theorem nodup (sound : tree.Sound) :
    tree.forest.slots.Nodup ∧ (tree.free.map FreeSlot.slot).Nodup ∧
      Disjoint tree.forest.slots (tree.free.map FreeSlot.slot : List Nat) := by
  rw [← Multiset.coe_nodup, ← Multiset.nodup_add, sound]
  exact Multiset.nodup_range _

theorem size_add_length (sound : tree.Sound) :
    tree.forest.size + tree.free.length = tree.slots := by
  have counted := congrArg Multiset.card sound
  rwa [Multiset.card_add, card_slots, Multiset.coe_card, List.length_map,
    Multiset.card_range] at counted

theorem path_eq (sound : tree.Sound) {path other : List String}
    {found found' : Module × Forest Module}
    (met : tree.forest.find? path = some found)
    (met' : tree.forest.find? other = some found')
    (same : found.1.slot = found'.1.slot) : path = other :=
  path_eq_of_slot tree.ordered sound.nodup.1 met met' same

theorem lt_slots (sound : tree.Sound) {slot : Nat} :
    slot < tree.slots ↔
      slot ∈ tree.forest.slots ∨ slot ∈ tree.free.map FreeSlot.slot := by
  rw [← Multiset.mem_range, ← sound, Multiset.mem_add, Multiset.mem_coe]

theorem not_free (sound : tree.Sound) {path : List String}
    {found : Module × Forest Module}
    (met : tree.forest.find? path = some found) :
    found.1.slot ∉ tree.free.map FreeSlot.slot := by
  have used := (mem_slots tree.ordered).2 ⟨path, found, met, rfl⟩
  exact fun free => Multiset.disjoint_left.1 sound.nodup.2.2 used free

theorem slot_lt (sound : tree.Sound) {path : List String}
    {found : Module × Forest Module}
    (met : tree.forest.find? path = some found) :
    found.1.slot < tree.slots :=
  sound.lt_slots.2 (Or.inl ((mem_slots tree.ordered).2 ⟨path, found, met, rfl⟩))

/-- A module in a slot from below a location is below it. -/
theorem below_of_mem_slots (sound : tree.Sound) {path : List String}
    {inner : Forest Module} (located : level? path tree.forest = some inner)
    {other : List String} {found : Module × Forest Module}
    (met : tree.forest.find? other = some found)
    (member : found.1.slot ∈ inner.slots) :
    ∃ first below, other = path ++ first :: below := by
  rw [mem_slots (tree.ordered.of_level? located)] at member
  rcases member with ⟨below, found', met', same⟩
  cases below with
  | nil => simp at met'
  | cons first below =>
    rw [← find?_below located (by simp)] at met'
    exact ⟨first, below, sound.path_eq met met' same.symm⟩

/-- No module elsewhere has the slot that is taken. -/
theorem slot_ne_taken (sound : tree.Sound) {path : List String}
    {name : String} {slot made : Nat} {free : List FreeSlot}
    (takes : Takes tree path name slot free made) {other : List String}
    {found : Module × Forest Module}
    (met : tree.forest.find? other = some found)
    (apart : ¬ path ++ [name] <+: other) : found.1.slot ≠ slot := by
  intro same
  cases takes with
  | replaced taken =>
    exact apart (sound.path_eq met taken same ▸ List.prefix_rfl)
  | reused _ unused =>
    apply sound.not_free met
    rw [unused, List.map_cons, same]
    exact List.mem_cons_self
  | made => exact Nat.lt_irrefl _ (same ▸ sound.slot_lt met)

theorem parent_ne_taken (sound : tree.Sound) {path : List String}
    {name : String} {slot made : Nat} {free : List FreeSlot}
    (takes : Takes tree path name slot free made) :
    tree.find? path ≠ some slot := by
  intro met
  rcases Option.map_eq_some_iff.1 met with ⟨found, met, same⟩
  refine sound.slot_ne_taken takes met ?_ same
  exact fun inside => absurd inside.length_le (by simp)

theorem parent_ne_slot (sound : tree.Sound) {path other : List String}
    {found : Module × Forest Module}
    (met : tree.forest.find? other = some found) (notParent : other ≠ path) :
    tree.find? path ≠ some found.1.slot := by
  intro parent
  rcases Option.map_eq_some_iff.1 parent with ⟨found', met', same⟩
  exact notParent (sound.path_eq met met' same.symm)

theorem parent_not_free (sound : tree.Sound) {path : List String} {slot : Nat}
    (free : slot ∈ tree.free.map FreeSlot.slot) :
    tree.find? path ≠ some slot := by
  intro parent
  rcases Option.map_eq_some_iff.1 parent with ⟨found, met, rfl⟩
  exact sound.not_free met free

theorem insertOne (sound : tree.Sound) {path : List String}
    {inner : Forest Module} (located : level? path tree.forest = some inner)
    (added : NewModule) : (tree.insertOne path added).1.Sound := by
  have ordered := tree.ordered.of_level? located
  have kept := sound
  have placed := tree.forest_insertOne path added
  have takes := tree.takes_insertOne path added
  rw [Sound] at kept ⊢
  rw [placed]
  revert takes
  generalize (tree.insertOne path added).2 = slot
  generalize (tree.insertOne path added).1.free = free
  generalize (tree.insertOne path added).1.slots = made
  intro takes
  cases takes with
  | replaced taken =>
    rw [List.map_append, ← Multiset.coe_add, map_slot_freedBelow,
      coe_slotsAfter, ← add_assoc, slots_place_taken ordered located taken, kept]
  | reused absent unused =>
    rw [unused, List.map_cons, ← Multiset.cons_coe, Multiset.add_cons] at kept
    rw [slots_place located absent, Multiset.cons_add, kept]
  | made absent unused =>
    rw [unused] at kept
    rw [slots_place located absent, Multiset.cons_add, kept,
      Multiset.range_succ]

theorem insertAll (sound : tree.Sound) {path : List String}
    {inner : Forest Module} (located : level? path tree.forest = some inner)
    (added : List NewModule) : (insertAll path tree added).1.Sound := by
  induction added generalizing tree inner with
  | nil => exact sound
  | cons next rest step =>
    rcases located_insertOne located next with ⟨level, located'⟩
    exact step (sound.insertOne located next) located'

end Sound

end ModuleTree

end ModuleAtlas
