import ModuleAtlas.Proofs.Keyed
import ModuleAtlas.Proofs.Module.Seating

/-!
# Tables of modules that can be reached

A table that is reached by insertions, from the empty one or from one read
from a stored form, lays out a sound module tree.  So its slots are shared
out: each slot that was made is met once on the way down from the first level,
or is free once.  An insertion into it is an insertion into the nested mapping
that it stores, and moves no module elsewhere.
-/

namespace ModuleAtlas

open Forest ModuleTree

namespace ModuleTable

/-- Tables that insertions lead to. -/
inductive Reached : ModuleTable → Prop where
  | empty : Reached ModuleTable.empty
  | restored (stored : StoredTree) : Reached (ofStored stored)
  | inserted {table : ModuleTable} (path : List String)
      (added : List NewModule) :
      Reached table → Reached (table.insertModules path added).1

theorem Reached.exists_tree {table : ModuleTable} (reached : Reached table) :
    ∃ tree, LaysOut table tree ∧ tree.Sound := by
  induction reached with
  | empty => exact ⟨_, LaysOut.empty, Sound.empty⟩
  | restored stored => exact ⟨_, LaysOut.ofStored stored⟩
  | inserted path added _ step =>
    rcases step with ⟨tree, laid, sound⟩
    cases located : level? path tree.forest with
    | none =>
      rw [laid.insertModules_lost located]
      exact ⟨tree, laid, sound⟩
    | some inner =>
      rcases laid.insertModules sound located added with
        ⟨after, same, laid', _⟩
      rw [same]
      exact ⟨_, laid', sound.insertAll located added⟩

/-! ## Ways down a table -/

/-- Names lead from the first level down to a slot. -/
inductive Leads (table : ModuleTable) : List String → Nat → Prop where
  | root {name : String} {slot : Nat} :
      table.roots.find? name = some slot → Leads table [name] slot
  | child {path : List String} {slot below : Nat} {entry : ModuleEntry}
      {name : String} :
      Leads table path slot → table.get? slot = some entry →
      entry.children.find? name = some below →
      Leads table (path ++ [name]) below

/-- The slot of a child by name. -/
def child? (table : ModuleTable) (parent : Nat) (name : String) :
    Option Nat :=
  (table.get? parent).bind fun entry => entry.children.find? name

theorem follow?_append (table : ModuleTable) (slot : Nat)
    (path : List String) (name : String) :
    table.follow? slot (path ++ [name]) =
      (table.follow? slot path).bind fun parent => table.child? parent name := by
  induction path generalizing slot with
  | nil => simp [follow?, child?]
  | cons first path step =>
    rw [List.cons_append, follow?, follow?]
    cases table.get? slot with
    | none => rfl
    | some entry =>
      cases met : entry.children.find? first with
      | none => simp [met]
      | some below => simp [met, step]

theorem find?_append {table : ModuleTable} {path : List String}
    (nonempty : path ≠ []) (name : String) :
    table.find? (path ++ [name]) =
      (table.find? path).bind fun parent => table.child? parent name := by
  cases path with
  | nil => exact absurd rfl nonempty
  | cons first path =>
    rw [List.cons_append, find?, find?]
    cases table.roots.find? first with
    | none => rfl
    | some slot => exact table.follow?_append slot path name

theorem leads_iff_find? {table : ModuleTable} {path : List String}
    {slot : Nat} : table.Leads path slot ↔ table.find? path = some slot := by
  constructor
  · intro leads
    induction leads with
    | root named => simp [find?, named, follow?]
    | child _ held named step =>
      rw [find?_append, step]
      · simp [child?, held, named]
      · rintro rfl
        simp [find?] at step
  · intro met
    induction path using List.reverseRecOn generalizing slot with
    | nil => simp [find?] at met
    | append_singleton path name step =>
      by_cases top : path = []
      · subst top
        apply Leads.root
        simpa [find?, follow?] using met
      · rw [find?_append top, Option.bind_eq_some_iff] at met
        rcases met with ⟨parent, met, below⟩
        rcases Option.bind_eq_some_iff.1 below with ⟨entry, held, named⟩
        exact Leads.child (step met) held named

/-! ## Well-formed tables -/

/-- Each slot that was made is met once on the way down from the first level,
or is free once. -/
structure WellFormed (table : ModuleTable) : Prop where
  roots_made : ∀ slot ∈ table.roots.values, slot < table.entries.size
  children_made : ∀ {slot : Nat} {entry : ModuleEntry},
    table.get? slot = some entry →
    ∀ child ∈ entry.children.values, child < table.entries.size
  free_made : ∀ slot ∈ table.free, slot < table.entries.size
  path_unique : ∀ {path other : List String} {slot : Nat},
    table.Leads path slot → table.Leads other slot → path = other
  entry_named : ∀ {above : List String} {name : String} {slot : Nat},
    table.Leads (above ++ [name]) slot →
    ∃ entry, table.get? slot = some entry ∧ entry.name = name ∧
      entry.above = above
  used_once : table.slotsInUse.Nodup
  mem_used : ∀ {slot : Nat},
    slot ∈ table.slotsInUse ↔ ∃ path, table.Leads path slot
  walk_ends : ∀ further,
    table.walk (table.entries.size + further) table.roots.values =
      table.slotsInUse
  free_once : table.free.Nodup
  free_unused : ∀ {path : List String} {slot : Nat},
    table.Leads path slot → slot ∉ table.free
  made_iff : ∀ {slot : Nat}, slot < table.entries.size ↔
    slot ∈ table.free ∨ ∃ path, table.Leads path slot
  size_eq : table.entries.size = table.moduleCount + table.free.length

end ModuleTable

namespace LaysOut

variable {table : ModuleTable} {tree : ModuleTree}

theorem leads_iff (laid : LaysOut table tree) {path : List String}
    {slot : Nat} :
    table.Leads path slot ↔
      ∃ found, tree.forest.find? path = some found ∧ found.1.slot = slot := by
  rw [ModuleTable.leads_iff_find?, laid.find?, ModuleTree.find?,
    Option.map_eq_some_iff]

theorem exists_leads_iff (laid : LaysOut table tree) {slot : Nat} :
    (∃ path, table.Leads path slot) ↔ slot ∈ tree.forest.slots := by
  rw [mem_slots tree.ordered]
  exact exists_congr fun path => laid.leads_iff

theorem made_iff (laid : LaysOut table tree) (sound : tree.Sound)
    {slot : Nat} :
    slot < table.entries.size ↔
      slot ∈ table.free ∨ ∃ path, table.Leads path slot := by
  rw [laid.size, sound.lt_slots, laid.exists_leads_iff, laid.free, or_comm]

theorem slotsInUse (laid : LaysOut table tree) (sound : tree.Sound) :
    table.slotsInUse = tree.modules.map fun entry => entry.value.slot :=
  laid.walk sound 0

/-- A slot that is named on the way down or in an entry was made. -/
theorem lt_size_of_leads (laid : LaysOut table tree) (sound : tree.Sound)
    {path : List String} {slot : Nat} (leads : table.Leads path slot) :
    slot < table.entries.size :=
  (laid.made_iff sound).2 (Or.inr ⟨path, leads⟩)

theorem wellFormed (laid : LaysOut table tree) (sound : tree.Sound) :
    table.WellFormed where
  roots_made := by
    intro slot member
    rcases Keyed.mem_values.1 member with ⟨name, named⟩
    exact laid.lt_size_of_leads sound (ModuleTable.Leads.root named)
  children_made := by
    intro slot entry held child member
    rcases Keyed.mem_values.1 member with ⟨name, named⟩
    have made : slot < table.entries.size :=
      (Array.getElem?_eq_some_iff.1 held).1
    rcases (laid.made_iff sound).1 made with free | ⟨path, leads⟩
    · rcases laid.cleared slot free with ⟨entry', held', childless⟩
      obtain rfl := Option.some.inj (held.symm.trans held')
      rw [childless] at named
      exact absurd named (by simp)
    · exact laid.lt_size_of_leads sound (leads.child held named)
  free_made := fun slot member => (laid.made_iff sound).2 (Or.inl member)
  path_unique := by
    intro path other slot leads leads'
    rcases laid.leads_iff.1 leads with ⟨found, met, rfl⟩
    rcases laid.leads_iff.1 leads' with ⟨found', met', same⟩
    exact sound.path_eq met met' same.symm
  entry_named := by
    intro above name slot leads
    rcases laid.leads_iff.1 leads with ⟨found, met, rfl⟩
    rcases laid.held_of_find? met with ⟨entry, held, shows⟩
    have split := List.append_inj' shows.path rfl
    exact ⟨entry, held, List.singleton_inj.1 split.2, split.1⟩
  used_once := by
    rw [laid.slotsInUse sound, ← Multiset.coe_nodup, ModuleTree.modules,
      coe_slots_preorder]
    exact sound.nodup.1
  mem_used := by
    intro slot
    rw [laid.slotsInUse sound, ← Multiset.mem_coe, ModuleTree.modules,
      coe_slots_preorder, laid.exists_leads_iff]
  walk_ends := by
    intro further
    rw [laid.walk sound, laid.slotsInUse sound]
  free_once := by
    rw [laid.free]
    exact sound.nodup.2.1
  free_unused := by
    intro path slot leads
    rcases laid.leads_iff.1 leads with ⟨found, met, rfl⟩
    rw [laid.free]
    exact sound.not_free met
  made_iff := laid.made_iff sound
  size_eq := by
    have counted := congrArg Multiset.card
      (coe_slots_preorder [] tree.forest)
    rw [Multiset.coe_card, card_slots] at counted
    rw [ModuleTable.moduleCount, laid.slotsInUse sound, laid.size, laid.free,
      ModuleTree.modules, counted, List.length_map, sound.size_add_length]

end LaysOut

namespace ModuleTable

/-- Tables that can be reached are well-formed. -/
theorem wellFormed_of_reached {table : ModuleTable}
    (reached : Reached table) : table.WellFormed := by
  rcases reached.exists_tree with ⟨tree, laid, sound⟩
  exact laid.wellFormed sound

namespace Sample

def leaf (name : String) : NewModule := ⟨name, "", .empty⟩

/-- Two modules, the first of them with two children. -/
def grown : ModuleTable :=
  ((ModuleTable.empty.insertModules [] [leaf "a", leaf "b"]).1.insertModules
    ["a"] [leaf "c", leaf "d"]).1

theorem reached_grown : Reached grown :=
  .inserted ["a"] _ (.inserted [] _ .empty)

/-- The first module is replaced, and one of the freed slots used again. -/
def recycled : ModuleTable :=
  (grown.insertModules [] [leaf "a", leaf "e"]).1

end Sample

/-- A table with slots that were freed and used again. -/
theorem wellFormed_recycled :
    Reached Sample.recycled ∧ Sample.recycled.free = [3] ∧
      Sample.recycled.WellFormed := by
  have reached : Reached Sample.recycled :=
    .inserted [] _ Sample.reached_grown
  exact ⟨reached, by decide +kernel, wellFormed_of_reached reached⟩

/-! ## Insertion into the stored mapping -/

/-- What a table stores is a nested mapping, complete at every further depth. -/
theorem storedLevel_of_reached {table : ModuleTable}
    (reached : Reached table) (further : Nat) :
    table.storedLevel (table.entries.size + further) table.roots.entries =
        table.toStored
      ∧ table.toStored.Ordered := by
  rcases reached.exists_tree with ⟨tree, laid, sound⟩
  rw [laid.storedLevel sound, laid.toStored sound]
  exact ⟨rfl, tree.toStored_ordered⟩

/-- What inserting modules below a path makes of a table: the mapping that it
stores has the modules on the level below the path, the answered slots are
theirs, and modules elsewhere keep their slots and entries. -/
structure Grows (table : ModuleTable) (path : List String)
    (added : List NewModule) (after : ModuleTable) (slots : List Nat) :
    Prop where
  stored : after.toStored =
    changeBelow (StoredTree.putAll added) path table.toStored
  answered : slots.map some =
    added.map fun next => after.find? (path ++ [next.name])
  kept : ∀ {other : List String} {slot : Nat},
    table.find? other = some slot → other ≠ path →
    (∀ next ∈ added, ¬ path ++ [next.name] <+: other) →
    after.find? other = some slot ∧ after.get? slot = table.get? slot

/-- Modules are inserted below the empty path and every module; below another
path the table stays as it is. -/
theorem insertModules_grows {table : ModuleTable} (reached : Reached table)
    (path : List String) (added : List NewModule) :
    (path = [] ∨ (table.find? path).isSome = true →
      ∃ after slots, table.insertModules path added = (after, some slots) ∧
        Grows table path added after slots)
    ∧ (path ≠ [] → table.find? path = none →
      table.insertModules path added = (table, none)) := by
  rcases reached.exists_tree with ⟨tree, laid, sound⟩
  constructor
  · rw [laid.find?]
    intro named
    rcases exists_level?_iff.2 named with ⟨inner, located⟩
    rcases laid.insertModules sound located added with
      ⟨after, same, laid', keeps⟩
    have sound' := sound.insertAll located added
    refine ⟨after, _, same, ?_, ?_, ?_⟩
    · rw [laid'.toStored sound', laid.toStored sound, toStored_insertAll]
    · simp only [laid'.find?]
      exact slots_insertAll located added
    · intro other slot met notParent apart
      rw [laid.find?] at met
      constructor
      · rw [laid'.find?, find?_insertAll_apart located added notParent apart,
          met]
      · rcases Option.map_eq_some_iff.1 met with ⟨found, met', rfl⟩
        apply keeps met' notParent
        intro name member
        rcases List.mem_map.1 member with ⟨next, among, rfl⟩
        exact apart next among
  · intro nonempty unknown
    apply laid.insertModules_lost
    rw [laid.find?] at unknown
    rw [← Option.not_isSome_iff_eq_none, Option.isSome_iff_exists,
      exists_level?_iff, unknown]
    simpa using nonempty

/-- A child replaced and put there again, and a path without a module. -/
theorem insertModules_grows_sample :
    Reached Sample.grown ∧ Sample.grown.find? ["a"] = some 0 ∧
      (∃ after slots,
        Sample.grown.insertModules ["a"] [Sample.leaf "c", Sample.leaf "c"] =
          (after, some slots) ∧
        Grows Sample.grown ["a"] [Sample.leaf "c", Sample.leaf "c"]
          after slots) ∧
      Sample.grown.find? ["b", "c"] = none ∧
      Sample.grown.insertModules ["b", "c"] [Sample.leaf "c"] =
        (Sample.grown, none) := by
  have known : Sample.grown.find? ["a"] = some 0 := by decide
  have unknown : Sample.grown.find? ["b", "c"] = none := by decide
  have inside := (insertModules_grows Sample.reached_grown ["a"]
    [Sample.leaf "c", Sample.leaf "c"]).1 (Or.inr (by rw [known]; rfl))
  have outside := (insertModules_grows Sample.reached_grown ["b", "c"]
    [Sample.leaf "c"]).2 (by decide) unknown
  exact ⟨Sample.reached_grown, known, inside, unknown, outside⟩

end ModuleTable

end ModuleAtlas
