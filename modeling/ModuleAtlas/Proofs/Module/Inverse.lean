import ModuleAtlas.Proofs.Module.Persistence

/-!
# Restoring a table inverts storing it

Restoring goes down level by level and looks up the path of every parent from
the first level, while the table grows.  A parent is put into the table before
what is below it, and insertions further down remove no path that is not longer
than theirs.  So a parent is never missed, in whatever order siblings stand.

A table that is restored stores the form that it was restored from, with the
components of each module in order.  Forms that tables store have them in order
already, and on these forms restoring and storing are inverse, slots included.
-/

namespace ModuleAtlas

open Forest ModuleTree

/-- A stored module has the components of another one in strictly ascending
order. -/
structure StoredModule.Sorts (value sorted : StoredModule) : Prop where
  description : sorted.description = value.description
  ascending : sorted.components.Pairwise (· < ·)
  mem_components : ∀ name,
    name ∈ sorted.components ↔ name ∈ value.components

theorem StoredModule.sorts_sorted (value : StoredModule) :
    value.Sorts value.sorted where
  description := rfl
  ascending := (NameSet.ofList value.components).ascending
  mem_components := fun _ => NameSet.mem_ofList

namespace ModuleTree

theorem names_newModules (stored : StoredTree) :
    (newModules stored).map NewModule.name = stored.roots.map Prod.fst := by
  induction stored with
  | nil => rfl
  | node name value children rest _ beside =>
    rw [newModules, Forest.roots, List.map_cons, List.map_cons, beside]

/-- The order of the components is lost when modules are made of a level. -/
theorem newModules_sorted (stored : StoredTree) :
    newModules (stored.map StoredModule.sorted) = newModules stored := by
  induction stored with
  | nil => rfl
  | node name value children rest _ beside =>
    have listed : NameSet.ofList value.sorted.components =
        NameSet.ofList value.components :=
      NameSet.ext fun name => by
        rw [NameSet.mem_ofList, NameSet.mem_ofList,
          value.sorts_sorted.mem_components]
    rw [Forest.map, newModules, newModules, beside, listed]
    rfl

/-- Below the path that they were inserted at, all modules of a level are
there. -/
theorem located_insertAll {tree : ModuleTree} {path : List String}
    (located : (level? path tree.toStored).isSome = true)
    {stored : StoredTree} {item : String × StoredModule}
    (member : item ∈ stored.roots) :
    (level? (path ++ [item.1])
      (tree.insertAll path (newModules stored)).1.toStored).isSome = true := by
  obtain ⟨inner, found⟩ := Option.isSome_iff_exists.1 located
  have named : item.1 ∈ (newModules stored).map NewModule.name := by
    rw [names_newModules]
    exact List.mem_map_of_mem member
  rw [toStored_insertAll, level?_changeBelow_self, found, Option.bind_some,
    StoredTree.level?_putAll, if_pos named]
  rfl

end ModuleTree

namespace ModuleTable

/-! ## Parents -/

/-- Put the modules below each module of a level, level by level; none when
a module that they belong below is missing. -/
def restoreBelow? (path : List String) :
    StoredTree → ModuleTable → Option ModuleTable
  | .nil, table => some table
  | .node name _ children rest, table => do
    let here := path ++ [name]
    let table ← match children with
      | .nil => some table
      | .node .. =>
        match table.insertModules here (newModules children) with
        | (_, none) => none
        | (table, some _) => restoreBelow? here children table
    restoreBelow? path rest table

/-- The table with a stored form; none when a parent is missing on the way. -/
def ofStored? (stored : StoredTree) : Option ModuleTable :=
  match empty.insertModules [] (newModules stored) with
  | (_, none) => none
  | (table, some _) => restoreBelow? [] stored table

/-- No parent is missing below a level whose modules are all there. -/
theorem restoreBelow?_eq {table : ModuleTable} {tree : ModuleTree}
    (laid : LaysOut table tree) (sound : tree.Sound) {path : List String}
    {stored : StoredTree}
    (present : ∀ item ∈ stored.roots,
      (level? (path ++ [item.1]) tree.toStored).isSome = true) :
    restoreBelow? path stored table =
      some (restoreBelow path stored table) := by
  induction stored generalizing table tree path with
  | nil => rfl
  | node name value children rest below beside =>
    rw [Forest.roots, List.forall_mem_cons] at present
    obtain ⟨here, others⟩ := present
    cases children with
    | nil => exact beside laid sound others
    | node head headValue headChildren siblings =>
      rw [isSome_level?_toStored] at here
      obtain ⟨inner, located⟩ := Option.isSome_iff_exists.1 here
      rcases laid.insertModules sound located
          (newModules (node head headValue headChildren siblings)) with
        ⟨grown, same, laid', _⟩
      have sound' := sound.insertAll located
        (newModules (node head headValue headChildren siblings))
      have filled := below laid' sound' fun item member =>
        located_insertAll ((tree.isSome_level?_toStored _).trans here) member
      have restored := laid'.restoreBelow sound' (path ++ [name])
        (node head headValue headChildren siblings)
      rw [restoreBelow?, restoreBelow]
      simp only [same, filled]
      refine beside restored.1 restored.2 fun item member => ?_
      -- what was put below one sibling leaves the next one in its place
      have short : (path ++ [item.1]).length ≤ (path ++ [name]).length := by
        simp
      rw [toStored_restoreBelow, isSome_level?_changeBelow _ short,
        toStored_insertAll, isSome_level?_changeBelow _ short]
      exact others item member

theorem ofStored?_eq (stored : StoredTree) :
    ofStored? stored = some (ofStored stored) := by
  have located := level?_root ModuleTree.empty.forest
  rcases LaysOut.empty.insertModules Sound.empty located
      (newModules stored) with ⟨grown, same, laid, _⟩
  rw [ofStored?, ofStored, same]
  exact restoreBelow?_eq laid (Sound.empty.insertAll located _)
    fun item member => located_insertAll (by simp) member

/-! ## Sorted forms -/

theorem restoreBelow_sorted (path : List String) (stored : StoredTree)
    (table : ModuleTable) :
    restoreBelow path (stored.map StoredModule.sorted) table =
      restoreBelow path stored table := by
  induction stored generalizing path table with
  | nil => rfl
  | node name value children rest below beside =>
    cases children with
    | nil => exact beside path table
    | node head headValue headChildren siblings =>
      have inner := newModules_sorted
        (node head headValue headChildren siblings)
      simp only [Forest.map, restoreBelow] at inner below ⊢
      rw [inner]
      split
      · rw [beside]
      · rw [below, beside]

theorem ofStored_sorted (stored : StoredTree) :
    ofStored (stored.map StoredModule.sorted) = ofStored stored := by
  rw [ofStored, newModules_sorted, restoreBelow_sorted, ofStored]

theorem toStored_ofStored {stored : StoredTree} (ordered : stored.Ordered) :
    (ofStored stored).toStored = stored.map StoredModule.sorted := by
  rcases LaysOut.ofStored stored with ⟨laid, sound⟩
  rw [laid.toStored sound, ModuleTree.toStored_ofStored ordered]

/-- Restoring misses no parent.  What is restored stores the form that it was
restored from, with the components of each module in order.  It stores just
that form when this is a form that some table stores, and it is restored again,
slot by slot, from what it stores. -/
theorem ofStored_inverts {stored : StoredTree} (ordered : stored.Ordered) :
    ofStored? stored = some (ofStored stored) ∧
      ((ofStored stored).toStored = stored.map StoredModule.sorted ∧
        ∀ value : StoredModule, value.Sorts value.sorted) ∧
      ((ofStored stored).toStored = stored ↔
        ∃ table, Reached table ∧ table.toStored = stored) ∧
      ofStored (ofStored stored).toStored = ofStored stored := by
  have restored := toStored_ofStored ordered
  refine ⟨ofStored?_eq stored, ⟨restored, StoredModule.sorts_sorted⟩, ?_, ?_⟩
  · constructor
    · intro same
      exact ⟨ofStored stored, .restored stored, same⟩
    · rintro ⟨table, reached, rfl⟩
      exact toStored_ofStored_toStored reached
  · rw [restored, ofStored_sorted]

namespace Sample

/-- Modules with children on two levels, and with components in disorder. -/
def shuffled : StoredTree :=
  .node "a" ⟨"first", ["z", "y", "z"]⟩
    (.node "b" ⟨"", ["y"]⟩ (.node "c" ⟨"", []⟩ .nil .nil)
      (.node "d" ⟨"", ["x", "x"]⟩ (.node "c" ⟨"", ["x"]⟩ .nil .nil) .nil))
    (.node "e" ⟨"", []⟩ (.node "b" ⟨"", ["w", "v"]⟩ .nil .nil) .nil)

end Sample

/-- A form whose components are in disorder is put in order, and no table
stores it. -/
theorem ofStored_inverts_shuffled :
    Sample.shuffled.Ordered ∧
      ofStored? Sample.shuffled = some (ofStored Sample.shuffled) ∧
      (ofStored Sample.shuffled).toStored =
        .node "a" ⟨"first", ["y", "z"]⟩
          (.node "b" ⟨"", ["y"]⟩ (.node "c" ⟨"", []⟩ .nil .nil)
            (.node "d" ⟨"", ["x"]⟩ (.node "c" ⟨"", ["x"]⟩ .nil .nil) .nil))
          (.node "e" ⟨"", []⟩ (.node "b" ⟨"", ["v", "w"]⟩ .nil .nil) .nil) ∧
      ¬ ∃ table, Reached table ∧ table.toStored = Sample.shuffled := by
  have ordered : Sample.shuffled.Ordered := by
    simp only [Sample.shuffled, Forest.Ordered, Forest.roots]
    decide
  obtain ⟨found, ⟨restored, _⟩, exact_iff, _⟩ := ofStored_inverts ordered
  refine ⟨ordered, found, restored.trans (by decide), ?_⟩
  rw [← exact_iff, restored]
  decide

end ModuleTable

end ModuleAtlas
