import ModuleAtlas.Proofs.Module.Tree

/-!
# Restoring a module tree

A tree is restored level by level: the modules of a level are inserted before
those below them, so that no module is replaced on the way.  What is restored
is the stored form with the components of each module in order.  Nothing is
assumed of the slots, and of the stored form no more than that siblings stand
in ascending order.
-/

namespace ModuleAtlas

universe u v w

namespace Forest

variable {α : Type u} {β : Type v} {γ : Type w}

/-! ## Siblings behind siblings -/

/-- The nodes of one level and then those of another. -/
def append : Forest α → Forest α → Forest α
  | nil, level => level
  | node name value children rest, level =>
    node name value children (rest.append level)

/-- The nodes of a level without their children. -/
def shallow : Forest α → Forest α
  | nil => nil
  | node name value _ rest => node name value nil rest.shallow

@[simp]
theorem nil_append (level : Forest α) : nil.append level = level := rfl

@[simp]
theorem append_nil (level : Forest α) : level.append nil = level := by
  induction level with
  | nil => rfl
  | node name value children rest _ beside => rw [append, beside]

theorem append_assoc (first second third : Forest α) :
    (first.append second).append third =
      first.append (second.append third) := by
  induction first with
  | nil => rfl
  | node name value children rest _ beside =>
    rw [append, append, append, beside]

@[simp]
theorem roots_append (first second : Forest α) :
    (first.append second).roots = first.roots ++ second.roots := by
  induction first with
  | nil => rfl
  | node name value children rest _ beside =>
    rw [append, roots, roots, beside, List.cons_append]

/-- Every name of a level comes before every name of another. -/
def Precedes (first : Forest α) (second : Forest β) : Prop :=
  ∀ former ∈ first.roots, ∀ later ∈ second.roots, former.1 < later.1

theorem nil_precedes (level : Forest β) : (nil : Forest α).Precedes level :=
  fun _ member => absurd member List.not_mem_nil

section Precedes

variable {done : Forest α} {name : String} {value : β}
  {children rest : Forest β}

/-- The first node of a level may be moved to the level before it. -/
theorem Precedes.next
    (precedes : done.Precedes (node name value children rest))
    (ordered : (node name value children rest).Ordered) (item : α)
    (below : Forest α) :
    (done.append (node name item below nil)).Precedes rest := by
  intro former member later behind
  rw [roots_append, List.mem_append] at member
  rcases member with old | new
  · exact precedes former old later (List.mem_cons_of_mem _ behind)
  · obtain rfl := List.mem_singleton.1 new
    exact ordered.1 later behind

/-- A node with a name behind all others is put last. -/
theorem Precedes.insert
    (precedes : done.Precedes (node name value children rest)) (item : α)
    (below : Forest α) :
    done.insert name item below = done.append (node name item below nil) := by
  have last : ∀ former ∈ done.roots, former.1 < name :=
    fun former member => precedes former member (name, value)
      List.mem_cons_self
  clear precedes
  induction done with
  | nil => rfl
  | node head headValue headChildren others _ beside =>
    have after : head < name := last (head, headValue) List.mem_cons_self
    rw [Forest.insert, if_neg (Std.not_lt.2 (Std.le_of_lt after)),
      if_neg (String.ne_of_lt after), append,
      beside fun former member => last former (List.mem_cons_of_mem _ member)]

/-- A change below a name behind all others. -/
theorem Precedes.changeBelow
    (precedes : done.Precedes (node name value children rest))
    (change : Forest α → Forest α) (item : α) (below behind : Forest α) :
    changeBelow change [name] (done.append (node name item below behind)) =
      done.append (node name item (change below) behind) := by
  have last : ∀ former ∈ done.roots, former.1 < name :=
    fun former member => precedes former member (name, value)
      List.mem_cons_self
  clear precedes
  induction done with
  | nil => simp [changeBelow_node]
  | node head headValue headChildren others _ beside =>
    have after : head < name := last (head, headValue) List.mem_cons_self
    rw [append, changeBelow_node, if_neg (String.ne_of_lt after), append,
      beside fun former member => last former (List.mem_cons_of_mem _ member)]

end Precedes

theorem map_map (earlier : α → β) (later : β → γ) (forest : Forest α) :
    (forest.map earlier).map later = forest.map (later ∘ earlier) := by
  induction forest with
  | nil => rfl
  | node name value children rest below beside =>
    rw [map, map, map, below, beside]
    rfl

end Forest

open Forest

/-- A stored module with its components in ascending order, each of them
once. -/
def StoredModule.sorted (value : StoredModule) : StoredModule :=
  ⟨value.description, (NameSet.ofList value.components).names⟩

namespace StoredTree

/-! ## Filling a level -/

/-- Put what is below the modules of a level onto another one, level by
level. -/
def fill : StoredTree → StoredTree → StoredTree
  | .nil, level => level
  | .node name _ children rest, level =>
    fill rest (changeBelow (fun inner =>
      fill children (putAll (ModuleTree.newModules children) inner))
      [name] level)

/-- The modules of a level are put behind those before them. -/
theorem putAll_newModules {todo done : StoredTree} (ordered : todo.Ordered)
    (precedes : done.Precedes todo) :
    putAll (ModuleTree.newModules todo) done =
      done.append (todo.map StoredModule.sorted).shallow := by
  induction todo generalizing done with
  | nil => exact (append_nil done).symm
  | node name value children rest _ beside =>
    rw [ModuleTree.newModules, putAll, List.foldl_cons, ← putAll]
    show putAll (ModuleTree.newModules rest)
      (done.insert name value.sorted .nil) = _
    rw [precedes.insert, beside ordered.2.2 (precedes.next ordered _ _),
      append_assoc]
    rfl

/-- A level with its modules in place is filled with what is below them. -/
theorem fill_shallow {todo done : StoredTree} (ordered : todo.Ordered)
    (precedes : done.Precedes todo) :
    fill todo (done.append (todo.map StoredModule.sorted).shallow) =
      done.append (todo.map StoredModule.sorted) := by
  induction todo generalizing done with
  | nil => rfl
  | node name value children rest below beside =>
    have inner : fill children (putAll (ModuleTree.newModules children) .nil) =
        children.map StoredModule.sorted := by
      rw [putAll_newModules ordered.2.1 (nil_precedes _)]
      exact below ordered.2.1 (nil_precedes _)
    have others := beside ordered.2.2
      (precedes.next ordered value.sorted (children.map StoredModule.sorted))
    rw [append_assoc, append_assoc] at others
    rw [fill, Forest.map, shallow, precedes.changeBelow, inner]
    exact others

end StoredTree

open StoredTree

namespace ModuleTree

/-- Restoring fills the level below a path, when there is one. -/
theorem toStored_restoreBelow (path : List String) (stored : StoredTree)
    (tree : ModuleTree) :
    (restoreBelow path stored tree).toStored =
      changeBelow (fill stored) path tree.toStored := by
  induction stored generalizing path tree with
  | nil => exact (changeBelow_id path tree.toStored).symm
  | node name value children rest below beside =>
    have inner : ∀ grown : ModuleTree,
        grown.toStored = changeBelow (fun level =>
          fill children (putAll (newModules children) level))
          (path ++ [name]) tree.toStored →
        (restoreBelow path rest grown).toStored =
          changeBelow (fill (.node name value children rest)) path
            tree.toStored := by
      intro grown filled
      rw [beside, filled, changeBelow_append, changeBelow_changeBelow]
      rfl
    cases children with
    | nil => exact inner tree (changeBelow_id _ tree.toStored).symm
    | node head item inside others =>
      apply inner
      cases inserted : tree.insertModules? (path ++ [name])
          (newModules (.node head item inside others)) with
      | none =>
        have lost : level? (path ++ [name]) tree.toStored = none := by
          rw [← Option.not_isSome_iff_eq_none, ← insertModules?_isSome,
            inserted]
          simp
        rw [changeBelow_of_lost _ lost]
      | some grown =>
        rw [← changeBelow_changeBelow, ← toStored_insertModules? inserted,
          ← below]

/-- Siblings in order are restored as they were stored, but for the order of
the components. -/
theorem toStored_ofStored {stored : StoredTree} (ordered : stored.Ordered) :
    (ofStored stored).toStored = stored.map StoredModule.sorted := by
  have apart := nil_precedes (α := StoredModule) stored
  rw [ofStored, toStored_restoreBelow, toStored_insertAll, changeBelow_root,
    changeBelow_root]
  show fill stored (putAll (newModules stored) .nil) = _
  rw [putAll_newModules ordered apart, fill_shallow ordered apart]
  rfl

/-- In the stored form of a tree the components are in order. -/
theorem map_sorted_toStored (tree : ModuleTree) :
    tree.toStored.map StoredModule.sorted = tree.toStored := by
  have same : StoredModule.sorted ∘ Module.stored = Module.stored := by
    funext value
    have listed : NameSet.ofList value.components.names = value.components :=
      NameSet.ext fun name => NameSet.mem_ofList
    simp [StoredModule.sorted, Module.stored, listed]
  rw [toStored, map_map, same]

/-- What is restored from the stored form of a tree has that stored form. -/
theorem toStored_ofStored_toStored (tree : ModuleTree) :
    (ofStored tree.toStored).toStored = tree.toStored := by
  rw [toStored_ofStored tree.toStored_ordered, map_sorted_toStored]

end ModuleTree

end ModuleAtlas
