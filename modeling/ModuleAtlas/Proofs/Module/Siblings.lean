import ModuleAtlas.Proofs.Module.Tree

/-!
# Modules without siblings

A module tree should have no module that is alone on its level.  Inserting
modules below one location keeps it so when they have at least two names;
modules with one name leave a single module on an empty level.
-/

namespace ModuleAtlas

universe u v

namespace Forest

open StoredTree

variable {α : Type u} {β : Type v}

/-- No level below the first has exactly one node. -/
def Branching : Forest α → Prop
  | nil => True
  | node _ _ children rest =>
    children.roots.length ≠ 1 ∧ children.Branching ∧ rest.Branching

/-- No level has exactly one node. -/
structure NoneAlone (forest : Forest α) : Prop where
  top : forest.roots.length ≠ 1
  below : forest.Branching

theorem branching_iff_preorder (above : List String) (forest : Forest α) :
    forest.Branching ↔ ∀ entry ∈ preorder above forest,
      entry.children.roots.length ≠ 1 := by
  induction forest generalizing above with
  | nil => simp [Branching, preorder]
  | node name value children rest below beside =>
    rw [Branching, below (above ++ [name]), beside above, preorder]
    simp only [List.forall_mem_cons, List.forall_mem_append]

theorem branching_map (change : α → β) (forest : Forest α) :
    (forest.map change).Branching ↔ forest.Branching := by
  induction forest with
  | nil => rfl
  | node name value children rest below beside =>
    rw [map, Branching, Branching, below, beside, roots_map, List.length_map]

theorem Branching.insert {forest : Forest α} (branching : forest.Branching)
    (name : String) (value : α) :
    (forest.insert name value nil).Branching := by
  induction forest with
  | nil => exact ⟨by simp [roots], trivial, trivial⟩
  | node head headValue headChildren rest _ beside =>
    unfold Forest.insert
    split
    · exact ⟨by simp [roots], trivial, branching⟩
    · split
      · exact ⟨by simp [roots], trivial, branching.2.2⟩
      · exact ⟨branching.1, branching.2.1, beside branching.2.2⟩

theorem Branching.changeBelow {change : Forest α → Forest α}
    (keeps : ∀ level : Forest α, level.NoneAlone → (change level).NoneAlone)
    {first : String} {path : List String} {forest : Forest α}
    (branching : forest.Branching) :
    (Forest.changeBelow change (first :: path) forest).Branching := by
  induction forest generalizing first path with
  | nil => trivial
  | node name value children rest below beside =>
    rcases branching with ⟨plural, inner, others⟩
    rw [changeBelow_node]
    split
    · cases path with
      | nil =>
        rw [changeBelow_root]
        have kept := keeps children ⟨plural, inner⟩
        exact ⟨kept.top, kept.below, others⟩
      | cons next path =>
        refine ⟨?_, below inner, others⟩
        rw [roots_changeBelow]
        exact plural
    · exact ⟨plural, inner, beside others⟩

theorem NoneAlone.changeBelow {change : Forest α → Forest α}
    (keeps : ∀ level : Forest α, level.NoneAlone → (change level).NoneAlone)
    (path : List String) {forest : Forest α} (fine : forest.NoneAlone) :
    (Forest.changeBelow change path forest).NoneAlone := by
  cases path with
  | nil =>
    rw [changeBelow_root]
    exact keeps forest fine
  | cons first path =>
    refine ⟨?_, fine.below.changeBelow keeps⟩
    rw [roots_changeBelow]
    exact fine.top

theorem mem_names_insert (forest : Forest α) (name : String) (value : α)
    (other : String) :
    other ∈ (forest.insert name value nil).roots.map Prod.fst ↔
      other = name ∨ other ∈ forest.roots.map Prod.fst := by
  induction forest with
  | nil => simp [insert, roots]
  | node head headValue headChildren rest _ beside =>
    unfold insert
    split
    · simp [roots]
    · split
      · next same => simp [roots, same]
      · simp only [roots, List.map_cons, List.mem_cons, beside]
        tauto

end Forest

namespace StoredTree

open Forest

theorem mem_names_putAll (added : List NewModule) (level : StoredTree)
    (name : String) :
    name ∈ (putAll added level).roots.map Prod.fst ↔
      name ∈ added.map NewModule.name ∨
        name ∈ level.roots.map Prod.fst := by
  induction added generalizing level with
  | nil => simp [putAll]
  | cons next rest step =>
    rw [putAll, List.foldl_cons, ← putAll, step, mem_names_insert,
      List.map_cons, List.mem_cons]
    tauto

theorem branching_putAll (added : List NewModule) {level : StoredTree}
    (branching : level.Branching) : (putAll added level).Branching := by
  induction added generalizing level with
  | nil => exact branching
  | cons next rest step => exact step (branching.insert next.name _)

/-- New modules with two names are not alone on their level. -/
theorem noneAlone_putAll {added : List NewModule} {left right : NewModule}
    (member : left ∈ added) (member' : right ∈ added)
    (different : left.name ≠ right.name) {level : StoredTree}
    (fine : level.NoneAlone) : (putAll added level).NoneAlone := by
  refine ⟨?_, branching_putAll added fine.below⟩
  intro single
  rw [← List.length_map Prod.fst] at single
  rcases List.length_eq_one_iff.1 single with ⟨name, only⟩
  have same : ∀ next ∈ added, next.name = name := by
    intro next among
    have there := (mem_names_putAll added level next.name).2
      (Or.inl (List.mem_map_of_mem among))
    rw [only] at there
    exact List.mem_singleton.1 there
  exact different ((same left member).trans (same right member').symm)

/-- New modules with one name leave one module on an empty level. -/
theorem names_putAll_collapsed {added : List NewModule} {name : String}
    (filled : added ≠ []) (same : ∀ next ∈ added, next.name = name) :
    (putAll added .nil).roots.map Prod.fst = [name] := by
  have held : ∀ (added : List NewModule) (value : StoredModule),
      (∀ next ∈ added, next.name = name) →
      (putAll added (.node name value .nil .nil)).roots.map Prod.fst =
        [name] := by
    intro added
    induction added with
    | nil => intro value _; rfl
    | cons next rest step =>
      intro value same
      have equal := same next List.mem_cons_self
      rw [putAll, List.foldl_cons, ← putAll, Forest.insert, equal,
        if_neg Std.lt_irrefl, if_pos rfl]
      apply step
      intro other member
      exact same other (List.mem_cons_of_mem _ member)
  cases added with
  | nil => exact absurd rfl filled
  | cons next rest =>
    rw [putAll, List.foldl_cons, ← putAll, Forest.insert,
      same next List.mem_cons_self]
    apply held
    intro other member
    exact same other (List.mem_cons_of_mem _ member)

end StoredTree

namespace ModuleTree

open Forest

/-- There is no root module or there are at least two, and every module has
no children or at least two. -/
def NoneAlone (tree : ModuleTree) : Prop :=
  (tree.roots = [] ∨ 2 ≤ tree.roots.length) ∧
    ∀ entry ∈ tree.modules,
      entry.isLeaf = true ∨ 2 ≤ entry.children.roots.length

theorem noneAlone_iff_toStored (tree : ModuleTree) :
    tree.NoneAlone ↔ tree.toStored.NoneAlone := by
  have counted : ∀ forest : Forest Module,
      forest.isEmpty = true ∨ 2 ≤ forest.roots.length ↔
        forest.roots.length ≠ 1 := by
    intro forest
    cases forest with
    | nil => simp [Forest.roots, Forest.isEmpty]
    | node name value children rest =>
      rw [Forest.roots, List.length_cons, Forest.isEmpty]
      simp only [Bool.false_eq_true, false_or]
      omega
  have top : (tree.roots = [] ∨ 2 ≤ tree.roots.length) ↔
      tree.forest.roots.length ≠ 1 := by
    rw [roots, List.map_eq_nil_iff, List.length_map,
      ← List.length_eq_zero_iff]
    omega
  rw [NoneAlone, top]
  constructor
  · rintro ⟨plural, inner⟩
    constructor
    · rw [toStored, roots_map, List.length_map]
      exact plural
    · rw [toStored, branching_map, branching_iff_preorder []]
      intro entry member
      exact (counted entry.children).1 (inner entry member)
  · rintro ⟨plural, inner⟩
    rw [toStored, roots_map, List.length_map] at plural
    rw [toStored, branching_map, branching_iff_preorder []] at inner
    refine ⟨plural, ?_⟩
    intro entry member
    exact (counted entry.children).2 (inner entry member)

end ModuleTree

end ModuleAtlas
