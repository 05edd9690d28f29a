/-!
# Forests of named nodes

A forest is a list of named nodes, each with a value and a forest of children.
Siblings stand in ascending order of their names.  A node is reached by its
path, the names from a root down to it.
-/

namespace ModuleAtlas

universe u v

/-- A forest of named nodes: its first node and the nodes after it. -/
inductive Forest (α : Type u) where
  | nil
  | node (name : String) (value : α) (children : Forest α)
      (rest : Forest α)
deriving DecidableEq, Repr, Inhabited

namespace Forest

variable {α : Type u} {β : Type v}

/-- Whether there is no node. -/
def isEmpty : Forest α → Bool
  | nil => true
  | node .. => false

def size : Forest α → Nat
  | nil => 0
  | node _ _ children rest => children.size + rest.size + 1

/-- The names of the first level, with their values. -/
def roots : Forest α → List (String × α)
  | nil => []
  | node name value _ rest => (name, value) :: rest.roots

/-- Put a node on the first level, in place of the one with its name. -/
def insert (forest : Forest α) (name : String) (value : α)
    (children : Forest α) : Forest α :=
  match forest with
  | nil => node name value children nil
  | node head headValue headChildren rest =>
    if name < head then
      node name value children (node head headValue headChildren rest)
    else if head = name then node name value children rest
    else
      node head headValue headChildren (insert rest name value children)

/-- The node at a path: its value and its children. -/
def find? : List String → Forest α → Option (α × Forest α)
  | [], _ => none
  | _ :: _, nil => none
  | first :: path, node name value children rest =>
    if name = first then
      match path with
      | [] => some (value, children)
      | _ :: _ => find? path children
    else find? (first :: path) rest

/-- Change the children of the node at a path; the empty path stands for the
first level. -/
def changeBelow (change : Forest α → Forest α) :
    List String → Forest α → Forest α
  | [], forest => change forest
  | _ :: _, nil => nil
  | first :: path, node name value children rest =>
    if name = first then
      node name value (changeBelow change path children) rest
    else node name value children (changeBelow change (first :: path) rest)

/-- Change every value, knowing the path of the node's parent and its name. -/
def mapPath (change : List String → String → α → β) (above : List String) :
    Forest α → Forest β
  | nil => nil
  | node name value children rest =>
    node name (change above name value)
      (mapPath change (above ++ [name]) children)
      (mapPath change above rest)

def map (change : α → β) : Forest α → Forest β
  | nil => nil
  | node name value children rest =>
    node name (change value) (map change children) (map change rest)

/-- A node taken out of its forest: the path of its parent, its name, its
value and its children. -/
structure Entry (α : Type u) where
  above : List String
  name : String
  value : α
  children : Forest α
deriving DecidableEq, Repr

namespace Entry

/-- The path of the node itself. -/
def path (entry : Entry α) : List String := entry.above ++ [entry.name]

/-- Whether the node has no children. -/
def isLeaf (entry : Entry α) : Bool := entry.children.isEmpty

end Entry

/-- All nodes, each before its children and siblings in order. -/
def preorder (above : List String) : Forest α → List (Entry α)
  | nil => []
  | node name value children rest =>
    ⟨above, name, value, children⟩
      :: (preorder (above ++ [name]) children ++ preorder above rest)

/-- All nodes, each after its children and siblings in order. -/
def postorder (above : List String) : Forest α → List (Entry α)
  | nil => []
  | node name value children rest =>
    postorder (above ++ [name]) children
      ++ ⟨above, name, value, children⟩ :: postorder above rest

/-- Siblings stand in strictly ascending order of their names, on every
level. -/
def Ordered : Forest α → Prop
  | nil => True
  | node name _ children rest =>
    (∀ sibling ∈ rest.roots, name < sibling.1)
      ∧ children.Ordered ∧ rest.Ordered

theorem mem_roots_insert {name : String} {value : α} {children : Forest α}
    {sibling : String × α} :
    ∀ {forest : Forest α},
      sibling ∈ (forest.insert name value children).roots →
      sibling.1 = name ∨ sibling ∈ forest.roots
  | nil, member => by
    rw [insert, roots, roots, List.mem_singleton] at member
    exact Or.inl (congrArg Prod.fst member)
  | node head headValue headChildren rest, member => by
    unfold insert at member
    split at member
    · exact (List.mem_cons.1 member).imp (congrArg Prod.fst) id
    · split at member
      · refine (List.mem_cons.1 member).imp (congrArg Prod.fst) ?_
        exact List.mem_cons_of_mem _
      · rcases List.mem_cons.1 member with same | inside
        · exact Or.inr (same ▸ List.mem_cons_self)
        · exact (mem_roots_insert inside).imp id (List.mem_cons_of_mem _)

theorem Ordered.insert {name : String} {value : α} {children : Forest α}
    (inner : children.Ordered) :
    ∀ {forest : Forest α}, forest.Ordered →
      (forest.insert name value children).Ordered
  | nil, _ => ⟨fun _ member => absurd member List.not_mem_nil, inner, trivial⟩
  | node head headValue headChildren rest, ordered => by
    obtain ⟨above, headOrdered, restOrdered⟩ := ordered
    unfold Forest.insert
    split
    · next before =>
      refine ⟨fun sibling member => ?_, inner, above, headOrdered,
        restOrdered⟩
      rcases List.mem_cons.1 member with same | inside
      · exact same ▸ before
      · exact String.lt_trans before (above sibling inside)
    · next notBefore =>
      split
      · next same => exact ⟨same ▸ above, inner, restOrdered⟩
      · next different =>
        have after : head < name := by
          refine Std.not_le.1 fun reverse => different ?_
          exact Std.le_antisymm (Std.not_lt.1 notBefore) reverse
        refine ⟨fun sibling member => ?_, headOrdered,
          Ordered.insert inner restOrdered⟩
        rcases mem_roots_insert member with same | inside
        · exact same ▸ after
        · exact above sibling inside

theorem roots_changeBelow (change : Forest α → Forest α) (first : String)
    (path : List String) :
    ∀ forest : Forest α,
      (changeBelow change (first :: path) forest).roots = forest.roots
  | nil => rfl
  | node name value children rest => by
    unfold changeBelow
    split
    · rfl
    · rw [roots, roots, roots_changeBelow change first path rest]

theorem Ordered.changeBelow {change : Forest α → Forest α}
    (keeps : ∀ inner : Forest α, inner.Ordered → (change inner).Ordered) :
    ∀ (path : List String) (forest : Forest α), forest.Ordered →
      (Forest.changeBelow change path forest).Ordered
  | [], forest, ordered => by
    unfold Forest.changeBelow
    exact keeps forest ordered
  | _ :: _, nil, _ => trivial
  | first :: path, node name value children rest, ordered => by
    obtain ⟨above, childrenOrdered, restOrdered⟩ := ordered
    unfold Forest.changeBelow
    split
    · exact ⟨above, childrenOrdered.changeBelow keeps path children,
        restOrdered⟩
    · refine ⟨?_, childrenOrdered,
        restOrdered.changeBelow keeps (first :: path) rest⟩
      rw [roots_changeBelow]
      exact above

end Forest

end ModuleAtlas
