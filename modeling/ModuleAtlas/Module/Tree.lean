import ModuleAtlas.Keyed.Names
import ModuleAtlas.Module.Stored

/-!
# Module trees

A module tree is a forest of modules, each in a numbered slot that names it
for as long as it is not replaced.  Replacing a module keeps its slot and
frees the slots below it; freed slots are used again before new ones are made,
the one freed last first.  A freed slot remembers the module that it held,
without components and children.
-/

namespace ModuleAtlas

/-- A module in its slot; its name and children are those of its node. -/
structure Module where
  slot : Nat
  description : String
  components : NameSet
deriving DecidableEq

/-- What is stored of a module. -/
def Module.stored (value : Module) : StoredModule :=
  ⟨value.description, value.components.names⟩

/-- A module to be put into a tree. -/
structure NewModule where
  name : String
  description : String
  components : NameSet
deriving DecidableEq

/-- A slot that is free again, with what it remembers. -/
structure FreeSlot where
  slot : Nat
  name : String
  description : String
  above : List String
deriving DecidableEq, Repr

/-- A tree of modules in numbered slots. -/
structure ModuleTree where
  forest : Forest Module
  ordered : forest.Ordered
  /-- The free slots, the next one to be used first. -/
  free : List FreeSlot
  /-- How many slots were ever made; they are numbered from zero. -/
  slots : Nat
deriving DecidableEq

namespace ModuleTree

def empty : ModuleTree := ⟨.nil, trivial, [], 0⟩

instance : Inhabited ModuleTree := ⟨empty⟩

/-- Whether there is no module. -/
def isEmpty (tree : ModuleTree) : Bool := tree.forest.isEmpty

/-- The slot of the module at a path. -/
def find? (tree : ModuleTree) (path : List String) : Option Nat :=
  (tree.forest.find? path).map fun (value, _) => value.slot

/-- Every module, each before its children. -/
def modules (tree : ModuleTree) : List (Forest.Entry Module) :=
  tree.forest.preorder []

def moduleCount (tree : ModuleTree) : Nat := tree.modules.length

def leafModules (tree : ModuleTree) : List (Forest.Entry Module) :=
  tree.modules.filter Forest.Entry.isLeaf

/-- The slots of the top-level modules by name. -/
def roots (tree : ModuleTree) : List (String × Nat) :=
  tree.forest.roots.map fun (name, value) => (name, value.slot)

/-- The paths of all modules, each after its children. -/
def processingOrder (tree : ModuleTree) : List (List String) :=
  (tree.forest.postorder []).map Forest.Entry.path

/-- The module in a slot. -/
def inSlot? (tree : ModuleTree) (slot : Nat) :
    Option (Forest.Entry Module) :=
  tree.modules.find? fun entry => entry.value.slot = slot

/-- What a free slot shows: the remembered module, emptied. -/
def emptied (free : FreeSlot) : Forest.Entry Module :=
  ⟨free.above, free.name, ⟨free.slot, free.description, .empty⟩, .nil⟩

/-- What a slot shows, be it in use or free; none when it was never made. -/
def get? (tree : ModuleTree) (slot : Nat) : Option (Forest.Entry Module) :=
  match tree.inSlot? slot with
  | some entry => some entry
  | none =>
    (tree.free.find? fun free => free.slot = slot).map emptied

/-- Whether a slot shows a module without children. -/
def isLeafModule (tree : ModuleTree) (slot : Nat) : Bool :=
  ((tree.get? slot).map Forest.Entry.isLeaf).getD false

/-- Free the slot of a module. -/
def freed (entry : Forest.Entry Module) : FreeSlot :=
  ⟨entry.value.slot, entry.name, entry.value.description, entry.above⟩

/-- The slots below a module when they are freed, the last one freed first. -/
def freedBelow (path : List String) (children : Forest Module) :
    List FreeSlot :=
  (children.postorder path).map freed

/-- A forest with one more module, in a slot below a path. -/
def place (forest : Forest Module) (path : List String) (added : NewModule)
    (slot : Nat) : Forest Module :=
  forest.changeBelow
    (·.insert added.name ⟨slot, added.description, added.components⟩ .nil)
    path

theorem ordered_place (tree : ModuleTree) (path : List String)
    (added : NewModule) (slot : Nat) :
    (place tree.forest path added slot).Ordered := by
  have leaf : (Forest.nil : Forest Module).Ordered := trivial
  exact tree.ordered.changeBelow (fun _ inner => leaf.insert inner) path _

/-- Put one module below a path that is empty or names a module; answers its
slot. -/
def insertOne (tree : ModuleTree) (path : List String) (added : NewModule) :
    ModuleTree × Nat :=
  match tree.forest.find? (path ++ [added.name]) with
  | some (old, children) =>
    ({ tree with
        forest := place tree.forest path added old.slot
        ordered := tree.ordered_place path added old.slot
        free := freedBelow (path ++ [added.name]) children ++ tree.free },
      old.slot)
  | none =>
    match tree.free with
    | next :: free =>
      ({ tree with
          forest := place tree.forest path added next.slot
          ordered := tree.ordered_place path added next.slot
          free },
        next.slot)
    | [] =>
      ({ tree with
          forest := place tree.forest path added tree.slots
          ordered := tree.ordered_place path added tree.slots
          slots := tree.slots + 1 },
        tree.slots)

/-- Put modules one after another; answers their slots. -/
def insertAll (path : List String) :
    ModuleTree → List NewModule → ModuleTree × List Nat
  | tree, [] => (tree, [])
  | tree, added :: rest =>
    let (tree, slot) := tree.insertOne path added
    let (tree, slots) := insertAll path tree rest
    (tree, slot :: slots)

/-- Put modules below a path; none when the path is not empty and names no
module. -/
def insertModules? (tree : ModuleTree) (path : List String)
    (added : List NewModule) : Option (ModuleTree × List Nat) :=
  if path.isEmpty || (tree.find? path).isSome then
    some (tree.insertAll path added)
  else none

/-- The stored form of a tree. -/
def toStored (tree : ModuleTree) : StoredTree :=
  tree.forest.map Module.stored

/-- The modules of one level, ready to be put into a tree. -/
def newModules : StoredTree → List NewModule
  | .nil => []
  | .node name value _ rest =>
    ⟨name, value.description, .ofList value.components⟩ :: newModules rest

/-- Put the modules below each module of a level, level by level. -/
def restoreBelow (path : List String) :
    StoredTree → ModuleTree → ModuleTree
  | .nil, tree => tree
  | .node name _ children rest, tree =>
    let here := path ++ [name]
    let tree := match children with
      | .nil => tree
      | .node .. =>
        match tree.insertModules? here (newModules children) with
        | none => tree
        | some (tree, _) => restoreBelow here children tree
    restoreBelow path rest tree

/-- The tree with a stored form, all of it in fresh slots. -/
def ofStored (stored : StoredTree) : ModuleTree :=
  restoreBelow [] stored (empty.insertAll [] (newModules stored)).1

/-- The text of a tree. -/
def toText (tree : ModuleTree) : String := tree.toStored.toJson.pretty

/-- Read a tree from its text. -/
def ofText? (text : String) : Option ModuleTree :=
  (StoredTree.ofText? text).map ofStored

end ModuleTree

end ModuleAtlas
