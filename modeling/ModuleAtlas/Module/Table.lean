import ModuleAtlas.Module.Tree

/-!
# Tables of modules

A module tree is kept in a table.  Each module has an entry in a numbered
slot and names its children by their slots, so that a module is read and
changed through its slot without its neighbours.  Freed slots are stacked, and
a new module takes the slot freed last before the table grows.  A module that
replaces another one takes its slot, and frees the slots below it.

Nothing in the type of a table keeps two modules from naming one slot, or a
module from naming a slot above it.  The operations do.
-/

namespace ModuleAtlas

/-- What a slot holds. -/
structure ModuleEntry where
  name : String
  description : String
  /-- The names of the modules above, the root first. -/
  above : List String
  components : NameSet
  /-- The slots of the children. -/
  children : Keyed Nat
deriving DecidableEq

namespace ModuleEntry

/-- The path of the module itself. -/
def path (entry : ModuleEntry) : List String := entry.above ++ [entry.name]

def isLeaf (entry : ModuleEntry) : Bool := entry.children.isEmpty

/-- What is left of a module in a freed slot. -/
def emptied (entry : ModuleEntry) : ModuleEntry :=
  { entry with components := .empty, children := .empty }

def stored (entry : ModuleEntry) : StoredModule :=
  ⟨entry.description, entry.components.names⟩

end ModuleEntry

structure ModuleTable where
  entries : Array ModuleEntry
  /-- The slots of the first level. -/
  roots : Keyed Nat
  /-- The free slots, the one freed last first. -/
  free : List Nat
deriving DecidableEq

namespace ModuleTable

def empty : ModuleTable := ⟨#[], .empty, []⟩

instance : Inhabited ModuleTable := ⟨empty⟩

/-- Whether there is no module. -/
def isEmpty (table : ModuleTable) : Bool := table.roots.isEmpty

/-- What a slot holds; none when it was never made. -/
def get? (table : ModuleTable) (slot : Nat) : Option ModuleEntry :=
  table.entries[slot]?

/-- Follow names down from a slot. -/
def follow? (table : ModuleTable) : Nat → List String → Option Nat
  | slot, [] => some slot
  | slot, name :: path => do
    let entry ← table.get? slot
    let child ← entry.children.find? name
    follow? table child path

/-- The slot of the module at a path. -/
def find? (table : ModuleTable) : List String → Option Nat
  | [] => none
  | first :: path => do
    let slot ← table.roots.find? first
    table.follow? slot path

/-! ## Freeing slots -/

/-- How often the entries name a child. -/
def childCount (entries : Array ModuleEntry) : Nat :=
  entries.toList.foldr (fun entry count => entry.children.size + count) 0

theorem childCount_modify {entries : Array ModuleEntry} {slot : Nat}
    {entry : ModuleEntry} (held : entries[slot]? = some entry) :
    childCount (entries.modify slot ModuleEntry.emptied)
      + entry.children.size = childCount entries := by
  have counted : ∀ (entries : List ModuleEntry) (slot : Nat),
      entries[slot]? = some entry →
      (entries.modify slot ModuleEntry.emptied).foldr
          (fun entry count => entry.children.size + count) 0
        + entry.children.size =
        entries.foldr (fun entry count => entry.children.size + count) 0 := by
    intro entries
    induction entries with
    | nil => simp
    | cons head rest step =>
      intro slot held
      cases slot with
      | zero =>
        rw [List.getElem?_cons_zero, Option.some.injEq] at held
        subst held
        simp [ModuleEntry.emptied, Keyed.empty, Keyed.size, Nat.add_comm]
      | succ slot =>
        rw [List.getElem?_cons_succ] at held
        have := step slot held
        simp only [List.modify_succ_cons, List.foldr_cons]
        omega
  rw [childCount, childCount, Array.toList_modify]
  exact counted entries.toList slot (by rwa [Array.getElem?_toList])

/-- Free the slots of a stack and all slots below them, each time the one on
top of the stack. -/
def releaseAll (entries : Array ModuleEntry) (free : List Nat) :
    List Nat → Array ModuleEntry × List Nat
  | [] => (entries, free)
  | slot :: stack =>
    match _held : entries[slot]? with
    | none => releaseAll entries free stack
    | some entry =>
      releaseAll (entries.modify slot ModuleEntry.emptied) (slot :: free)
        (entry.children.values.reverse ++ stack)
termination_by stack => childCount entries + stack.length
decreasing_by
  · simp
  · have fewer := childCount_modify _held
    have size : entry.children.values.length = entry.children.size := by
      simp [Keyed.values, Keyed.size]
    simp only [List.length_append, List.length_reverse, List.length_cons]
    omega

/-- Free every slot below a module. -/
def releaseBelow (table : ModuleTable) (slot : Nat) : ModuleTable :=
  match table.get? slot with
  | none => table
  | some entry =>
    let (entries, free) := releaseAll table.entries table.free
      entry.children.values.reverse
    { table with entries, free }

/-! ## Putting modules into a table -/

/-- Put an entry into a slot. -/
def put (table : ModuleTable) (slot : Nat) (entry : ModuleEntry) :
    ModuleTable :=
  { table with entries := table.entries.setIfInBounds slot entry }

/-- Put an entry into a free slot, or into a new one when no slot is free. -/
def allocate (table : ModuleTable) (entry : ModuleEntry) :
    ModuleTable × Nat :=
  match table.free with
  | slot :: free => ({ table with free }.put slot entry, slot)
  | [] =>
    ({ table with entries := table.entries.push entry }, table.entries.size)

/-- Put an entry into a slot that a module leaves with all that is below it,
or into one that is not in use; answers the slot. -/
def placeEntry (table : ModuleTable) (taken : Option Nat)
    (entry : ModuleEntry) : ModuleTable × Nat :=
  match taken with
  | some slot => ((table.releaseBelow slot).put slot entry, slot)
  | none => table.allocate entry

/-- The slots of the modules below a parent, or of the first level. -/
def level (table : ModuleTable) : Option Nat → Keyed Nat
  | none => table.roots
  | some parent =>
    match table.get? parent with
    | none => .empty
    | some entry => entry.children

/-- Name a slot on the level below a parent, or on the first level. -/
def setChild (table : ModuleTable) (parent : Option Nat) (name : String)
    (slot : Nat) : ModuleTable :=
  match parent with
  | none => { table with roots := table.roots.insert name slot }
  | some parent =>
    { table with entries := table.entries.modify parent fun entry =>
        { entry with children := entry.children.insert name slot } }

/-- Put a module below a parent, whose path is known; answers its slot. -/
def insertOne (table : ModuleTable) (parent : Option Nat)
    (path : List String) (added : NewModule) : ModuleTable × Nat :=
  let entry := ⟨added.name, added.description, path, added.components, .empty⟩
  let (table, slot) :=
    table.placeEntry ((table.level parent).find? added.name) entry
  (table.setChild parent added.name slot, slot)

/-- Put modules one after another; answers their slots. -/
def insertAll (parent : Option Nat) (path : List String) :
    ModuleTable → List NewModule → ModuleTable × List Nat
  | table, [] => (table, [])
  | table, added :: rest =>
    let (table, slot) := table.insertOne parent path added
    let (table, slots) := insertAll parent path table rest
    (table, slot :: slots)

/-- Put modules below a path; answers their slots, or none when the path is
not empty and names no module. -/
def insertModules (table : ModuleTable) (path : List String)
    (added : List NewModule) : ModuleTable × Option (List Nat) :=
  match path with
  | [] =>
    let (table, slots) := insertAll none [] table added
    (table, some slots)
  | _ :: _ =>
    match table.find? path with
    | none => (table, none)
    | some parent =>
      let (table, slots) := insertAll (some parent) path table added
      (table, some slots)

/-! ## Reading a table

A walk from the first level takes no more steps than there are slots, because
it meets no slot twice. -/

/-- The slots on a stack and below it, each before those below it. -/
def walk (table : ModuleTable) : Nat → List Nat → List Nat
  | 0, _ => []
  | _, [] => []
  | steps + 1, slot :: stack =>
    match table.get? slot with
    | none => walk table steps stack
    | some entry => slot :: walk table steps (entry.children.values ++ stack)

/-- The slots in use, each before those below it. -/
def slotsInUse (table : ModuleTable) : List Nat :=
  table.walk table.entries.size table.roots.values

def moduleCount (table : ModuleTable) : Nat := table.slotsInUse.length

/-- Whether a slot holds a module without children. -/
def isLeafModule (table : ModuleTable) (slot : Nat) : Bool :=
  ((table.get? slot).map ModuleEntry.isLeaf).getD false

/-- The slots of the modules without children. -/
def leafModules (table : ModuleTable) : List Nat :=
  table.slotsInUse.filter table.isLeafModule

/-- The paths of the modules in some slots and below them, each after those
below it, to a depth. -/
def pathsAfter (table : ModuleTable) : Nat → List Nat → List (List String)
  | 0, _ => []
  | _, [] => []
  | depth + 1, slot :: rest =>
    match table.get? slot with
    | none => pathsAfter table depth rest
    | some entry =>
      pathsAfter table depth entry.children.values
        ++ entry.path :: pathsAfter table depth rest

/-- The paths of all modules, each after its children. -/
def processingOrder (table : ModuleTable) : List (List String) :=
  table.pathsAfter table.entries.size table.roots.values

/-- The stored form of one level and what is below it, to a depth. -/
def storedLevel (table : ModuleTable) : Nat → List (String × Nat) → StoredTree
  | 0, _ => .nil
  | _, [] => .nil
  | depth + 1, (name, slot) :: rest =>
    match table.get? slot with
    | none => storedLevel table depth rest
    | some entry =>
      .node name entry.stored (storedLevel table depth entry.children.entries)
        (storedLevel table depth rest)

/-- The stored form of a table. -/
def toStored (table : ModuleTable) : StoredTree :=
  table.storedLevel table.entries.size table.roots.entries

/-- Put the modules below each module of a level, level by level. -/
def restoreBelow (path : List String) :
    StoredTree → ModuleTable → ModuleTable
  | .nil, table => table
  | .node name _ children rest, table =>
    let here := path ++ [name]
    let table := match children with
      | .nil => table
      | .node .. =>
        match table.insertModules here (ModuleTree.newModules children) with
        | (table, none) => table
        | (table, some _) => restoreBelow here children table
    restoreBelow path rest table

/-- The table with a stored form, all of it in fresh slots. -/
def ofStored (stored : StoredTree) : ModuleTable :=
  restoreBelow [] stored
    (empty.insertModules [] (ModuleTree.newModules stored)).1

/-- The text of a table. -/
def toText (table : ModuleTable) : String := table.toStored.toJson.pretty

/-- Read a table from its text. -/
def ofText? (text : String) : Option ModuleTable :=
  (StoredTree.ofText? text).map ofStored

end ModuleTable

end ModuleAtlas
