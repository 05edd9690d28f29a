import ModuleAtlas.Files.Path
import ModuleAtlas.Module.Forest

/-!
# Files

Programs reach files through `MonadFiles`.  A `FileTree` is a working
directory held in memory; it answers like a directory that nobody else
changes.  Relative paths do not leave it.  Absolute paths start at an entry of
the tree that stands for the root of all files, where there is one.
-/

namespace ModuleAtlas

/-- What comes of making one directory. -/
inductive MakeOutcome where
  /-- The directory is there, made now or before. -/
  | there
  /-- The directory that is to hold it is missing. -/
  | homeless
  | refused
deriving DecidableEq, Repr

/-- A place with files, named by paths. -/
class MonadFiles (m : Type → Type) where
  /-- The text of a file; none when there is no file that holds a text. -/
  readText : String → m (Option String)
  /-- Write a file; answers whether that was possible. -/
  writeText : String → String → m Bool
  /-- Make a directory in one that is there. -/
  makeDirectory : String → m MakeOutcome
  /-- Whether there is a file or directory. -/
  isPresent : String → m Bool

namespace MonadFiles

instance {m : Type → Type} {ε : Type} [Monad m] [MonadFiles m] :
    MonadFiles (ExceptT ε m) where
  readText path := ExceptT.lift (readText path)
  writeText path text := ExceptT.lift (writeText path text)
  makeDirectory path := ExceptT.lift (makeDirectory path)
  isPresent path := ExceptT.lift (isPresent path)

variable {m : Type → Type} [Monad m] [MonadFiles m]

/-- Make a directory after those above it, at most so many of them.  A path
that ends in a point asks for a place inside a directory, and that directory
is not made. -/
def makeWithin : Nat → String → m Bool
  | 0, _ => return false
  | levels + 1, path => do
    if path = "" then return true
    match ← makeDirectory path with
    | .there => return true
    | .refused => return false
    | .homeless =>
      if ← makeWithin levels (Path.parent path) then
        return (← makeDirectory path) = .there
      else return false

/-- Make a directory and those above it; answers whether it is there. -/
def makeDirectories (path : String) : m Bool :=
  makeWithin (path.length + 1) path

end MonadFiles

/-- An entry of a directory. -/
inductive FileNode where
  | directory
  | text (content : String)
  /-- A file whose bytes are not a text. -/
  | binary
deriving DecidableEq, Repr

/-- A working directory, and the root of all files beside it. -/
abbrev FileTree := Forest FileNode

namespace FileTree

/-- The name of the entry that stands for the root of all files.  No segment of
a path has this name. -/
def rootName : String := "/"

/-- The place that a path starts at. -/
def startOf (path : String) : List String :=
  if Path.isAbsolute path then [rootName] else []

/-- Whether there is a directory at a place. -/
def isDirectory (tree : FileTree) (place : List String) : Bool :=
  place.isEmpty ||
    match tree.find? place with
    | some (.directory, _) => true
    | _ => false

/-- Why a path leads nowhere. -/
inductive Obstacle where
  /-- A segment names nothing. -/
  | missing
  /-- A segment cannot be followed at all. -/
  | blocked
deriving DecidableEq, Repr

/-- Follow one segment from a place. -/
def follow (tree : FileTree) (place : List String) (segment : String) :
    Except Obstacle (List String) :=
  if !tree.isDirectory place then .error .blocked
  else if Path.isIdle segment then .ok place
  else if segment = ".." then
    if place.isEmpty then .error .blocked
    else if place = [rootName] then .ok place
    else .ok place.dropLast
  else if !Path.isName segment then .error .blocked
  else
    let next := place ++ [segment]
    if (tree.find? next).isSome then .ok next else .error .missing

/-- Follow segments one after another. -/
def followAll (tree : FileTree) (place : List String)
    (segments : List String) : Except Obstacle (List String) :=
  segments.foldlM tree.follow place

/-- Whether a path can lead anywhere. -/
def canLead (path : String) : Bool := path ≠ "" && Path.isUsable path

/-- The place that a path leads to. -/
def locate? (tree : FileTree) (path : String) : Option (List String) :=
  if canLead path then
    (tree.followAll (startOf path) (Path.segments path)).toOption
  else none

/-- The text of a file. -/
def readText (tree : FileTree) (path : String) : Option String :=
  (tree.locate? path).bind fun place =>
    match tree.find? place with
    | some (.text content, _) => some content
    | _ => none

/-- Put an entry into a directory. -/
def putBelow (tree : FileTree) (place : List String) (name : String)
    (entry : FileNode) : FileTree :=
  tree.changeBelow (fun level => level.insert name entry .nil) place

/-- Write a file into an existing directory. -/
def write? (tree : FileTree) (path : String) (content : FileNode) :
    Option FileTree := do
  guard (canLead path)
  let segments := Path.segments path
  let name ← segments.getLast?
  let place ← (tree.followAll (startOf path) segments.dropLast).toOption
  if Path.isName name && tree.isDirectory place
      && !tree.isDirectory (place ++ [name]) then
    some (tree.putBelow place name content)
  else none

/-- Make a directory in one that is there. -/
def makeDirectory (tree : FileTree) (path : String) :
    FileTree × MakeOutcome :=
  if !canLead path then (tree, .refused)
  else
    let segments := ((Path.segments path).reverse.dropWhile (· = "")).reverse
    let walk := do
      let place ← tree.followAll (startOf path) segments.dropLast
      let name := segments.getLast?.getD ""
      if tree.isDirectory place then Except.ok (place, name)
      else .error .blocked
    match walk with
    | .error .missing => (tree, .homeless)
    | .error .blocked => (tree, .refused)
    | .ok (place, name) =>
      match tree.follow place name with
      | .ok inside =>
        (tree, if tree.isDirectory inside then .there else .refused)
      | .error .blocked => (tree, .refused)
      | .error .missing => (tree.putBelow place name .directory, .there)

/-- A path that leads to a place. -/
def pathText : List String → String
  | [] => "."
  | name :: names =>
    if name = rootName then rootName ++ "/".intercalate names
    else "/".intercalate (name :: names)

/-- All files with their paths, in order. -/
def files (tree : FileTree) : List (String × FileNode) :=
  (tree.preorder []).filterMap fun entry =>
    match entry.value with
    | .directory => none
    | content => some (pathText entry.path, content)

instance : MonadFiles (StateM FileTree) where
  readText path := return (← get).readText path
  writeText path content := do
    match (← get).write? path (.text content) with
    | some tree => set tree; return true
    | none => return false
  makeDirectory path := modifyGet fun tree =>
    let (tree, outcome) := tree.makeDirectory path
    (outcome, tree)
  isPresent path := return ((← get).locate? path).isSome

/-- Make a directory and those above it. -/
def makeDirectories (tree : FileTree) (path : String) : FileTree :=
  ((MonadFiles.makeDirectories path : StateM FileTree Bool).run tree).2

end FileTree

end ModuleAtlas
