import ModuleAtlas.Text.Search

/-!
# Paths

A path is a text of segments between slashes.  Segments that are empty or a
single point stand for the place where they occur.
-/

namespace ModuleAtlas.Path

/-- The segments of a path. -/
def segments (path : String) : List String :=
  (Text.pieces '/' path.toList).map String.ofList

/-- Whether a path starts at the root of all files. -/
def isAbsolute (path : String) : Bool := path.toList.head? = some '/'

/-- Whether a segment stands for the place where it occurs. -/
def isIdle (segment : String) : Bool := segment = "" || segment = "."

/-- The most bytes that the name of a file or directory may take. -/
def maxNameSize : Nat := 255

/-- The most bytes that a path may take. -/
def maxSize : Nat := 4095

/-- Whether a path can be asked for: it holds no NUL and is not too long. -/
def isUsable (path : String) : Bool :=
  !path.toList.contains (Char.ofNat 0) && path.utf8ByteSize ≤ maxSize

/-- Whether a segment can be the name of a file or directory. -/
def isName (segment : String) : Bool :=
  !isIdle segment && segment ≠ ".." && segment.utf8ByteSize ≤ maxNameSize

/-- A path below another one; an absolute path stays as it is. -/
def join (base path : String) : String :=
  if isAbsolute path || base = "" then path
  else if base.toList.getLast? = some '/' then base ++ path
  else base ++ "/" ++ path

/-- The segments of a path without the idle ones at its end. -/
def trimmedSegments (path : String) : List String :=
  ((segments path).reverse.dropWhile isIdle).reverse

/-- The path of the directory that holds a path; empty at the end of a
relative path. -/
def parent (path : String) : String :=
  let above := (trimmedSegments path).dropLast
  let kept := (above.reverse.dropWhile isIdle).reverse
  if kept = [] && isAbsolute path then "/" else "/".intercalate kept

/-- The last segment of a path; none when it leads upwards or nowhere. -/
def fileName? (path : String) : Option String :=
  match (trimmedSegments path).getLast? with
  | some name => if name = ".." then none else some name
  | none => none

/-- A file name without its last extension.  A point at the beginning does not
start an extension. -/
def stem (name : String) : String :=
  match name.toList.reverse.dropWhile (· ≠ '.') with
  | [] | [_] => name
  | _ :: front => String.ofList front.reverse

end ModuleAtlas.Path
