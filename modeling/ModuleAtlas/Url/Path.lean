import ModuleAtlas.Text.Search
import ModuleAtlas.Url.Escape

/-!
# Paths of URLs

The segments of a path are followed: a single point stays where it is, and two
points lead back by one segment, though never beyond a drive.
-/

namespace ModuleAtlas.Url

/-- A segment with its escaped points as points. -/
def plainSegment (segment : List Char) : String :=
  ((String.ofList segment).toLower.replace "%2e" ".")

/-- Whether a segment names a drive. -/
def isDrive : List Char → Bool
  | [letter, mark] => letter.isAlpha && (mark = ':' || mark = '|')
  | _ => false

/-- Whether a segment cannot be left by two points: it names a drive, perhaps
with something behind a backslash. -/
def isHeld (segment : List Char) : Bool :=
  isDrive (segment.takeWhile (· ≠ '\\'))

/-- Go back by one segment; the latest segment comes first. -/
def goBack : List (List Char) → List (List Char)
  | [] => []
  | last :: others => if isHeld last then last :: others else others

/-- Follow the segments of a path; the first argument holds those followed so
far, the latest first. -/
def followSegments :
    List (List Char) → List (List Char) → List (List Char)
  | followed, [] => followed.reverse
  | followed, segment :: rest =>
    let stay := fun followed : List (List Char) =>
      if rest.isEmpty then [] :: followed else followed
    let plain := plainSegment segment
    if plain = ".." then followSegments (stay (goBack followed)) rest
    else if plain = "." then followSegments (stay followed) rest
    else followSegments (segment :: followed) rest

/-- The segments of the normal form of a path, which is given without the
slash at its root. -/
def normalSegments (path : List Char) : List (List Char) :=
  followSegments [] (Text.pieces '/' (escape pathMarks path))

/-- The path with some segments. -/
def pathText (segments : List (List Char)) : String :=
  String.ofList ('/' :: Text.rejoin '/' segments)

/-! ## Paths of local files -/

/-- The usual spelling of a drive. -/
def plainDrive (segment : List Char) : List Char :=
  if isDrive segment then segment.take 1 ++ [':'] else segment

/-- The path of a local file: a drive at its root is spelled in the usual way,
and there is a single slash at the root. -/
def filePathText (segments : List (List Char)) : String :=
  let segments := match segments with
    | first :: rest => plainDrive first :: rest
    | [] => []
  String.ofList
    ('/' :: (Text.rejoin '/' segments).dropWhile (· = '/'))

end ModuleAtlas.Url
