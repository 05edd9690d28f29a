import ModuleAtlas.Literal.Reader
import ModuleAtlas.Text.Search

/-!
# Grouping replies

A completion service proposes groups in a literal between two markers, which
may stand in a code fence.  Everything outside the first pair of markers is
ignored.
-/

namespace ModuleAtlas

/-- A proposed group of components. -/
structure Group where
  name : String
  description : String
  /-- Where the service would put the group; its place is decided elsewhere. -/
  path : List String
  components : List String
deriving DecidableEq, Repr

/-- Why the marked part of a reply holds no groups. -/
inductive ReplyError where
  | literal (cause : LiteralError)
  | notMapping (value : Json)
  | notModule (name : String) (value : Json)
deriving Inhabited

/-- What a reply says. -/
inductive Reply where
  | proposed (groups : List Group)
  | unmarked
  | malformed (cause : ReplyError)
deriving Inhabited

/-- The kind of a value in words. -/
def Json.kindInWords : Json → String
  | .null => "null"
  | .bool _ => "a boolean"
  | .number _ => "a number"
  | .text _ => "a string"
  | .list _ => "a list"
  | .record _ => "a mapping"

/-- The wording of a failure. -/
def ReplyError.message : ReplyError → String
  | .literal cause => cause.message
  | .notMapping value => "expected a mapping, got " ++ value.kindInWords
  | .notModule name value =>
    "module '" ++ name ++ "' should map to an object, got "
      ++ value.kindInWords

namespace Reply

/-- The mark before the groups. -/
def openMarker : String := "<GROUPED_COMPONENTS>"

/-- The mark behind the groups. -/
def closeMarker : String := "</GROUPED_COMPONENTS>"

/-- The mark of a code fence. -/
def fence : String := "```"

/-- The text between the first opening mark and the first closing mark behind
it. -/
def region? (text : List Char) : Option (List Char) := do
  let (_, inside) ← Text.splitAt? openMarker.toList text
  let (region, _) ← Text.splitAt? closeMarker.toList inside
  some region

/-- Take off a code fence: its opening line, whatever language that names, and
its closing mark if there is one. -/
def unfence (region : List Char) : List Char :=
  let trimmed := Text.trimList region
  match Text.afterStart? fence.toList trimmed with
  | none => trimmed
  | some rest =>
    let body := (rest.dropWhile (· ≠ '\n')).drop 1
    Text.trimList
      ((Text.beforeEnd? fence.toList (Text.trimEndList body)).getD body)

/-- The texts of a list, trimmed and without the blank ones. -/
def texts : Option Json → List String
  | some (.list items) =>
    (items.filterMap fun item => match item with
      | .text text => some (Text.trim text)
      | _ => none).filter (· ≠ "")
  | _ => []

/-- The group that an entry of the mapping describes. -/
def group (name : String) (fields : List (String × Json)) : Group where
  name
  description := match lookupRow "description" fields with
    | some (.text description) => description
    | _ => ""
  path := texts (lookupRow "path" fields)
  components := texts (lookupRow "components" fields)

/-- The groups of a mapping; the first entry that is not a mapping fails. -/
def groups? : List (String × Json) → Except ReplyError (List Group)
  | [] => .ok []
  | (name, .record fields) :: rest =>
    (groups? rest).map (group name fields :: ·)
  | (name, other) :: _ => .error (.notModule name other)

/-- Read the marked part of a reply. -/
def ofRegion (region : List Char) : Reply :=
  match Literal.read (unfence region) with
  | .error cause => .malformed (.literal cause)
  | .ok (.record entries) =>
    match groups? entries with
    | .ok groups => .proposed groups
    | .error cause => .malformed cause
  | .ok other => .malformed (.notMapping other)

def ofText (text : String) : Reply :=
  match region? text.toList with
  | none => .unmarked
  | some region => ofRegion region

end Reply

end ModuleAtlas
