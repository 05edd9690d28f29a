import ModuleAtlas.Json.Basic
import ModuleAtlas.Json.Token
import ModuleAtlas.Keyed.Basic

/-!
# JSON documents as written

`Json.Written` is the tree of a document before its strings and numbers are
read: fields keep their order and repetitions.  `Written.ofTokens?` builds the
tree, `Written.toJson?` reads it as a value, and `Json.written` goes back.
-/

namespace ModuleAtlas.Json

/-- The tree of a document. -/
inductive Written where
  | null
  | bool (value : Bool)
  | number (spelling : NumberText)
  /-- A number that was read before; no text is built with it. -/
  | known (value : Number)
  | text (pieces : List Piece)
  | list (items : List Written)
  | record (fields : List (List Piece × Written))
deriving Inhabited

namespace Written

mutual

/-- Build one value; the first argument bounds the depth of the search. -/
def build : Nat → List Token → Option (Written × List Token)
  | 0, _ => none
  | _ + 1, [] => none
  | steps + 1, token :: rest =>
    match token with
    | .null => some (.null, rest)
    | .bool value => some (.bool value, rest)
    | .number spelling => some (.number spelling, rest)
    | .text pieces => some (.text pieces, rest)
    | .openList =>
      match rest with
      | .closeList :: rest => some (.list [], rest)
      | _ => (buildItems steps rest).map fun (items, rest) =>
        (.list items, rest)
    | .openRecord =>
      match rest with
      | .closeRecord :: rest => some (.record [], rest)
      | _ => (buildFields steps rest).map fun (fields, rest) =>
        (.record fields, rest)
    | .closeList | .closeRecord | .comma | .colon => none

/-- Build the items of a list up to its closing bracket. -/
def buildItems : Nat → List Token → Option (List Written × List Token)
  | 0, _ => none
  | steps + 1, tokens =>
    match build steps tokens with
    | none => none
    | some (item, .closeList :: rest) => some ([item], rest)
    | some (item, .comma :: rest) =>
      (buildItems steps rest).map fun (items, rest) => (item :: items, rest)
    | some _ => none

/-- Build the fields of a record up to its closing brace. -/
def buildFields :
    Nat → List Token → Option (List (List Piece × Written) × List Token)
  | 0, _ => none
  | steps + 1, .text name :: .colon :: tokens =>
    match build steps tokens with
    | none => none
    | some (value, .closeRecord :: rest) => some ([(name, value)], rest)
    | some (value, .comma :: rest) =>
      (buildFields steps rest).map fun (fields, rest) =>
        ((name, value) :: fields, rest)
    | some _ => none
  | _ + 1, _ => none

end

/-- Build the tree of a whole document.  At most two calls are nested per
token. -/
def ofTokens? (tokens : List Token) : Option Written :=
  match build (2 * tokens.length + 2) tokens with
  | some (written, []) => some written
  | _ => none

/-- Read the tree of a document from its text. -/
def ofText? (text : String) : Option Written :=
  (tokens? text.toList).bind ofTokens?

end Written

/-- Whether a code unit is the first half of a pair. -/
def isLeading (code : Nat) : Bool := 0xD800 ≤ code && code ≤ 0xDBFF

/-- Whether a code unit is the second half of a pair. -/
def isTrailing (code : Nat) : Bool := 0xDC00 ≤ code && code ≤ 0xDFFF

/-- The characters that pieces stand for; none when half of a pair stands
alone. -/
def pieceChars? : List Piece → Option (List Char)
  | [] => some []
  | .char c :: rest => (pieceChars? rest).map (c :: ·)
  | [.unit code] =>
    if isLeading code || isTrailing code then none
    else some [Char.ofNat code]
  | .unit code :: next :: rest =>
    if isLeading code then
      match next with
      | .unit other =>
        if isTrailing other then
          let c := Char.ofNat
            (0x10000 + (code - 0xD800) * 0x400 + (other - 0xDC00))
          (pieceChars? rest).map (c :: ·)
        else none
      | .char _ => none
    else if isTrailing code then none
    else (pieceChars? (next :: rest)).map (Char.ofNat code :: ·)

/-- The text that pieces stand for. -/
def pieceText? (pieces : List Piece) : Option String :=
  (pieceChars? pieces).map String.ofList

/-- The most levels of containers that a document may nest. -/
def maxDepth : Nat := 127

namespace Written

mutual

/-- Read a value with so many levels of containers still allowed.  A field
that is repeated takes its last value; fields come out in ascending order. -/
def toJson? (levels : Nat) : Written → Option Json
  | .null => some .null
  | .bool value => some (.bool value)
  | .number spelling => spelling.value?.map .number
  | .known value => some (.number value)
  | .text pieces => (pieceText? pieces).map .text
  | .list items =>
    match levels with
    | 0 => none
    | levels + 1 => (toJsonItems? levels items).map .list
  | .record fields =>
    match levels with
    | 0 => none
    | levels + 1 => (toJsonFields? levels fields).map fun fields =>
      .record (Keyed.ofList fields).entries

/-- Read the items of a list. -/
def toJsonItems? (levels : Nat) : List Written → Option (List Json)
  | [] => some []
  | item :: rest => do
    let value ← toJson? levels item
    let values ← toJsonItems? levels rest
    some (value :: values)

/-- Read the fields of a record. -/
def toJsonFields? (levels : Nat) :
    List (List Piece × Written) → Option (List (String × Json))
  | [] => some []
  | (name, item) :: rest => do
    let name ← pieceText? name
    let value ← toJson? levels item
    let fields ← toJsonFields? levels rest
    some ((name, value) :: fields)

end

end Written

/-- Read a value from a whole text. -/
def parse? (text : String) : Option Json :=
  (Written.ofText? text).bind (Written.toJson? maxDepth)

/-- The pieces of a text without escapes. -/
def textPieces (text : String) : List Piece := text.toList.map .char

mutual

/-- The tree of a value. -/
def written : Json → Written
  | .null => .null
  | .bool value => .bool value
  | .number value => .known value
  | .text value => .text (textPieces value)
  | .list items => .list (writtenItems items)
  | .record fields => .record (writtenFields fields)

/-- The trees of the items of a list. -/
def writtenItems : List Json → List Written
  | [] => []
  | item :: rest => written item :: writtenItems rest

/-- The trees of the fields of a record. -/
def writtenFields :
    List (String × Json) → List (List Piece × Written)
  | [] => []
  | (name, value) :: rest =>
    (textPieces name, written value) :: writtenFields rest

end

end ModuleAtlas.Json
