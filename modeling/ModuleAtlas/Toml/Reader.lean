import ModuleAtlas.Toml.Scalar

/-!
# Reading TOML

A document is a sequence of lines, each with a header, a key and its value, or
nothing; arrays and long strings continue over line ends.
-/

namespace ModuleAtlas.Toml

/-- Skip blanks within a line. -/
def skipGap (text : List Char) : List Char := text.dropWhile isGap

/-- Skip a comment; none when it holds a control character. -/
def skipComment? (text : List Char) : Option (List Char) :=
  match text with
  | '#' :: rest =>
    let after := rest.dropWhile isPlain
    match after with
    | [] | '\n' :: _ | '\r' :: '\n' :: _ => some after
    | _ => none
  | _ => some text

/-- Skip blanks, comments and line ends, within a number of steps. -/
def skipLines? : Nat → List Char → Option (List Char)
  | 0, _ => none
  | steps + 1, text =>
    match skipGap text with
    | '\n' :: rest => skipLines? steps rest
    | '\r' :: '\n' :: rest => skipLines? steps rest
    | '#' :: rest => (skipComment? ('#' :: rest)).bind (skipLines? steps)
    | rest => some rest

/-- Skip blanks, comments and line ends. -/
def skipSpace? (text : List Char) : Option (List Char) :=
  skipLines? (text.length + 1) text

/-- Characters of keys without quotes. -/
def isKeyChar (c : Char) : Bool := c.isAlphanum || c = '_' || c = '-'

/-- One segment of a key. -/
def scanSegment : Scan String := fun text =>
  match text with
  | '"' :: rest => (scanBasic rest).map fun (chars, rest) =>
    (String.ofList chars, rest)
  | '\'' :: rest => (scanLiteral rest).map fun (chars, rest) =>
    (String.ofList chars, rest)
  | _ =>
    let bare := text.takeWhile isKeyChar
    if bare.isEmpty then none
    else some (String.ofList bare, text.drop bare.length)

/-- The deepest nesting of values and the longest path of a key. -/
def maxNesting : Nat := 79

/-- A key: segments with points between them, at most so many. -/
def scanKey : Nat → Scan (List String)
  | 0, _ => none
  | count + 1, text => do
    let (segment, rest) ← scanSegment (skipGap text)
    match skipGap rest with
    | '.' :: rest =>
      let (segments, rest) ← scanKey count rest
      some (segment :: segments, rest)
    | rest => some ([segment], rest)

/-- A key as its path and its last segment. -/
def scanPath : Scan (List String × String) := fun text => do
  let (segments, rest) ← scanKey maxNesting text
  let name ← segments.getLast?
  some ((segments.dropLast, name), rest)

/-- A key, an equals sign and a value. -/
def scanEntry (value : Scan Value) : Scan ((List String × String) × Value) :=
  fun text => do
    let (path, rest) ← scanPath text
    match rest with
    | '=' :: rest =>
      let (value, rest) ← value (skipGap rest)
      some ((path, value), rest)
    | _ => none

/-- The values of an array up to its closing bracket. -/
def scanItems (value : Scan Value) : Nat → Scan (List Value)
  | 0, _ => none
  | steps + 1, text => do
    match ← skipSpace? text with
    | ']' :: rest => some ([], rest)
    | text =>
      let (first, rest) ← value text
      match ← skipSpace? rest with
      | ',' :: rest =>
        let (values, rest) ← scanItems value steps rest
        some (first :: values, rest)
      | ']' :: rest => some ([first], rest)
      | _ => none

/-- The entries of a table on one line, up to its closing brace. -/
def scanFields (value : Scan Value) : Nat → Items → Scan Items
  | 0, _, _ => none
  | steps + 1, items, text => do
    let (((path, name), value'), rest) ← scanEntry value (skipGap text)
    let items ← setValue path name value' items
    match skipGap rest with
    | ',' :: rest => scanFields value steps items rest
    | '\x7d' :: rest => some (items, rest)
    | _ => none

/-- A value with so many levels of nesting left. -/
def scanValue : Nat → Scan Value
  | levels, text =>
    match text, levels with
    | '"' :: _, _ | '\'' :: _, _ =>
      (scanString text).map fun (value, rest) => (.text value, rest)
    | '[' :: _, 0 | '\x7b' :: _, 0 => none
    | '[' :: rest, levels + 1 =>
      (scanItems (scanValue levels) (rest.length + 1) rest).map
        fun (values, rest) => (.list values, rest)
    | '\x7b' :: rest, levels + 1 =>
      match skipGap rest with
      | '\x7d' :: rest => some (.table [], rest)
      | rest =>
        (scanFields (scanValue levels) (rest.length + 1) [] rest).map
          fun (items, rest) => (.table (entryValues items), rest)
    | _, _ => scanBare text

/-- Skip the rest of a line, which may only hold a comment. -/
def finishLine? (text : List Char) : Option (List Char) := do
  match ← skipComment? (skipGap text) with
  | [] => some []
  | '\n' :: rest => some rest
  | '\r' :: '\n' :: rest => some rest
  | _ => none

/-- A document that is being read: its items, and the path of the table that
is open. -/
structure Draft where
  items : Items
  current : List String

/-- Read one line that is not blank. -/
def readLine? (draft : Draft) (text : List Char) :
    Option (Draft × List Char) := do
  match text with
  | '[' :: '[' :: rest =>
    let ((path, name), rest) ← scanPath rest
    match rest with
    | ']' :: ']' :: rest =>
      let items ← openNext path name draft.items
      some (⟨items, path ++ [name]⟩, ← finishLine? rest)
    | _ => none
  | '[' :: rest =>
    let ((path, name), rest) ← scanPath rest
    match rest with
    | ']' :: rest =>
      let items ← openTable path name draft.items
      some (⟨items, path ++ [name]⟩, ← finishLine? rest)
    | _ => none
  | _ =>
    let (((path, name), value), rest) ←
      scanEntry (scanValue maxNesting) text
    let items ← changeOpen (setValue path name value) draft.current
      draft.items
    some (⟨items, draft.current⟩, ← finishLine? rest)

/-- Read lines to the end of the text. -/
def readLines? : Nat → Draft → List Char → Option Draft
  | 0, _, _ => none
  | steps + 1, draft, text => do
    match ← skipSpace? text with
    | [] => some draft
    | text =>
      let (draft, rest) ← readLine? draft text
      readLines? steps draft rest

/-- Skip a byte order mark. -/
def skipMark : List Char → List Char
  | c :: rest => if c.toNat = 0xFEFF then rest else c :: rest
  | [] => []

/-- Read a document; answers its entries in order. -/
def read? (text : String) : Option (List (String × Value)) :=
  let chars := skipMark text.toList
  (readLines? (chars.length + 1) ⟨[], []⟩ chars).map fun draft =>
    entryValues draft.items

end ModuleAtlas.Toml
