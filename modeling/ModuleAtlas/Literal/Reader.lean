import ModuleAtlas.Keyed.Basic
import ModuleAtlas.Literal.Scalar

/-!
# Reading literals

A literal is JSON or a looser dialect of it: either quote, lists in brackets
or parentheses, trailing commas, comments, and words in two spellings.  It is
read, never evaluated.  Values nest at most 64 levels below the outermost one.
-/

namespace ModuleAtlas.Literal

/-- How many levels of values a literal may have. -/
def maxLevels : Nat := 65

/-- Take a closing bracket if it stands at the cursor. -/
def takeClose? (close : Char) (cursor : Cursor) : Option Cursor :=
  match cursor.rest with
  | [] => none
  | c :: rest => if c = close then some ⟨cursor.offset + 1, rest⟩ else none

/-- Go on behind an item: past a comma, or to the closing bracket. -/
def takeSeparator (close : Char) (unterminated : LiteralError)
    (cursor : Cursor) : Except LiteralError Cursor :=
  let cursor := cursor.skipBlank
  match cursor.rest with
  | [] => .error unterminated
  | c :: rest =>
    if c = ',' then .ok ⟨cursor.offset + 1, rest⟩
    else if c = close then .ok cursor
    else .error (.expectedSeparator close cursor.offset c)

/-- The items of a list up to its closing bracket, each read by `item`.  Every
item takes a character, so the length of the text bounds their number. -/
def listItems (item : Cursor → Reading Json) (close : Char) :
    Nat → Cursor → Reading (List Json)
  | 0, _ => .error .unterminatedList
  | steps + 1, cursor =>
    let cursor := cursor.skipBlank
    match takeClose? close cursor with
    | some after => .ok ([], after)
    | none =>
      match item cursor with
      | .error failure => .error failure
      | .ok (value, after) =>
        match takeSeparator close .unterminatedList after with
        | .error failure => .error failure
        | .ok next =>
          (listItems item close steps next).map
            fun (values, final) => (value :: values, final)

/-- The text of a mapping key: a string, or the text of a number. -/
def keyText : Json → Except LiteralError String
  | .text key => .ok key
  | .number value => .ok (Json.number value).compact
  | other => .error (.unsupportedKey other)

/-- Take the colon between a key and its value. -/
def takeColon (cursor : Cursor) : Except LiteralError Cursor :=
  let cursor := cursor.skipBlank
  match cursor.rest with
  | [] => .error (.expectedAtEnd ':')
  | c :: rest =>
    if c = ':' then .ok ⟨cursor.offset + 1, rest⟩
    else .error (.expected ':' cursor.offset c)

/-- Read one entry of a mapping. -/
def entry (item : Cursor → Reading Json) (cursor : Cursor) :
    Reading (String × Json) :=
  match item cursor with
  | .error failure => .error failure
  | .ok (key, after) =>
    match keyText key with
    | .error failure => .error failure
    | .ok name =>
      match takeColon after with
      | .error failure => .error failure
      | .ok after =>
        (item after).map fun (value, final) => ((name, value), final)

/-- The entries of a mapping up to its closing brace, in order. -/
def mappingItems (item : Cursor → Reading Json) :
    Nat → Cursor → Reading (List (String × Json))
  | 0, _ => .error .unterminatedMapping
  | steps + 1, cursor =>
    let cursor := cursor.skipBlank
    match takeClose? '}' cursor with
    | some after => .ok ([], after)
    | none =>
      match entry item cursor with
      | .error failure => .error failure
      | .ok (first, after) =>
        match takeSeparator '}' .unterminatedMapping after with
        | .error failure => .error failure
        | .ok next =>
          (mappingItems item steps next).map
            fun (entries, final) => (first :: entries, final)

/-- Read a value with so many levels left. -/
def value : Nat → Cursor → Reading Json
  | 0, _ => .error .tooDeep
  | levels + 1, cursor =>
    let cursor := cursor.skipBlank
    match cursor.rest with
    | [] => .error .unexpectedEnd
    | c :: rest =>
      let inside : Cursor := ⟨cursor.offset + 1, rest⟩
      let steps := rest.length + 1
      if c = '{' then
        (mappingItems (value levels) steps inside).map
          fun (entries, after) =>
            (.record (Keyed.ofList entries).entries, after)
      else if c = '[' then
        (listItems (value levels) ']' steps inside).map
          fun (items, after) => (.list items, after)
      else if c = '(' then
        (listItems (value levels) ')' steps inside).map
          fun (items, after) => (.list items, after)
      else if c = '"' ∨ c = '\'' then
        (string c cursor).map fun (text, after) => (.text text, after)
      else if c = '-' ∨ c = '+' ∨ c.isDigit then
        (number cursor).map fun (number, after) => (.number number, after)
      else if Text.isAlphabetic c then word cursor
      else .error (.unexpected c cursor.offset)

/-- Read a whole text as one literal. -/
def read (text : List Char) : Except LiteralError Json :=
  match value maxLevels (Cursor.start text) with
  | .error failure => .error failure
  | .ok (value, after) =>
    let after := after.skipBlank
    if after.rest.isEmpty then .ok value
    else .error (.trailingInput after.offset)

end ModuleAtlas.Literal
