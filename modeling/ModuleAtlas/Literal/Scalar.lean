import ModuleAtlas.Decimal.Nearest
import ModuleAtlas.Json.Number
import ModuleAtlas.Literal.Cursor
import ModuleAtlas.Text.Codes
import ModuleAtlas.Text.Letters

/-!
# Strings, numbers and words of the literal dialect

Strings stand in either quote and know a few escapes; any other escaped
character stands for itself.  Numbers may hold underscores.  Words are the
constants of JSON, each also with a capital letter, and `None`.
-/

namespace ModuleAtlas.Literal

/-- The outcome of reading one part of a literal. -/
abbrev Reading (α : Type) := Except LiteralError (α × Cursor)

/-- The number that hexadecimal digits denote; a plus sign may stand before
them. -/
def hexNumber? (digits : List Char) : Option Nat :=
  let digits := match digits with
    | '+' :: rest => rest
    | _ => digits
  if digits.all Text.isHexDigit then some (Text.numberOf 16 digits) else none

/-- What an escaped letter stands for; all others stand for themselves. -/
def escaped (letter : Char) : Char :=
  if letter = 'n' then '\n'
  else if letter = 't' then '\t'
  else if letter = 'r' then '\r'
  else if letter = '0' then Char.ofNat 0
  else letter

/-- Put a character in front of what was read. -/
def prepend (c : Char) (reading : Reading (List Char)) :
    Reading (List Char) :=
  reading.map fun (chars, cursor) => (c :: chars, cursor)

/-- Read a string from behind its opening quote, which stood at `start`. -/
def stringBody (quote : Char) (start : Nat) :
    Nat → List Char → Reading (List Char)
  | _, [] => .error (.unterminatedString start)
  | offset, c :: rest =>
    if c = quote then .ok ([], ⟨offset + 1, rest⟩)
    else if c = '\\' then
      match rest with
      | [] => .error .unterminatedEscape
      | 'u' :: digit₁ :: digit₂ :: digit₃ :: digit₄ :: rest =>
        match (hexNumber? [digit₁, digit₂, digit₃, digit₄]).bind
            Text.scalar? with
        | none => .error (.invalidUnicode [digit₁, digit₂, digit₃, digit₄])
        | some value =>
          prepend value (stringBody quote start (offset + 6) rest)
      | 'u' :: _ => .error .truncatedUnicode
      | letter :: rest =>
        prepend (escaped letter) (stringBody quote start (offset + 2) rest)
    else if c = '\n' then .error (.newlineInString start)
    else prepend c (stringBody quote start (offset + 1) rest)

/-- Read a string that starts with this quote. -/
def string (quote : Char) (cursor : Cursor) : Reading String :=
  (stringBody quote cursor.offset (cursor.offset + 1)
    (cursor.rest.drop 1)).map fun (chars, cursor) =>
      (String.ofList chars, cursor)

/-- A character that may stand in a number. -/
def isNumberChar (c : Char) : Bool :=
  c.isDigit || c = '-' || c = '+' || c = '.' || c = 'e' || c = 'E' || c = '_'

/-- The number that a text without underscores denotes: an integer of 64 bits
if it is one, otherwise a finite double. -/
def numberValue? (text : List Char) : Option Json.Number :=
  match Decimal.int64? text with
  | some value => some (.int value)
  | none =>
    match Decimal.double? text with
    | some value => if value.isFinite then some (.float value) else none
    | none => none

def number (cursor : Cursor) : Reading Json.Number :=
  let (run, after) := cursor.takeRun isNumberChar
  let text := run.filter (· ≠ '_')
  match numberValue? text with
  | some value => .ok (value, after)
  | none => .error (.invalidNumber text cursor.offset)

/-- A character that may stand in a word. -/
def isWordPart (c : Char) : Bool := Text.isAlphanumeric c || c = '_'

/-- The constant that a word names. -/
def wordValue? (word : List Char) : Option Json :=
  if word = "True".toList ∨ word = "true".toList then some (.bool true)
  else if word = "False".toList ∨ word = "false".toList then
    some (.bool false)
  else if word = "None".toList ∨ word = "null".toList then some .null
  else none

def word (cursor : Cursor) : Reading Json :=
  let (run, after) := cursor.takeRun isWordPart
  match wordValue? run with
  | some value => .ok (value, after)
  | none => .error (.unsupportedWord run cursor.offset)

end ModuleAtlas.Literal
