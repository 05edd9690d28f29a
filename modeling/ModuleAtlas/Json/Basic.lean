import ModuleAtlas.Json.Number
import ModuleAtlas.Text.Digits

/-!
# JSON values and their texts

A value is printed in two layouts: compact, without any blanks, and pretty,
with two more spaces of indent per level and empty containers kept on one
line.  Fields are printed in the order in which the record lists them.
-/

namespace ModuleAtlas

inductive Json where
  | null
  | bool (value : Bool)
  | number (value : Json.Number)
  | text (value : String)
  | list (items : List Json)
  | record (fields : List (String × Json))
deriving Inhabited

namespace Json

def ofInt (value : Int) : Json := .number (.int value)

/-- A natural number as a value. -/
def ofNat (value : Nat) : Json := .number (.int value)

/-- A list of texts as a value. -/
def ofTexts (texts : List String) : Json := .list (texts.map .text)

/-- A value, or null in its absence. -/
def ofOption {α : Type} (encode : α → Json) : Option α → Json
  | none => .null
  | some value => encode value

/-- A character as it stands inside a string: quotes, backslashes and control
characters are escaped, everything else is raw. -/
def escapeChar (c : Char) : List Char :=
  if c = '"' then ['\\', '"']
  else if c = '\\' then ['\\', '\\']
  else if c = '\n' then ['\\', 'n']
  else if c = '\r' then ['\\', 'r']
  else if c = '\t' then ['\\', 't']
  else if c.toNat = 8 then ['\\', 'b']
  else if c.toNat = 12 then ['\\', 'f']
  else if c.toNat < 32 then
    ['\\', 'u', '0', '0', Text.hexDigit (c.toNat / 16),
      Text.hexDigit (c.toNat % 16)]
  else [c]

/-- A string between its quotes. -/
def quoted (text : String) : List Char :=
  '"' :: (text.toList.flatMap escapeChar ++ ['"'])

mutual

/-- The characters of the compact text. -/
def compactChars : Json → List Char
  | .null => "null".toList
  | .bool value => if value then "true".toList else "false".toList
  | .number value => value.spelling.chars
  | .text value => quoted value
  | .list items => '[' :: (compactItems items ++ [']'])
  | .record fields => '{' :: (compactFields fields ++ ['}'])

/-- The items of a list, separated by commas. -/
def compactItems : List Json → List Char
  | [] => []
  | [item] => compactChars item
  | item :: rest => compactChars item ++ ',' :: compactItems rest

/-- The fields of a record, separated by commas. -/
def compactFields : List (String × Json) → List Char
  | [] => []
  | [(name, value)] => quoted name ++ ':' :: compactChars value
  | (name, value) :: rest =>
    quoted name ++ ':' :: (compactChars value ++ ',' :: compactFields rest)

end

/-- The text without blanks. -/
def compact (value : Json) : String := String.ofList (compactChars value)

/-- A line end and the indent of a level. -/
def newline (level : Nat) : List Char :=
  '\n' :: List.replicate (2 * level) ' '

mutual

/-- The characters of the pretty text at a level of indent. -/
def prettyChars (level : Nat) : Json → List Char
  | .list (item :: items) =>
    '[' :: (prettyItems (level + 1) (item :: items) ++ newline level ++ [']'])
  | .record (field :: fields) =>
    '{' :: (prettyFields (level + 1) (field :: fields)
      ++ newline level ++ ['}'])
  | .list [] => ['[', ']']
  | .record [] => ['{', '}']
  | .null => "null".toList
  | .bool value => if value then "true".toList else "false".toList
  | .number value => value.spelling.chars
  | .text value => quoted value

/-- Each item on a line of its own. -/
def prettyItems (level : Nat) : List Json → List Char
  | [] => []
  | [item] => newline level ++ prettyChars level item
  | item :: rest =>
    newline level ++ prettyChars level item ++ ',' :: prettyItems level rest

/-- Each field on a line of its own. -/
def prettyFields (level : Nat) : List (String × Json) → List Char
  | [] => []
  | [(name, value)] =>
    newline level ++ quoted name ++ ':' :: ' ' :: prettyChars level value
  | (name, value) :: rest =>
    newline level ++ quoted name ++ ':' :: ' ' ::
      (prettyChars level value ++ ',' :: prettyFields level rest)

end

/-- The indented text, without a final line end. -/
def pretty (value : Json) : String := String.ofList (prettyChars 0 value)

end Json

end ModuleAtlas
