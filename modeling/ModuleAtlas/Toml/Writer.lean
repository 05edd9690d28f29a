import ModuleAtlas.Decimal.Layout
import ModuleAtlas.Toml.Value

/-!
# Writing TOML

Values are written the way people would: a string takes the plainest quotes
that need no escapes, and an array of several items takes one line per item.
-/

namespace ModuleAtlas.Toml

/-- Characters that can only be written as escapes. -/
def needsEscape (c : Char) : Bool :=
  (c.toNat < 32 && c ≠ '\t' && c ≠ '\n') || c.toNat = 127

/-- The longest run of a character. -/
def longestRun (wanted : Char) (text : List Char) : Nat :=
  let step := fun (current, longest) c =>
    if c = wanted then (current + 1, max longest (current + 1))
    else (0, longest)
  (text.foldl step (0, 0)).2

/-- The quotes of a string. -/
inductive QuoteStyle where
  | basic
  | literal
  | basicLines
  | literalLines
deriving DecidableEq, Repr

/-- The plainest quotes for a text. -/
def quoteStyle (text : List Char) : QuoteStyle :=
  let codes := text.any needsEscape
  let backslash := text.contains '\\'
  let newline := text.contains '\n'
  let doubles := longestRun '"' text
  let singles := longestRun '\'' text
  if !codes && !backslash && doubles = 0 && !newline then .basic
  else if !codes && singles = 0 && !newline then .literal
  else if !codes && !backslash && doubles ≤ 2 then .basicLines
  else if !codes && singles ≤ 2 then .literalLines
  else if newline then .basicLines
  else .basic

/-- Four upper-case hexadecimal digits. -/
def hexQuad (value : Nat) : List Char :=
  let digits := (Nat.toDigits 16 value).map Char.toUpper
  List.replicate (4 - digits.length) '0' ++ digits

/-- A character other than a quote inside a basic string. -/
def escapeChar (lines : Bool) (c : Char) : List Char :=
  if c.toNat = 8 then ['\\', 'b']
  else if c = '\t' then ['\\', 't']
  else if c = '\n' then if lines then ['\n'] else ['\\', 'n']
  else if c.toNat = 12 then ['\\', 'f']
  else if c = '\r' then ['\\', 'r']
  else if c = '\\' then ['\\', '\\']
  else if needsEscape c then '\\' :: 'u' :: hexQuad c.toNat
  else [c]

/-- A text inside a basic string.  On lines of their own, two quotes in a row
may stand raw; `quotes` is how many stand before the rest. -/
def escapeText (lines : Bool) : Nat → List Char → List Char
  | _, [] => []
  | quotes, '"' :: rest =>
    if lines ∧ quotes < 2 then '"' :: escapeText lines (quotes + 1) rest
    else '\\' :: '"' :: escapeText lines 0 rest
  | _, c :: rest => escapeChar lines c ++ escapeText lines 0 rest

def stringText (text : String) : String :=
  let chars := text.toList
  let start := if chars.contains '\n' then "\n" else ""
  match quoteStyle chars with
  | .basic => "\"" ++ String.ofList (escapeText false 0 chars) ++ "\""
  | .literal => "'" ++ text ++ "'"
  | .basicLines =>
    "\"\"\"" ++ start ++ String.ofList (escapeText true 0 chars) ++ "\"\"\""
  | .literalLines => "'''" ++ start ++ text ++ "'''"

/-- A floating-point number, with a point where it is finite. -/
def floatText (value : Float) : String :=
  match Decimal.Parts.ofDouble value with
  | .notANumber => "nan"
  | .infinite negative =>
    String.ofList (Decimal.signed negative "inf".toList)
  | .zero negative => String.ofList (Decimal.signed negative "0.0".toList)
  | .finite negative magnitude =>
    let (whole, fraction) := (magnitude.shortest .outward).positional
    let fraction := if fraction.isEmpty then ['0'] else fraction
    String.ofList (Decimal.signed negative (whole ++ '.' :: fraction))

def arrayText (texts : List String) : String :=
  match texts with
  | [] => "[]"
  | [text] => "[" ++ stringText text ++ "]"
  | _ =>
    "[" ++ String.join (texts.map fun text =>
      "\n    " ++ stringText text ++ ",") ++ "\n]"

/-- A line with a key and its value. -/
def entryLine (name value : String) : String := name ++ " = " ++ value ++ "\n"

/-- A table with its header and its lines. -/
def tableText (name : String) (lines : List String) : String :=
  "[" ++ name ++ "]\n" ++ String.join lines

end ModuleAtlas.Toml
