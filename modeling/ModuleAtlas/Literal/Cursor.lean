import ModuleAtlas.Json.Basic
import ModuleAtlas.Text.Blank

/-!
# Positions and failures of the literal reader

A cursor is what is left of a text together with its offset, counted in
characters.  A failure names its cause; `LiteralError.message` words it.
-/

namespace ModuleAtlas

/-- Why a text is not a literal. -/
inductive LiteralError where
  | unexpected (found : Char) (offset : Nat)
  | unexpectedEnd
  | expected (wanted : Char) (offset : Nat) (found : Char)
  | expectedAtEnd (wanted : Char)
  | tooDeep
  | unsupportedKey (key : Json)
  | expectedSeparator (close : Char) (offset : Nat) (found : Char)
  | unterminatedMapping
  | unterminatedList
  | unterminatedEscape
  | newlineInString (start : Nat)
  | unterminatedString (start : Nat)
  | truncatedUnicode
  | invalidUnicode (digits : List Char)
  | invalidNumber (text : List Char) (offset : Nat)
  | unsupportedWord (word : List Char) (offset : Nat)
  | trailingInput (offset : Nat)
deriving Inhabited

/-- The wording of a failure. -/
def LiteralError.message : LiteralError → String
  | .unexpected found offset =>
    "unexpected '" ++ found.toString ++ "' at offset " ++ toString offset
  | .unexpectedEnd => "unexpected end of input"
  | .expected wanted offset found =>
    "expected '" ++ wanted.toString ++ "' at offset " ++ toString offset
      ++ ", found '" ++ found.toString ++ "'"
  | .expectedAtEnd wanted =>
    "expected '" ++ wanted.toString ++ "' but input ended"
  | .tooDeep => "literal is nested too deeply"
  | .unsupportedKey key => "unsupported mapping key " ++ key.compact
  | .expectedSeparator close offset found =>
    "expected ',' or '" ++ close.toString ++ "' at offset "
      ++ toString offset ++ ", found '" ++ found.toString ++ "'"
  | .unterminatedMapping => "unterminated mapping"
  | .unterminatedList => "unterminated list"
  | .unterminatedEscape => "unterminated escape"
  | .newlineInString start =>
    "newline inside string starting at offset " ++ toString start
  | .unterminatedString start =>
    "unterminated string starting at offset " ++ toString start
  | .truncatedUnicode => "truncated unicode escape"
  | .invalidUnicode digits =>
    "invalid unicode escape \\u" ++ String.ofList digits
  | .invalidNumber text offset =>
    "invalid number '" ++ String.ofList text ++ "' at offset "
      ++ toString offset
  | .unsupportedWord word offset =>
    "unsupported identifier '" ++ String.ofList word ++ "' at offset "
      ++ toString offset
  | .trailingInput offset =>
    "unexpected trailing input at offset " ++ toString offset

namespace Literal

/-- What is left of a text, and how many characters were left behind. -/
structure Cursor where
  offset : Nat
  rest : List Char
deriving DecidableEq, Repr

namespace Cursor

/-- The start of a text. -/
def start (text : List Char) : Cursor := ⟨0, text⟩

/-- Skip blanks and comments; a comment runs from `#` to the end of its
line. -/
def skipFrom (inComment : Bool) (offset : Nat) : List Char → Cursor
  | [] => ⟨offset, []⟩
  | c :: rest =>
    if inComment then skipFrom (c ≠ '\n') (offset + 1) rest
    else if Text.isBlank c then skipFrom false (offset + 1) rest
    else if c = '#' then skipFrom true (offset + 1) rest
    else ⟨offset, c :: rest⟩

def skipBlank (cursor : Cursor) : Cursor :=
  skipFrom false cursor.offset cursor.rest

/-- Skip a run of characters that pass a test; answers the run. -/
def takeRun (test : Char → Bool) (cursor : Cursor) : List Char × Cursor :=
  let run := cursor.rest.takeWhile test
  (run, ⟨cursor.offset + run.length, cursor.rest.dropWhile test⟩)

end Cursor

end Literal

end ModuleAtlas
