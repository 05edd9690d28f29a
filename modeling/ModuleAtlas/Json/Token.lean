import ModuleAtlas.Json.Number
import ModuleAtlas.Text.Digits

/-!
# Tokens of JSON texts

A text is cut into tokens before it is read.  Strings keep their four-digit
escapes as code units, and numbers keep their spelling, because a part of a
document that nobody asks for needs to be well-formed only.
-/

namespace ModuleAtlas.Json

/-- One piece of a string: a character, or the code unit of a four-digit
escape. -/
inductive Piece where
  | char (c : Char)
  | unit (code : Nat)
deriving DecidableEq, Repr

/-- A token of a JSON text. -/
inductive Token where
  | openList
  | closeList
  | openRecord
  | closeRecord
  | comma
  | colon
  | null
  | bool (value : Bool)
  | number (spelling : NumberText)
  | text (pieces : List Piece)
deriving DecidableEq, Repr

/-- The value of four hexadecimal digits. -/
def hexQuad? (a b c d : Char) : Option Nat :=
  if [a, b, c, d].all Text.isHexDigit then some (Text.numberOf 16 [a, b, c, d])
  else none

/-- The character that a one-letter escape stands for. -/
def shortEscape? (c : Char) : Option Char :=
  if c = '"' ∨ c = '\\' ∨ c = '/' then some c
  else if c = 'b' then some (Char.ofNat 8)
  else if c = 'f' then some (Char.ofNat 12)
  else if c = 'n' then some '\n'
  else if c = 'r' then some '\r'
  else if c = 't' then some '\t'
  else none

/-- Split off the pieces of a string up to its closing quote.  Control
characters are refused. -/
def scanPieces : List Char → Option (List Piece × List Char)
  | [] => none
  | '"' :: rest => some ([], rest)
  | '\\' :: 'u' :: a :: b :: c :: d :: rest => do
    let code ← hexQuad? a b c d
    let (pieces, rest) ← scanPieces rest
    some (.unit code :: pieces, rest)
  | '\\' :: letter :: rest => do
    let c ← shortEscape? letter
    let (pieces, rest) ← scanPieces rest
    some (.char c :: pieces, rest)
  | c :: rest =>
    if c = '\\' ∨ c.toNat < 32 then none
    else do
      let (pieces, rest) ← scanPieces rest
      some (.char c :: pieces, rest)

/-- The blanks between tokens. -/
def isGap (c : Char) : Bool :=
  c = ' ' || c = '\n' || c = '\t' || c = '\r'

/-- Split off one token. -/
def scanToken : List Char → Option (Token × List Char)
  | '[' :: rest => some (.openList, rest)
  | ']' :: rest => some (.closeList, rest)
  | '{' :: rest => some (.openRecord, rest)
  | '}' :: rest => some (.closeRecord, rest)
  | ',' :: rest => some (.comma, rest)
  | ':' :: rest => some (.colon, rest)
  | '"' :: rest => (scanPieces rest).map fun (pieces, rest) =>
    (.text pieces, rest)
  | 'n' :: 'u' :: 'l' :: 'l' :: rest => some (.null, rest)
  | 't' :: 'r' :: 'u' :: 'e' :: rest => some (.bool true, rest)
  | 'f' :: 'a' :: 'l' :: 's' :: 'e' :: rest => some (.bool false, rest)
  | chars => (scanNumber chars).map fun (spelling, rest) =>
    (.number spelling, rest)

/-- Cut a text into at most so many tokens and gaps. -/
def tokensWithin : Nat → List Char → Option (List Token)
  | _, [] => some []
  | 0, _ :: _ => none
  | steps + 1, c :: rest =>
    if isGap c then tokensWithin steps rest
    else do
      let (token, rest) ← scanToken (c :: rest)
      let tokens ← tokensWithin steps rest
      some (token :: tokens)

/-- Cut a text into tokens.  Every token and every gap takes a character, so
the length of the text bounds their number. -/
def tokens? (text : List Char) : Option (List Token) :=
  tokensWithin text.length text

end ModuleAtlas.Json
