/-!
# Texts from bytes

Bytes that spell a text in UTF-8 are read as this text.  Of other bytes as much
is read as can be: a character that is begun and does not go on becomes a
replacement character, and so does a byte that begins none.
-/

namespace ModuleAtlas

namespace Text

/-- The mark that may stand in front of a text to tell its encoding. -/
def encodingMark : Char := Char.ofNat 0xFEFF

/-- A text without the mark in front of it. -/
def withoutMark (text : String) : String :=
  match text.toList with
  | [] => text
  | c :: rest => if c = encodingMark then String.ofList rest else text

end Text

namespace Utf8

/-- What stands for bytes that spell no character. -/
def replacement : Char := Char.ofNat 0xFFFD

/-- A character whose last bytes are still to come. -/
structure Begun where
  lacking : Nat
  value : Nat
  /-- The least byte that may come next. -/
  least : Nat := 0x80
  /-- The greatest byte that may come next. -/
  most : Nat := 0xBF

/-- Read a first byte.  Some numbers have two spellings and others are no
characters; the bounds of the second byte leave these out. -/
def start (byte : Nat) : List Char × Option Begun :=
  if byte < 0x80 then ([Char.ofNat byte], none)
  else if 0xC2 ≤ byte && byte < 0xE0 then
    ([], some { lacking := 1, value := byte - 0xC0 })
  else if 0xE0 ≤ byte && byte < 0xF0 then
    ([], some {
      lacking := 2
      value := byte - 0xE0
      least := if byte = 0xE0 then 0xA0 else 0x80
      most := if byte = 0xED then 0x9F else 0xBF })
  else if 0xF0 ≤ byte && byte < 0xF5 then
    ([], some {
      lacking := 3
      value := byte - 0xF0
      least := if byte = 0xF0 then 0x90 else 0x80
      most := if byte = 0xF4 then 0x8F else 0xBF })
  else ([replacement], none)

/-- Read a byte after a character that may be begun. -/
def next (begun : Option Begun) (byte : Nat) : List Char × Option Begun :=
  match begun with
  | none => start byte
  | some begun =>
    if begun.least ≤ byte && byte ≤ begun.most then
      let value := begun.value * 64 + (byte - 0x80)
      if begun.lacking = 1 then ([Char.ofNat value], none)
      else ([], some { lacking := begun.lacking - 1, value })
    else
      let (chars, following) := start byte
      (replacement :: chars, following)

/-- Read all bytes after a character that may be begun. -/
def readFrom (begun : Option Begun) : List UInt8 → List Char
  | [] => if begun.isSome then [replacement] else []
  | byte :: rest =>
    let (chars, following) := next begun byte.toNat
    chars ++ readFrom following rest

/-- The text of bytes. -/
def decode (bytes : ByteArray) : String :=
  match String.fromUTF8? bytes with
  | some text => text
  | none => String.ofList (readFrom none bytes.toList)

end Utf8

end ModuleAtlas
