import ModuleAtlas.Text.Digits

/-!
# Escapes in URLs

A character that may not stand in some part of a URL is written there as its
bytes, each as a percent sign and two hexadecimal digits.  Control characters
and all characters beyond ASCII are always written so; which others are
depends on the part.
-/

namespace ModuleAtlas.Url

/-- Marks that are escaped in a fragment. -/
def fragmentMarks : List Char := [' ', '"', '<', '>', '`']

/-- Marks that are escaped in a path. -/
def pathMarks : List Char :=
  fragmentMarks ++ ['#', '?', Char.ofNat 0x7B, Char.ofNat 0x7D]

/-- Marks that are escaped in the name and the password of a user. -/
def credentialMarks : List Char :=
  pathMarks ++ ['/', ':', ';', '=', '@', '[', '\\', ']', '^', '|']

/-- Marks that are escaped in a query; of a special URL the apostrophe is one
of them. -/
def queryMarks (isSpecial : Bool) : List Char :=
  [' ', '"', '#', '<', '>'] ++ if isSpecial then ['\''] else []

/-- Write a character as its bytes. -/
def escapeChar (c : Char) : List Char :=
  c.toString.toUTF8.toList.flatMap fun byte => '%' :: Text.byteDigits byte

/-- Escape the characters that may not stand in some part of a URL. -/
def escape (marks text : List Char) : List Char :=
  text.flatMap fun c =>
    if c.toNat < 32 || 127 ≤ c.toNat || marks.contains c then escapeChar c
    else [c]

/-- The bytes of a text with escapes. -/
def unescape : List Char → List UInt8
  | [] => []
  | '%' :: high :: low :: rest =>
    if Text.isHexDigit high && Text.isHexDigit low then
      (Text.numberOf 16 [high, low]).toUInt8 :: unescape rest
    else '%'.toNat.toUInt8 :: unescape (high :: low :: rest)
  | c :: rest => c.toString.toUTF8.toList ++ unescape rest

/-- The text that a text with escapes stands for, when its bytes are one. -/
def unescape? (text : List Char) : Option (List Char) :=
  (String.fromUTF8? ⟨(unescape text).toArray⟩).map String.toList

end ModuleAtlas.Url
