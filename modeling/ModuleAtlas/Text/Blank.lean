/-!
# Blank characters and trimming

A character is blank when it has the White_Space property.  Trimming removes
the longest blank runs at both ends of a text.
-/

namespace ModuleAtlas.Text

/-- The characters with the White_Space property. -/
def isBlank (c : Char) : Bool :=
  let code := c.toNat
  (9 ≤ code && code ≤ 13) || code = 0x20 || code = 0x85 || code = 0xA0
    || code = 0x1680 || (0x2000 ≤ code && code ≤ 0x200A)
    || code = 0x2028 || code = 0x2029 || code = 0x202F
    || code = 0x205F || code = 0x3000

/-- Remove the blank run at the end. -/
def trimEndList (text : List Char) : List Char :=
  (text.reverse.dropWhile isBlank).reverse

/-- Remove the blank runs at both ends. -/
def trimList (text : List Char) : List Char :=
  trimEndList (text.dropWhile isBlank)

/-- Remove the blank runs at both ends of a text. -/
def trim (text : String) : String :=
  String.ofList (trimList text.toList)

/-- A text without a single visible character. -/
def isBlankText (text : String) : Bool :=
  text.toList.all isBlank

@[simp]
theorem trimList_nil : trimList [] = [] := rfl

end ModuleAtlas.Text
