import ModuleAtlas.Domain.Label
import ModuleAtlas.Domain.Mapping
import ModuleAtlas.Domain.Punycode
import ModuleAtlas.Text.Search

/-!
# Domain names in ASCII

A domain name is a row of labels between points.  Its ASCII form has a marked
label in place of each label with other characters.
-/

namespace ModuleAtlas.Domain

/-- Whether all characters are ASCII. -/
def isAscii (text : List Char) : Bool := text.all (·.toNat < 0x80)

/-- What a label begins with that stands for other characters. -/
def asciiMark : List Char := ['x', 'n', '-', '-']

/-- Whether a label is marked as standing for another one. -/
def isMarked (label : List Char) : Bool :=
  (Text.afterStart? asciiMark label).isSome

/-- Characters that may not stand in a domain name. -/
def isDenied (c : Char) : Bool :=
  c.toNat ≤ 32 || c.toNat = 127 || "#%/:<>?@[\\]^|".toList.contains c

/-- The most characters of a label that is written in ASCII. -/
def maxWritten : Nat := 1000

/-- The most characters of a marked label that is read. -/
def maxRead : Nat := 2000

/-- Whether a label that is not ASCII is well-formed. -/
def isWellFormed (label : List Char) : Bool :=
  !isMarked label && !label.head?.any isMark && joinersFit [] label

/-- The characters that a label of a name in normal form stands for; none of
a label that cannot be read. -/
def readLabel? (label : List Char) : Option (List Char) :=
  match Text.afterStart? asciiMark label with
  | some text => do
    guard (isAscii text && text.length ≤ maxRead)
    let read ← Punycode.decode? text
    guard (!isAscii read && isNormal read && isWellFormed read)
    some read
  | none =>
    if isAscii label then some label
    else if isWellFormed label then some label
    else none

/-- The ASCII form of a label. -/
def writeLabel? (label : List Char) : Option (List Char) :=
  if isAscii label then some label
  else if maxWritten < label.length then none
  else some (asciiMark ++ Punycode.encode label)

/-- Whether the order of all labels of a name is plain. -/
def isOrderPlain (labels : List (List Char)) : Bool :=
  let directions := labels.map (·.map direction)
  !directions.any (·.any Direction.isMixing)
    || directions.all isPlainlyOrdered

/-- The ASCII form of a domain name. -/
def toAscii? (name : List Char) : Option (List Char) := do
  let normal ← normalForm? name
  guard (!normal.isEmpty && !normal.any isDenied)
  let labels ← (Text.pieces '.' normal).mapM readLabel?
  guard (isOrderPlain labels)
  let written ← labels.mapM writeLabel?
  some (Text.rejoin '.' written)

end ModuleAtlas.Domain
