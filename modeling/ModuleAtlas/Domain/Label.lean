import ModuleAtlas.Domain.Label.Table
import ModuleAtlas.Text.Composition
import ModuleAtlas.Text.Letters

/-!
# Labels of domain names

Which labels can be read unambiguously: a label does not begin with a mark, a
joiner stands where it changes how letters join, and a label that is
written from right to left keeps the rules which make its order plain.
-/

namespace ModuleAtlas.Domain

/-- Whether a character lies in the class with these bounds. -/
def isWithin (bounds : List Nat) (c : Char) : Bool :=
  Text.isBetween bounds c.toNat

/-- A mark that takes up no room of its own. -/
def isNonspacing (c : Char) : Bool := isWithin nonspacingBounds c

def isMark (c : Char) : Bool := isNonspacing c || isWithin spacingBounds c

/-! ## Joiners -/

/-- The sign that keeps letters apart. -/
def nonJoiner : Char := Char.ofNat 0x200C

/-- The sign that joins letters. -/
def joiner : Char := Char.ofNat 0x200D

/-- The combining class of the marks that remove a vowel. -/
def viramaClass : Nat := 9

/-- A character through which its neighbours join. -/
def isTransparent (c : Char) : Bool :=
  isNonspacing c || c.toNat = 0x1E94B

/-- A letter that joins what follows. -/
def joinsOnward (c : Char) : Bool :=
  isWithin dualJoiningBounds c || isWithin leftJoiningBounds c

/-- A letter that joins what precedes. -/
def joinsBackward (c : Char) : Bool :=
  isWithin dualJoiningBounds c || isWithin rightJoiningBounds c

/-- Whether a text, apart from transparent characters in front of it, begins
with a character of some kind. -/
def beginsWith (kind : Char → Bool) (text : List Char) : Bool :=
  (text.dropWhile isTransparent).head?.any kind

/-- Whether a joiner may stand between two texts, the first of which is
given from its end. -/
def mayJoin (c : Char) (before after : List Char) : Bool :=
  before.head?.any (Text.combiningClass · = viramaClass)
    || (c = nonJoiner && beginsWith joinsOnward before
      && beginsWith joinsBackward after)

/-- Whether all joiners of a text may stand where they do; the first argument
holds what precedes, from its end. -/
def joinersFit : List Char → List Char → Bool
  | _, [] => true
  | before, c :: after =>
    (if c = nonJoiner || c = joiner then mayJoin c before after else true)
      && joinersFit (c :: before) after

/-! ## Directions -/

/-- How a character takes part in the order of a line. -/
inductive Direction where
  | leftToRight
  | rightToLeft
  | europeanNumber
  | arabicNumber
  | neutral
  /-- It goes with the character before it. -/
  | attached
deriving DecidableEq, Repr

/-- Marks that run from left to right nevertheless. -/
def directedMarks : List Nat := [0xCBF, 0xCC6, 0x11A07, 0x11A08, 0x11C3F]

/-- The direction of a character. -/
def direction (c : Char) : Direction :=
  if isWithin rightToLeftBounds c then .rightToLeft
  else if isWithin arabicNumberBounds c then .arabicNumber
  else if isWithin europeanNumberBounds c then .europeanNumber
  else if isWithin neutralBounds c then .neutral
  else if directedMarks.contains c.toNat then .leftToRight
  else if isNonspacing c || c.toNat = 0x1171E then .attached
  else .leftToRight

/-- Whether characters with this direction need the rules for both
directions. -/
def Direction.isMixing : Direction → Bool
  | .rightToLeft | .arabicNumber => true
  | _ => false

/-- Whether directions end well: apart from attached characters, the last one
is among some. -/
def endsIn (ends directions : List Direction) : Bool :=
  (directions.reverse.dropWhile (· = .attached)).head?.any ends.contains

/-- Whether the directions of a label make its order plain. -/
def isPlainlyOrdered (directions : List Direction) : Bool :=
  match directions with
  | [] => true
  | .leftToRight :: _ =>
    directions.all [.leftToRight, .europeanNumber, .neutral,
      .attached].contains
      && endsIn [.leftToRight, .europeanNumber] directions
  | .rightToLeft :: _ =>
    directions.all [.rightToLeft, .arabicNumber, .europeanNumber, .neutral,
      .attached].contains
      && endsIn [.rightToLeft, .arabicNumber, .europeanNumber] directions
      && !(directions.contains .arabicNumber
        && directions.contains .europeanNumber)
  | _ => false

end ModuleAtlas.Domain
