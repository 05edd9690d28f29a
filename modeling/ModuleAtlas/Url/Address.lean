import ModuleAtlas.Text.Digits
import ModuleAtlas.Text.Search

/-!
# Numeric addresses of hosts

A short address has 32 bits and is written as four numbers; read, it may have
fewer and larger ones, in three bases.  A long address has eight pieces of 16
bits; a run of zeros may be left out of it once.
-/

namespace ModuleAtlas

/-- An address of 32 bits. -/
abbrev ShortAddress := UInt32

/-- An address of eight pieces. -/
abbrev LongAddress := Vector UInt16 8

namespace ShortAddress

/-- The base of a number and its digits. -/
def splitBase : List Char → Nat × List Char
  | '0' :: 'x' :: digits => (16, digits)
  | '0' :: 'X' :: digits => (16, digits)
  | '0' :: digit :: digits => (8, digit :: digits)
  | digits => (10, digits)

/-- A number of an address.  The mark of a base alone stands for zero. -/
def number? (text : List Char) : Option Nat :=
  let (base, digits) := splitBase text
  if text ≠ [] ∧ digits.all fun c => (Text.hexValue? c).any (· < base) then
    some (Text.numberOf base digits)
  else none

/-- The labels of a name, apart from an empty one at its end. -/
def parts (name : List Char) : List (List Char) :=
  match (Text.pieces '.' name).reverse with
  | [] :: before :: others => (before :: others).reverse
  | labels => labels.reverse

/-- Whether a name has to be an address, because its last label is a
number. -/
def isExpected (name : List Char) : Bool :=
  match (parts name).getLast? with
  | some last =>
    (last ≠ [] && last.all Char.isDigit) || (number? last).isSome
  | none => false

/-- Put the numbers of an address together: the last one fills what the others
leave, and they take a byte each. -/
def ofNumbers? (numbers : List Nat) : Option ShortAddress :=
  match numbers.reverse with
  | [] => none
  | last :: others =>
    let room := Nat.pow 256 (4 - others.length)
    if 3 < others.length || room ≤ last || others.any (255 < ·) then none
    else
      let front := others.reverse.foldl (· * 256 + ·) 0
      some (front * room + last).toUInt32

def ofName? (name : List Char) : Option ShortAddress :=
  ((parts name).mapM number?).bind ofNumbers?

/-- The four numbers of an address. -/
def toText (address : ShortAddress) : String :=
  let bytes := [3, 2, 1, 0].map fun place =>
    address.toNat / Nat.pow 256 place % 256
  ".".intercalate (bytes.map fun byte => toString byte)

end ShortAddress

namespace LongAddress

/-- A piece of up to four hexadecimal digits. -/
def piece? (text : List Char) : Option Nat :=
  if text ≠ [] ∧ text.length ≤ 4 ∧ text.all Text.isHexDigit then
    some (Text.numberOf 16 text)
  else none

/-- A decimal byte without idle zeros. -/
def byte? (text : List Char) : Option Nat :=
  let value := Text.numberOf 10 text
  if text.all Char.isDigit ∧ value < 256
    ∧ text = (toString value).toList then some value
  else none

/-- The two pieces of a short address at the end of a long one. -/
def tail? (text : List Char) : Option (List Nat) := do
  match ← (Text.pieces '.' text).mapM byte? with
  | [a, b, c, d] => some [a * 256 + b, c * 256 + d]
  | _ => none

/-- The pieces between colons; only the last may be a short address. -/
def pieces? (mayHaveTail : Bool) : List (List Char) → Option (List Nat)
  | [] => some []
  | [last] =>
    if mayHaveTail && last.contains '.' then tail? last
    else (piece? last).map ([·])
  | first :: rest => do
    some ((← piece? first) :: (← pieces? mayHaveTail rest))

/-- The pieces of a text, which may be empty. -/
def group? (mayHaveTail : Bool) (text : List Char) : Option (List Nat) :=
  if text.isEmpty then some []
  else pieces? mayHaveTail (Text.pieces ':' text)

/-- An address of eight pieces. -/
def ofPieces? (pieces : List Nat) : Option LongAddress :=
  let words := pieces.map Nat.toUInt16
  if size : words.length = 8 then some ⟨words.toArray, by simpa using size⟩
  else none

/-- Read an address.  Two colons stand for at least one piece that is
zero. -/
def ofText? (text : List Char) : Option LongAddress := do
  match Text.splitAt? [':', ':'] text with
  | none => ofPieces? (← group? true text)
  | some (before, after) =>
    let front ← group? false before
    let back ← group? true after
    let missing := 8 - (front.length + back.length)
    if missing = 0 then none
    else ofPieces? (front ++ List.replicate missing 0 ++ back)

/-- The length of the run of zeros at the start. -/
def zeros (pieces : List UInt16) : Nat := (pieces.takeWhile (· = 0)).length

/-- Where the first of the longest runs of zeros begins; none of a single
zero. -/
def longestZeros? (pieces : List UInt16) : Option Nat :=
  let run := fun place => zeros (pieces.drop place)
  let best := (List.range pieces.length).foldl
    (fun best place => if run best < run place then place else best) 0
  if run best < 2 then none else some best

/-- Pieces between colons. -/
def piecesText (pieces : List UInt16) : String :=
  ":".intercalate
    (pieces.map fun piece => String.ofList (Nat.toDigits 16 piece.toNat))

/-- The shortest text of an address. -/
def toText (address : LongAddress) : String :=
  let pieces := address.toList
  match longestZeros? pieces with
  | none => piecesText pieces
  | some place =>
    let behind := pieces.drop place
    piecesText (pieces.take place) ++ "::"
      ++ piecesText (behind.drop (zeros behind))

end LongAddress

end ModuleAtlas
