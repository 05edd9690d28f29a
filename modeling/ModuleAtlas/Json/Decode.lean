import ModuleAtlas.Json.Written
import ModuleAtlas.Keyed.Names

/-!
# Decoding records of a fixed shape

A decoder reads a typed value from the tree of a document, with so many levels
of containers still allowed.  A record may also be written as a list of its
fields in declaration order.  Fields with unknown names are skipped without
being read; a known name may stand only once.
-/

namespace ModuleAtlas.Json

/-- Reads a value within a number of levels of containers. -/
abbrev Decoder (α : Type) := Nat → Written → Option α

namespace Decoder

def text : Decoder String
  | _, .text pieces => pieceText? pieces
  | _, _ => none

def flag : Decoder Bool
  | _, .bool value => some value
  | _, _ => none

/-- A spelling without sign, point and exponent that fits 64 bits. -/
def countOfSpelling? (spelling : NumberText) : Option UInt64 :=
  let value := digitsValue spelling.whole
  if spelling.negative || spelling.fraction.isSome
      || spelling.exponent.isSome || maxSignificand < value then none
  else some (UInt64.ofNat value)

/-- An integer that fits 64 bits without a sign. -/
def countOfNumber? : Number → Option UInt64
  | .int value =>
    if 0 ≤ value ∧ value.toNat ≤ maxSignificand then
      some (UInt64.ofNat value.toNat)
    else none
  | .float _ => none

/-- An unsigned integer of 64 bits. -/
def count : Decoder UInt64
  | _, .number spelling => countOfSpelling? spelling
  | _, .known value => countOfNumber? value
  | _, _ => none

def value : Decoder Json := Written.toJson?

/-- A value that may be null. -/
def nullable {α : Type} (decoder : Decoder α) : Decoder (Option α)
  | _, .null => some none
  | levels, written => (decoder levels written).map some

def list {α : Type} (decoder : Decoder α) : Decoder (List α)
  | levels + 1, .list items => items.mapM (decoder levels)
  | _, _ => none

/-- A mapping from names to values; a repeated name takes its last value. -/
def mapping {α : Type} (decoder : Decoder α) : Decoder (Keyed α)
  | levels + 1, .record fields =>
    (fields.mapM fun (name, written) => do
      let name ← pieceText? name
      let value ← decoder levels written
      some (name, value)).map Keyed.ofList
  | _, _ => none

end Decoder

/-- The fields of a record as found in a document. -/
structure Fields where
  /-- What was written for each field, in declaration order. -/
  found : List (String × Option Written)
  /-- Whether the record was written as a list. -/
  positional : Bool
  /-- The levels of containers still allowed inside the fields. -/
  levels : Nat

/-- Set what was found for a field; none when it was found before. -/
def Fields.place (name : String) (written : Written) :
    List (String × Option Written) → Option (List (String × Option Written))
  | [] => some []
  | (known, found) :: rest =>
    if known = name then
      if found.isSome then none else some ((known, some written) :: rest)
    else (place name written rest).map ((known, found) :: ·)

/-- Place named fields one after another. -/
def Fields.placeAll :
    List (List Piece × Written) → List (String × Option Written) →
      Option (List (String × Option Written))
  | [], found => some found
  | (name, written) :: rest, found => do
    let name ← pieceText? name
    let found ← Fields.place name written found
    Fields.placeAll rest found

/-- Pair the names of fields with the items of a list; none when there are
more items than names. -/
def Fields.align :
    List String → List Written → Option (List (String × Option Written))
  | names, [] => some (names.map fun name => (name, none))
  | [], _ :: _ => none
  | name :: names, item :: items =>
    (align names items).map ((name, some item) :: ·)

/-- Find the fields of a record with these names. -/
def Fields.decode (names : List String) : Decoder Fields
  | levels + 1, .record fields =>
    (Fields.placeAll fields (names.map fun name => (name, none))).map
      fun found => ⟨found, false, levels⟩
  | levels + 1, .list items =>
    (Fields.align names items).map fun found => ⟨found, true, levels⟩
  | _, _ => none

namespace Fields

/-- What was written for a field. -/
def get? (fields : Fields) (name : String) : Option Written :=
  (lookupRow name fields.found).join

/-- A field that takes a default when it is absent. -/
def optional {α : Type} (fields : Fields) (name : String) (fallback : α)
    (decoder : Decoder α) : Option α :=
  match fields.get? name with
  | none => some fallback
  | some written => decoder fields.levels written

/-- A field that must be present. -/
def required {α : Type} (fields : Fields) (name : String)
    (decoder : Decoder α) : Option α :=
  (fields.get? name).bind (decoder fields.levels)

/-- A field that may be null, and absent unless the record is a list. -/
def absentable {α : Type} (fields : Fields) (name : String)
    (decoder : Decoder α) : Option (Option α) :=
  match fields.get? name with
  | none => if fields.positional then none else some none
  | some written => decoder.nullable fields.levels written

end Fields

/-- Decode a document from its text. -/
def decodeText? {α : Type} (decoder : Decoder α) (text : String) : Option α :=
  (Written.ofText? text).bind (decoder maxDepth)

/-- Decode a value that was read before. -/
def decode? {α : Type} (decoder : Decoder α) (value : Json) : Option α :=
  decoder maxDepth value.written

end ModuleAtlas.Json
