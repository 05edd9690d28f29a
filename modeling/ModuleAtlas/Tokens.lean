import ModuleAtlas.Json.Decode
import ModuleAtlas.Text.Blank
import ModuleAtlas.Text.Letters

/-!
# Token counts

The size of a text is measured in tokens: either estimated from its number of
characters, or counted with a word tokenizer read from its definition.
-/

namespace ModuleAtlas

/-- Tokens of so many characters each, the last one possibly shorter; no token
has fewer than one character. -/
def estimateTokens (charsPerToken : Nat) (text : String) : Nat :=
  let width := max charsPerToken 1
  (text.length + (width - 1)) / width

/-- The estimate when nothing else is known. -/
def defaultCharsPerToken : Nat := 4

/-- How a tokenizer cuts a text into words. -/
inductive WordSplit where
  /-- The whole text is one word. -/
  | whole
  /-- Words end at blanks. -/
  | blanks
  /-- Runs of word characters and runs of other visible characters. -/
  | runs
deriving DecidableEq, Repr

/-- A tokenizer that knows whole words. -/
structure WordTokenizer where
  split : WordSplit
  vocabulary : Keyed UInt64
  /-- The word that stands for unknown ones. -/
  unknown : String

namespace WordSplit

/-- Whether two neighbouring characters belong to the same word. -/
def joins (split : WordSplit) (left right : Char) : Bool :=
  match split with
  | .whole => true
  | .blanks => Text.isBlank left == Text.isBlank right
  | .runs =>
    Text.isBlank left == Text.isBlank right
      && Text.isWordChar left == Text.isWordChar right

/-- Whether a run of characters is a word. -/
def isWord (split : WordSplit) (run : List Char) : Bool :=
  match split with
  | .whole => !run.isEmpty
  | .blanks | .runs => !run.all Text.isBlank

/-- The words of a text. -/
def words (split : WordSplit) (text : String) : List String :=
  ((text.toList.splitBy split.joins).filter split.isWord).map String.ofList

end WordSplit

namespace WordTokenizer

/-- The number of tokens of a text: one per word.  Without a token for unknown
words, a text with such a word is estimated instead. -/
def count (tokenizer : WordTokenizer) (text : String) : Nat :=
  let words := tokenizer.split.words text
  if words.all tokenizer.vocabulary.contains
      || tokenizer.vocabulary.contains tokenizer.unknown then
    words.length
  else estimateTokens defaultCharsPerToken text

open Json (Decoder Written)

/-- A field of a definition that must be null where it is given. -/
def decodeNothing : Json.Decoder Unit
  | _, .null => some ()
  | _, _ => none

/-- The name of a type: a text, or a record that gives the name no content. -/
def typeName? : Json → Option String
  | .text name => some name
  | .record [(name, .null)] => some name
  | _ => none

/-- The way to split words, named by its type. -/
def decodeSplit : Json.Decoder WordSplit
  | levels, written =>
    match Decoder.value levels written with
    | some .null => some .whole
    | some (.record fields) =>
      match (lookupRow "type" fields).bind typeName? with
      | some "Whitespace" => some .runs
      | some "WhitespaceSplit" => some .blanks
      | _ => none
    | _ => none

def maxToken : Nat := 4294967295

/-- A number of a token. -/
def decodeToken : Json.Decoder UInt64
  | levels, written =>
    (Decoder.count levels written).filter fun token =>
      token.toNat ≤ maxToken

/-- How often a record has a field with a name. -/
def repetitions (name : String) : Written → Nat
  | .record fields =>
    (fields.filter fun (field, _) =>
      decide (Json.pieceText? field = some name)).length
  | _ => 0

/-- Whether the type of a model, which is left out or stands once, is that of
whole words. -/
def hasWordType (written : Written) (fields : List (String × Json)) : Bool :=
  match repetitions "type" written, lookupRow "type" fields with
  | 0, _ => true
  | 1, some kind => decide (typeName? kind = some "WordLevel")
  | _, _ => false

/-- The vocabulary and the word for unknown ones. -/
def decodeModel : Json.Decoder (Keyed UInt64 × String)
  | levels, written =>
    match Decoder.value levels written with
    | some (.record fields) => do
      guard (hasWordType written fields)
      let vocabulary ← (lookupRow "vocab" fields).bind
        (Json.decode? (Decoder.mapping decodeToken))
      let unknown ← (lookupRow "unk_token" fields).bind
        (Json.decode? Decoder.text)
      some (vocabulary, unknown)
    | _ => none

/-- A definition that is read field by field. -/
structure Draft where
  split : WordSplit
  model : Option (Keyed UInt64 × String)

/-- Read one field of a definition.  A field that was read before is
replaced. -/
def decodeField (levels : Nat) (draft : Draft) :
    List Json.Piece × Written → Option Draft
  | (name, written) => do
    let name ← Json.pieceText? name
    match name with
    | "version" =>
      guard ((← Decoder.text levels written) = "1.0")
      some draft
    | "truncation" | "padding" | "normalizer" | "post_processor"
    | "decoder" =>
      decodeNothing levels written
      some draft
    | "added_tokens" =>
      guard (← Decoder.list Decoder.value levels written).isEmpty
      some draft
    | "pre_tokenizer" =>
      some { draft with split := ← decodeSplit levels written }
    | "model" =>
      some { draft with model := some (← decodeModel levels written) }
    | _ => none

/-- Read a definition.  All of its fields must be known. -/
def decode : Json.Decoder WordTokenizer
  | levels + 1, .record fields => do
    let draft ← fields.foldlM (decodeField levels) ⟨.whole, none⟩
    let (vocabulary, unknown) ← draft.model
    some { split := draft.split, vocabulary, unknown }
  | _, _ => none

/-- Read the definition of a tokenizer. -/
def ofText? (text : String) : Option WordTokenizer :=
  Json.decodeText? decode text

end WordTokenizer

end ModuleAtlas
