import ModuleAtlas.Proofs.Keyed
import ModuleAtlas.Proofs.Literal.Grammar

/-!
# Spellings of a literal

The tree of a literal says what stands in it: integers of 64 bits, and
mappings whose entries keep their order and repetitions.  A tree has many
spellings.  Blanks and comments stand between tokens, constants have two words,
strings two kinds of quotes and several escapes, lists two kinds of brackets,
and a comma may follow the last item.

The spellings are said here by the tree and its exact text, without the reader
and without anything about where a token ends.  Each of them is derived in the
grammar of the reader, provided that what stands behind cannot go on a number
or a word.
-/

namespace ModuleAtlas.Literal

/-! ## Trees -/

/-- What stands in a literal. -/
inductive Tree where
  | null
  | bool (value : Bool)
  | int (value : Int64)
  | text (value : String)
  | list (items : List Tree)
  | mapping (entries : List (String × Tree))
deriving Inhabited

namespace Tree

mutual

/-- The value of a literal.  The last of the entries with one key counts. -/
def meaning : Tree → Json
  | .null => .null
  | .bool value => .bool value
  | .int value => .ofInt value.toInt
  | .text value => .text value
  | .list items => .list (itemMeanings items)
  | .mapping entries => .record (Keyed.ofList (entryMeanings entries)).entries

/-- The values of the items of a list. -/
def itemMeanings : List Tree → List Json
  | [] => []
  | item :: rest => meaning item :: itemMeanings rest

/-- The values of the entries of a mapping, in order. -/
def entryMeanings : List (String × Tree) → List (String × Json)
  | [] => []
  | (name, value) :: rest => (name, meaning value) :: entryMeanings rest

end

mutual

/-- The depth at which the deepest part of a literal stands. -/
def depth : Tree → Nat
  | .list items => itemsDepth items
  | .mapping entries => entriesDepth entries
  | _ => 0

/-- The depth of the deepest item of a list. -/
def itemsDepth : List Tree → Nat
  | [] => 0
  | item :: rest => max (depth item + 1) (itemsDepth rest)

/-- The depth of the deepest value of a mapping. -/
def entriesDepth : List (String × Tree) → Nat
  | [] => 0
  | (_, value) :: rest => max (depth value + 1) (entriesDepth rest)

end

theorem itemMeanings_eq_map (items : List Tree) :
    itemMeanings items = items.map meaning := by
  induction items with
  | nil => rfl
  | cons item rest step => rw [itemMeanings, step, List.map_cons]

theorem entryMeanings_eq_map (entries : List (String × Tree)) :
    entryMeanings entries =
      entries.map fun entry => (entry.1, entry.2.meaning) := by
  induction entries with
  | nil => rfl
  | cons entry rest step => rw [entryMeanings, step, List.map_cons]

/-- In the value of a mapping, a repeated key has its last value. -/
theorem meaning_mapping (entries : List (String × Tree)) :
    ∃ rows, (mapping entries).meaning = .record rows ∧ Ascending rows ∧
      ∀ name, lookupRow name rows =
        (lookupRow name entries.reverse).map meaning := by
  refine ⟨_, by rw [meaning], Keyed.ascending _, fun name => ?_⟩
  rw [← Keyed.find?, Keyed.find?_ofList_eq_lookupRow, entryMeanings_eq_map,
    ← List.map_reverse, lookupRow_map]

theorem depth_lt_itemsDepth {item : Tree} {items : List Tree}
    (member : item ∈ items) : item.depth < itemsDepth items := by
  induction items with
  | nil => exact absurd member List.not_mem_nil
  | cons first rest step =>
    rw [itemsDepth]
    rcases List.mem_cons.1 member with rfl | inside
    · exact Nat.le_max_left _ _
    · exact Nat.lt_of_lt_of_le (step inside) (Nat.le_max_right _ _)

theorem entriesDepth_eq_itemsDepth (entries : List (String × Tree)) :
    entriesDepth entries = itemsDepth (entries.map Prod.snd) := by
  induction entries with
  | nil => rfl
  | cons entry rest step =>
    rw [entriesDepth, step, List.map_cons, itemsDepth]

theorem depth_lt_entriesDepth {entry : String × Tree}
    {entries : List (String × Tree)} (member : entry ∈ entries) :
    entry.2.depth < entriesDepth entries := by
  rw [entriesDepth_eq_itemsDepth]
  exact depth_lt_itemsDepth (List.mem_map_of_mem member)

end Tree

/-! ## Spellings -/

/-- Blanks and comments between two tokens.  Every comment ends with its
line. -/
inductive Space : List Char → Prop where
  | none : Space []
  | blank {c : Char} {text : List Char} :
      Text.isBlank c = true → Space text → Space (c :: text)
  | comment {line text : List Char} :
      '\n' ∉ line → Space text → Space ('#' :: (line ++ '\n' :: text))

/-- How a character may stand in a string between two such quotes. -/
inductive Stands (quote : Char) : Char → List Char → Prop where
  | raw {c : Char} : c ≠ quote → c ≠ '\\' → c ≠ '\n' → Stands quote c [c]
  | newline : Stands quote '\n' ['\\', 'n']
  | tab : Stands quote '\t' ['\\', 't']
  | carriageReturn : Stands quote '\r' ['\\', 'r']
  | nul : Stands quote (Char.ofNat 0) ['\\', '0']
  | itself {c : Char} :
      c ∉ ['n', 't', 'r', '0', 'u'] → Stands quote c ['\\', c]
  | code {c : Char} {digits : List Char} :
      digits.length = 4 → (∀ digit ∈ digits, Text.isHexDigit digit = true) →
      Text.numberOf 16 digits = c.toNat →
      Stands quote c ('\\' :: 'u' :: digits)

/-- A string between two quotes of one kind. -/
inductive Quoted : String → List Char → Prop where
  | mk {quote : Char} {value : String} {pieces : List (List Char)} :
      quote = '"' ∨ quote = '\'' →
      List.Forall₂ (Stands quote) value.toList pieces →
      Quoted value (quote :: (pieces.flatten ++ [quote]))

/-- A string without the quote, backslashes and newlines stands as it is. -/
theorem Quoted.raw {quote : Char} (quoted : quote = '"' ∨ quote = '\'')
    {value : String}
    (plain : value.toList.all fun c => c ≠ quote ∧ c ≠ '\\' ∧ c ≠ '\n') :
    Quoted value (quote :: (value.toList ++ [quote])) := by
  have pieces : List.Forall₂ (Stands quote) value.toList
      (value.toList.map ([·])) := by
    rw [List.forall₂_map_right_iff, List.forall₂_same]
    intro c member
    obtain ⟨notQuote, noEscape, noNewline⟩ :=
      of_decide_eq_true (List.all_eq_true.1 plain c member)
    exact .raw notQuote noEscape noNewline
  have spelled : Quoted value _ := .mk quoted pieces
  rwa [← List.flatMap_def, List.flatMap_singleton'] at spelled

/-- Digits, with underscores behind the first of them. -/
inductive Digits : Nat → List Char → Prop where
  | mk {first : Char} {more : List Char} :
      first.isDigit = true → (∀ c ∈ more, c.isDigit = true ∨ c = '_') →
      Digits (Decimal.digitsValue (first :: more.filter (· ≠ '_')))
        (first :: more)

/-- Digits with an optional sign. -/
inductive Numeral : Int → List Char → Prop where
  | bare {value : Nat} {digits : List Char} :
      Digits value digits → Numeral value digits
  | plus {value : Nat} {digits : List Char} :
      Digits value digits → Numeral value ('+' :: digits)
  | minus {value : Nat} {digits : List Char} :
      Digits value digits → Numeral (-value) ('-' :: digits)

/-- Items with a comma between two of them.  In front of no further items, the
comma of `more` is the one that may follow the last item. -/
inductive Separated : List (List Char) → List Char → Prop where
  | none {space : List Char} : Space space → Separated [] space
  | last {before item behind : List Char} :
      Space before → Space behind →
      Separated [item] (before ++ (item ++ behind))
  | more {before item behind text : List Char} {items : List (List Char)} :
      Space before → Space behind → Separated items text →
      Separated (item :: items) (before ++ (item ++ (behind ++ ',' :: text)))

/-- An entry of a mapping with its spelling. -/
structure EntrySpelling where
  name : String
  key : List Char
  beforeColon : List Char
  behindColon : List Char
  value : Tree
  text : List Char

namespace EntrySpelling

/-- The entry that is spelled. -/
def entry (spelling : EntrySpelling) : String × Tree :=
  (spelling.name, spelling.value)

/-- The text of an entry. -/
def chars (spelling : EntrySpelling) : List Char :=
  spelling.key ++ (spelling.beforeColon
    ++ ':' :: (spelling.behindColon ++ spelling.text))

/-- The key is spelled, and its colon stands between spaces. -/
structure Keyed (spelling : EntrySpelling) : Prop where
  key : Quoted spelling.name spelling.key
  beforeColon : Space spelling.beforeColon
  behindColon : Space spelling.behindColon

end EntrySpelling

/-- A text is a spelling of a literal. -/
inductive Spelled : Tree → List Char → Prop where
  | null {word : String} :
      word ∈ ["None", "null"] → Spelled .null word.toList
  | true {word : String} :
      word ∈ ["True", "true"] → Spelled (.bool .true) word.toList
  | false {word : String} :
      word ∈ ["False", "false"] → Spelled (.bool .false) word.toList
  | int {value : Int64} {text : List Char} :
      Numeral value.toInt text → Spelled (.int value) text
  | text {value : String} {text : List Char} :
      Quoted value text → Spelled (.text value) text
  | list {opening closing : Char} {items : List (Tree × List Char)}
      {inside : List Char} :
      (opening, closing) ∈ [('[', ']'), ('(', ')')] →
      (∀ item ∈ items, Spelled item.1 item.2) →
      Separated (items.map Prod.snd) inside →
      Spelled (.list (items.map Prod.fst))
        (opening :: (inside ++ [closing]))
  | mapping {entries : List EntrySpelling} {inside : List Char} :
      (∀ entry ∈ entries, entry.Keyed) →
      (∀ entry ∈ entries, Spelled entry.value entry.text) →
      Separated (entries.map EntrySpelling.chars) inside →
      Spelled (.mapping (entries.map EntrySpelling.entry))
        ('{' :: (inside ++ ['}']))

/-- A whole text that spells a literal between spaces.  A comment behind the
literal may end with the text. -/
inductive Wholly (tree : Tree) : List Char → Prop where
  | mk {before text behind : List Char} :
      Space before → Spelled tree text → Gap behind [] →
      Wholly tree (before ++ (text ++ behind))

end ModuleAtlas.Literal
