import Mathlib.Data.List.Basic
import ModuleAtlas.Literal.Reader

/-!
# The grammar of the literal dialect

A relation of the grammar ties a text to a value that is spelled in front of it
and to what is left behind the spelling.  Gaps of blanks and comments stand
between the parts.  Numbers and words are runs of characters, so they end where
another character stands.  Values are spelled within a number of levels, and
the reader reads each of them.
-/

namespace ModuleAtlas.Literal

universe u

/-- What is spelled in front of a text, with what is left behind it. -/
abbrev Spelling (α : Type u) := List Char → α → List Char → Prop

/-! ## Gaps -/

/-- Blanks and comments; a comment ends with its line or with the text. -/
inductive Gap : List Char → List Char → Prop where
  | stop (text : List Char) : Gap text text
  | blank {c : Char} {text rest : List Char} :
      Text.isBlank c = true → Gap text rest → Gap (c :: text) rest
  | comment {line text rest : List Char} :
      '\n' ∉ line → Gap text rest → Gap ('#' :: (line ++ '\n' :: text)) rest
  | lastComment {line : List Char} : '\n' ∉ line → Gap ('#' :: line) []

/-- No gap goes on at the start of a text. -/
def Clear (text : List Char) : Prop :=
  ∀ c ∈ text.head?, Text.isBlank c = false ∧ c ≠ '#'

theorem Gap.length_le {text rest : List Char} (gap : Gap text rest) :
    rest.length ≤ text.length := by
  induction gap with
  | stop => exact Nat.le_refl _
  | blank _ _ step => exact Nat.le_succ_of_le step
  | comment _ _ step =>
    simp only [List.length_cons, List.length_append]
    omega
  | lastComment => exact Nat.zero_le _

theorem skipFrom_comment {line : List Char} (inside : '\n' ∉ line)
    (offset : Nat) (text : List Char) :
    Cursor.skipFrom true offset (line ++ '\n' :: text) =
      Cursor.skipFrom false (offset + line.length + 1) text := by
  induction line generalizing offset with
  | nil => simp [Cursor.skipFrom]
  | cons c line step =>
    rw [List.mem_cons, not_or] at inside
    rw [List.cons_append, Cursor.skipFrom, if_pos rfl,
      decide_eq_true (Ne.symm inside.1), step inside.2, List.length_cons]
    congr 1
    omega

theorem skipFrom_lastComment {line : List Char} (inside : '\n' ∉ line)
    (offset : Nat) :
    (Cursor.skipFrom true offset line).rest = [] := by
  induction line generalizing offset with
  | nil => rfl
  | cons c line step =>
    rw [List.mem_cons, not_or] at inside
    rw [Cursor.skipFrom, if_pos rfl, decide_eq_true (Ne.symm inside.1),
      step inside.2]

/-- Skipping stops behind a gap that cannot go on. -/
theorem skipFrom_gap {text rest : List Char} (gap : Gap text rest)
    (clear : Clear rest) (offset : Nat) :
    (Cursor.skipFrom false offset text).rest = rest := by
  induction gap generalizing offset with
  | stop text =>
    cases text with
    | nil => rfl
    | cons c text =>
      obtain ⟨visible, noComment⟩ := clear c rfl
      simp [Cursor.skipFrom, visible, noComment]
  | blank blank _ step => simp [Cursor.skipFrom, blank, step clear]
  | comment inside _ step =>
    have visible : Text.isBlank '#' = false := by decide
    simp [Cursor.skipFrom, visible, skipFrom_comment inside, step clear]
  | lastComment inside =>
    have visible : Text.isBlank '#' = false := by decide
    simp [Cursor.skipFrom, visible, skipFrom_lastComment inside]

theorem skipBlank_gap {text rest : List Char} (gap : Gap text rest)
    (clear : Clear rest) (offset : Nat) :
    ∃ offset', Cursor.skipBlank ⟨offset, text⟩ = ⟨offset', rest⟩ :=
  ⟨_, by rw [← skipFrom_gap gap clear offset]; rfl⟩

/-! ## Strings, numbers and words -/

/-- The characters of a string, up to its closing quote. -/
inductive Chars (quote : Char) : Spelling (List Char) where
  | close (rest : List Char) : Chars quote (quote :: rest) [] rest
  | plain {c : Char} {text chars rest : List Char} :
      c ≠ quote → c ≠ '\\' → c ≠ '\n' → Chars quote text chars rest →
      Chars quote (c :: text) (c :: chars) rest
  | escape {letter : Char} {text chars rest : List Char} :
      letter ≠ 'u' → Chars quote text chars rest →
      Chars quote ('\\' :: letter :: text) (escaped letter :: chars) rest
  | unicode {digit₁ digit₂ digit₃ digit₄ c : Char}
      {text chars rest : List Char} :
      (hexNumber? [digit₁, digit₂, digit₃, digit₄]).bind Text.scalar? =
        some c →
      Chars quote text chars rest →
      Chars quote ('\\' :: 'u' :: digit₁ :: digit₂ :: digit₃ :: digit₄ :: text)
        (c :: chars) rest

/-- A run of characters that pass a test, as long as can be. -/
structure Run (test : Char → Bool) (text run rest : List Char) : Prop where
  split : text = run ++ rest
  inside : ∀ c ∈ run, test c = true
  outside : ∀ c ∈ rest.head?, test c = false

/-! ## Lists and mappings -/

/-- Items between a bracket that was opened and its closing one, a comma
between two of them and perhaps one behind the last. -/
inductive Items {α : Type u} (item : Spelling α) (close : Char) :
    Spelling (List α) where
  | close {text rest : List Char} :
      Gap text (close :: rest) → Items item close text [] rest
  | last {text start after rest : List Char} {value : α} :
      Gap text start → item start value after → Gap after (close :: rest) →
      Items item close text [value] rest
  | more {text start after next rest : List Char} {value : α}
      {values : List α} :
      Gap text start → item start value after → Gap after (',' :: next) →
      Items item close next values rest →
      Items item close text (value :: values) rest

/-- An entry of a mapping: a key, a colon and a value. -/
inductive Entry (item : Spelling Json) : Spelling (String × Json) where
  | mk {text afterKey beforeValue start rest : List Char} {key value : Json}
      {name : String} :
      item text key afterKey → keyText key = .ok name →
      Gap afterKey (':' :: beforeValue) → Gap beforeValue start →
      item start value rest → Entry item text (name, value) rest

/-- A value whose parts are spelled in a given way. -/
inductive Value (item : Spelling Json) : Spelling Json where
  | record {text rest : List Char} {entries : List (String × Json)} :
      Items (Entry item) '}' text entries rest →
      Value item ('{' :: text) (.record (Keyed.ofList entries).entries) rest
  | list {text rest : List Char} {items : List Json} :
      Items item ']' text items rest →
      Value item ('[' :: text) (.list items) rest
  | tuple {text rest : List Char} {items : List Json} :
      Items item ')' text items rest →
      Value item ('(' :: text) (.list items) rest
  | text {quote : Char} {text chars rest : List Char} :
      quote = '"' ∨ quote = '\'' → Chars quote text chars rest →
      Value item (quote :: text) (.text (String.ofList chars)) rest
  | number {c : Char} {text run rest : List Char} {number : Json.Number} :
      c = '-' ∨ c = '+' ∨ c.isDigit = true →
      Run isNumberChar (c :: text) run rest →
      numberValue? (run.filter (· ≠ '_')) = some number →
      Value item (c :: text) (.number number) rest
  | word {text run rest : List Char} {value : Json} :
      Run isWordPart text run rest → wordValue? run = some value →
      Value item text value rest

/-- A value that is spelled within so many levels. -/
def Spells : Nat → Spelling Json
  | 0 => fun _ _ _ => False
  | levels + 1 => Value (Spells levels)

end ModuleAtlas.Literal
