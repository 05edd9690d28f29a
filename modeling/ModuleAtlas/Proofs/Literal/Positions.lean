import ModuleAtlas.Proofs.Literal.Inversion

/-!
# Positions of the reader in a text

A cursor stands in a text when what it has left is what the text has behind its
offset.  From there, nothing that the reader does leaves the text.  Skipping
goes no step back.  Whatever gives a value ends behind its start, since a value
is looked at only where its first character says what it is, and that character
is taken.  And where the reader gives up, the offset that it blames is the
offset of a character.
-/

namespace ModuleAtlas

/-- The offset that a failure carries into its wording. -/
def LiteralError.offset? : LiteralError → Option Nat
  | .unexpected _ offset | .expected _ offset _
  | .expectedSeparator _ offset _ | .newlineInString offset
  | .unterminatedString offset | .invalidNumber _ offset
  | .unsupportedWord _ offset | .trailingInput offset => some offset
  | .unexpectedEnd | .expectedAtEnd _ | .tooDeep | .unsupportedKey _
  | .unterminatedMapping | .unterminatedList | .unterminatedEscape
  | .truncatedUnicode | .invalidUnicode _ => none

/-- The wording of a failure names the offset that it carries. -/
theorem LiteralError.message_offset {failure : LiteralError} {offset : Nat}
    (carried : failure.offset? = some offset) :
    ∃ front back, failure.message =
      front ++ "offset " ++ toString offset ++ back := by
  have quoted : ∀ front : String,
      front ++ "' at offset " = front ++ "' at " ++ "offset " := by
    intro front
    rw [String.append_assoc]
    rfl
  cases failure <;> try contradiction
  all_goals obtain rfl := Option.some.inj carried
  case unexpected found _ =>
    refine ⟨"unexpected '" ++ found.toString ++ "' at ", "", ?_⟩
    rw [← quoted, String.append_empty]
    rfl
  case expected wanted _ found =>
    refine ⟨"expected '" ++ wanted.toString ++ "' at ",
      ", found '" ++ found.toString ++ "'", ?_⟩
    rw [← quoted, ← String.append_assoc, ← String.append_assoc]
    rfl
  case expectedSeparator close _ found =>
    refine ⟨"expected ',' or '" ++ close.toString ++ "' at ",
      ", found '" ++ found.toString ++ "'", ?_⟩
    rw [← quoted, ← String.append_assoc, ← String.append_assoc]
    rfl
  case newlineInString _ =>
    exact ⟨"newline inside string starting at ", "", String.append_empty.symm⟩
  case unterminatedString _ =>
    exact ⟨"unterminated string starting at ", "", String.append_empty.symm⟩
  case invalidNumber text _ =>
    refine ⟨"invalid number '" ++ String.ofList text ++ "' at ", "", ?_⟩
    rw [← quoted, String.append_empty]
    rfl
  case unsupportedWord word _ =>
    refine ⟨"unsupported identifier '" ++ String.ofList word ++ "' at ", "", ?_⟩
    rw [← quoted, String.append_empty]
    rfl
  case trailingInput _ =>
    exact ⟨"unexpected trailing input at ", "", String.append_empty.symm⟩

/-- The offset of a failure, if it has one, is that of a character. -/
def LiteralError.Blames (text : List Char) (failure : LiteralError) : Prop :=
  ∀ offset ∈ failure.offset?, offset < text.length

theorem LiteralError.blames_of_lt {text : List Char} {offset : Nat}
    (inside : offset < text.length) {failure : LiteralError}
    (carried : failure.offset? = some offset) : failure.Blames text := by
  intro blamed same
  obtain rfl := Option.some.inj (carried.symm.trans same)
  exact inside

theorem LiteralError.blames_of_none (text : List Char)
    {failure : LiteralError} (carried : failure.offset? = none) :
    failure.Blames text :=
  fun _ same => absurd (carried.symm.trans same) (by simp)

namespace Literal

open LiteralError

/-! ## Cursors in a text -/

/-- A cursor stands at a position of a text, its end included. -/
structure Cursor.In (text : List Char) (cursor : Cursor) : Prop where
  offset_le : cursor.offset ≤ text.length
  rest_eq : cursor.rest = text.drop cursor.offset

theorem Cursor.start_in (text : List Char) : (Cursor.start text).In text :=
  ⟨Nat.zero_le _, rfl⟩

namespace Cursor.In

variable {text : List Char} {offset : Nat}

theorem offset_add {cursor : Cursor} (inside : cursor.In text) :
    cursor.offset + cursor.rest.length = text.length := by
  rw [inside.rest_eq, List.length_drop]
  exact Nat.add_sub_of_le inside.offset_le

/-- Behind some characters that stand at a position is a position again. -/
theorem behind (front : List Char) {rest : List Char}
    (inside : Cursor.In text ⟨offset, front ++ rest⟩) :
    Cursor.In text ⟨offset + front.length, rest⟩ where
  offset_le := by
    have total : offset + (front ++ rest).length = text.length :=
      inside.offset_add
    rw [List.length_append] at total
    show offset + front.length ≤ text.length
    omega
  rest_eq := by
    have same : front ++ rest = text.drop offset := inside.rest_eq
    show rest = text.drop (offset + front.length)
    rw [← List.drop_drop, ← same, List.drop_left]

theorem next {c : Char} {rest : List Char} {cursor : Cursor}
    (inside : cursor.In text) (stands : cursor.rest = c :: rest) :
    Cursor.In text ⟨cursor.offset + 1, rest⟩ := by
  obtain ⟨offset, chars⟩ := cursor
  obtain rfl : chars = c :: rest := stands
  exact behind [c] inside

theorem offset_lt {c : Char} {rest : List Char} {cursor : Cursor}
    (inside : cursor.In text) (stands : cursor.rest = c :: rest) :
    cursor.offset < text.length := by
  have total := inside.offset_add
  rw [stands, List.length_cons] at total
  omega

end Cursor.In

/-- Going on from a position, not back, in a text; or a failure that blames
one of its characters. -/
def Continues (text : List Char) (start : Nat) :
    Except LiteralError Cursor → Prop
  | .ok next => next.In text ∧ start ≤ next.offset
  | .error failure => failure.Blames text

/-- A reading that ends behind its start in a text, or fails and blames one of
its characters. -/
def Advances (text : List Char) (start : Nat) {α : Type}
    (reading : Reading α) : Prop :=
  Continues text (start + 1) (reading.map Prod.snd)

theorem Advances.map {text : List Char} {start : Nat} {α β : Type}
    {reading : Reading α} (advances : Advances text start reading)
    (change : α → β) :
    Advances text start
      (reading.map fun (value, cursor) => (change value, cursor)) := by
  cases reading <;> exact advances

theorem Advances.mono {text : List Char} {start earlier : Nat} {α : Type}
    {reading : Reading α} (advances : Advances text start reading)
    (before : earlier ≤ start) : Advances text earlier reading := by
  cases reading with
  | error failure => exact advances
  | ok found =>
    exact ⟨advances.1, (Nat.succ_le_succ before).trans advances.2⟩

/-! ## Blanks, comments and runs -/

/-- Skipping blanks and comments goes forwards and stops in the text. -/
theorem Cursor.In.skipBlank {text : List Char} {cursor : Cursor}
    (inside : cursor.In text) :
    cursor.skipBlank.In text ∧ cursor.offset ≤ cursor.skipBlank.offset := by
  suffices skips : ∀ (rest : List Char) (inComment : Bool) (offset : Nat),
      Cursor.In text ⟨offset, rest⟩ →
      (Cursor.skipFrom inComment offset rest).In text ∧
        offset ≤ (Cursor.skipFrom inComment offset rest).offset from
    skips cursor.rest false cursor.offset inside
  intro rest
  induction rest with
  | nil => exact fun _ _ inside => ⟨inside, Nat.le_refl _⟩
  | cons c rest step =>
    intro inComment offset inside
    have further := fun inComment => step inComment _ (inside.next rfl)
    rw [Cursor.skipFrom]
    split_ifs with comment blank opens
    · exact (further _).imp_right Nat.le_of_succ_le
    · exact (further _).imp_right Nat.le_of_succ_le
    · exact (further _).imp_right Nat.le_of_succ_le
    · exact ⟨inside, Nat.le_refl _⟩

/-- A run that its first character starts is taken. -/
theorem Cursor.In.takeRun {text : List Char} {cursor : Cursor}
    (inside : cursor.In text) {test : Char → Bool} {c : Char}
    {rest : List Char} (stands : cursor.rest = c :: rest)
    (starts : test c = true) :
    (cursor.takeRun test).2.In text ∧
      cursor.offset < (cursor.takeRun test).2.offset := by
  obtain ⟨offset, chars⟩ := cursor
  obtain rfl : chars = c :: rest := stands
  constructor
  · apply Cursor.In.behind
    rwa [List.takeWhile_append_dropWhile]
  · simp [Cursor.takeRun, starts]

/-! ## Strings, numbers and words -/

/-- Behind the opening quote of a string, every character moves its body
forwards. -/
theorem advances_stringBody (quote : Char) {text rest : List Char}
    {start offset : Nat} (opened : start < text.length)
    (inside : Cursor.In text ⟨offset, rest⟩) :
    Advances text offset (stringBody quote start offset rest) := by
  fun_induction stringBody quote start offset rest with
  | case1 => exact blames_of_lt opened rfl
  | case2 => exact ⟨inside.next rfl, Nat.le_refl _⟩
  | case3 => exact blames_of_none text rfl
  | case4 => exact blames_of_none text rfl
  | case5 _ digit₁ digit₂ digit₃ digit₄ _ _ _ _ step =>
    have further := step
      (.behind ['\\', 'u', digit₁, digit₂, digit₃, digit₄] inside)
    exact (further.map _).mono (Nat.le_add_right _ 6)
  | case6 => exact blames_of_none text rfl
  | case7 _ letter _ _ _ _ step =>
    have further := step (.behind ['\\', letter] inside)
    exact (further.map _).mono (Nat.le_add_right _ 2)
  | case8 => exact blames_of_lt opened rfl
  | case9 _ _ _ _ _ _ step =>
    exact ((step (inside.next rfl)).map _).mono (Nat.le_succ _)

section Scalar

variable {text rest : List Char} {cursor : Cursor} {c : Char}

theorem advances_string (inside : cursor.In text)
    (stands : cursor.rest = c :: rest) (quote : Char) :
    Advances text cursor.offset (string quote cursor) := by
  have body := advances_stringBody quote (inside.offset_lt stands)
    (inside.next stands)
  rw [string, stands]
  exact (body.map _).mono (Nat.le_succ _)

theorem advances_number (inside : cursor.In text)
    (stands : cursor.rest = c :: rest) (starts : isNumberChar c = true) :
    Advances text cursor.offset (number cursor) := by
  rw [number]
  dsimp only
  split
  · exact inside.takeRun stands starts
  · exact blames_of_lt (inside.offset_lt stands) rfl

theorem advances_word (inside : cursor.In text)
    (stands : cursor.rest = c :: rest) (starts : isWordPart c = true) :
    Advances text cursor.offset (word cursor) := by
  rw [word]
  dsimp only
  split
  · exact inside.takeRun stands starts
  · exact blames_of_lt (inside.offset_lt stands) rfl

end Scalar

/-! ## Lists and mappings -/

section Tokens

variable {text : List Char} {cursor : Cursor} (inside : cursor.In text)

include inside

theorem takeClose?_advances {close : Char} {after : Cursor}
    (taken : takeClose? close cursor = some after) :
    after.In text ∧ cursor.offset < after.offset := by
  unfold takeClose? at taken
  split at taken
  · exact absurd taken (by simp)
  · next stands =>
    split at taken
    · obtain rfl := Option.some.inj taken
      exact ⟨inside.next stands, Nat.lt_succ_self _⟩
    · exact absurd taken (by simp)

theorem continues_takeSeparator (close : Char) {unterminated : LiteralError}
    (mute : unterminated.offset? = none) :
    Continues text cursor.offset (takeSeparator close unterminated cursor) := by
  obtain ⟨skipped, forwards⟩ := inside.skipBlank
  unfold takeSeparator
  dsimp only
  split
  · exact blames_of_none text mute
  · next stands =>
    split_ifs with comma closed
    · exact ⟨skipped.next stands, Nat.le_succ_of_le forwards⟩
    · exact ⟨skipped, forwards⟩
    · exact blames_of_lt (skipped.offset_lt stands) rfl

theorem continues_takeColon : Continues text cursor.offset (takeColon cursor) := by
  obtain ⟨skipped, forwards⟩ := inside.skipBlank
  unfold takeColon
  dsimp only
  split
  · exact blames_of_none text rfl
  · next stands =>
    split_ifs with colon
    · exact ⟨skipped.next stands, Nat.le_succ_of_le forwards⟩
    · exact blames_of_lt (skipped.offset_lt stands) rfl

end Tokens

/-- A reader that advances from every position of a text. -/
def AdvancesIn (text : List Char) {α : Type} (item : Cursor → Reading α) :
    Prop :=
  ∀ cursor : Cursor, cursor.In text →
    Advances text cursor.offset (item cursor)

theorem offset?_of_keyText {key : Json} {failure : LiteralError}
    (unnamed : keyText key = .error failure) : failure.offset? = none := by
  unfold keyText at unnamed
  split at unnamed
  · exact absurd unnamed (by simp)
  · exact absurd unnamed (by simp)
  · obtain rfl := Except.error.inj unnamed
    rfl

theorem AdvancesIn.entry {text : List Char} {item : Cursor → Reading Json}
    (advances : AdvancesIn text item) : AdvancesIn text (entry item) := by
  intro cursor inside
  have key := advances cursor inside
  rw [Literal.entry]
  split
  · next failed => rwa [failed] at key
  · next named after read =>
    rw [read] at key
    obtain ⟨reached, forwards⟩ := key
    split
    · next unnamed => exact blames_of_none text (offset?_of_keyText unnamed)
    · have colon := continues_takeColon reached
      split
      · next failed => rwa [failed] at colon
      · next taken =>
        rw [taken] at colon
        exact ((advances _ colon.1).map _).mono
          ((Nat.le_of_lt forwards).trans colon.2)

section Items

variable {text : List Char} {α : Type} {item : Cursor → Reading α}
  (advances : AdvancesIn text item) {unterminated : LiteralError}
  (mute : unterminated.offset? = none) (close : Char)

include advances mute

/-- A pass of a loop over items that goes on takes a character. -/
theorem AdvancesIn.pass {cursor after next : Cursor} {value : α}
    (inside : cursor.In text)
    (read : item cursor.skipBlank = .ok (value, after))
    (separated : takeSeparator close unterminated after = .ok next) :
    next.In text ∧ cursor.offset < next.offset := by
  obtain ⟨skipped, forwards⟩ := inside.skipBlank
  have taken := advances _ skipped
  rw [read] at taken
  have behind := continues_takeSeparator taken.1 close mute
  rw [separated] at behind
  exact ⟨behind.1, (Nat.lt_of_le_of_lt forwards taken.2).trans_le behind.2⟩

/-- What the passes come to, whatever their number is bounded by. -/
theorem AdvancesIn.itemsUpTo (steps : Nat) :
    AdvancesIn text (itemsUpTo unterminated item close steps) := by
  induction steps with
  | zero => exact fun _ _ => blames_of_none text mute
  | succ steps step =>
    intro cursor inside
    obtain ⟨skipped, forwards⟩ := inside.skipBlank
    have taken := advances _ skipped
    rw [Literal.itemsUpTo]
    split
    · next closed =>
      obtain ⟨reached, further⟩ := takeClose?_advances skipped closed
      exact ⟨reached, Nat.lt_of_le_of_lt forwards further⟩
    · split
      · next failed => rwa [failed] at taken
      · next read =>
        rw [read] at taken
        have behind := continues_takeSeparator taken.1 close mute
        split
        · next failed => rwa [failed] at behind
        · next separated =>
          obtain ⟨reached, further⟩ :=
            advances.pass mute close inside read separated
          exact ((step _ reached).map _).mono (Nat.le_of_lt further)

end Items

/-! ## Values -/

/-- What a value is read as. -/
inductive Shape where
  | mapping
  | sequence (close : Char)
  | string (quote : Char)
  | number
  | word

/-- What the first character of a value says that it is. -/
def shape? (c : Char) : Option Shape :=
  if c = '{' then some .mapping
  else if c = '[' then some (.sequence ']')
  else if c = '(' then some (.sequence ')')
  else if c = '"' ∨ c = '\'' then some (.string c)
  else if c = '-' ∨ c = '+' ∨ c.isDigit then some .number
  else if Text.isAlphabetic c then some .word
  else none

namespace Shape

/-- Read a value from its first character on, its items by `item`. -/
def read (item : Cursor → Reading Json) (cursor : Cursor) :
    Shape → Reading Json
  | .mapping =>
    (mappingItems item cursor.rest.length
      ⟨cursor.offset + 1, cursor.rest.drop 1⟩).map fun (entries, after) =>
        (.record (Keyed.ofList entries).entries, after)
  | .sequence close =>
    (listItems item close cursor.rest.length
      ⟨cursor.offset + 1, cursor.rest.drop 1⟩).map fun (items, after) =>
        (.list items, after)
  | .string quote =>
    (Literal.string quote cursor).map fun (found, after) => (.text found, after)
  | .number =>
    (Literal.number cursor).map fun (found, after) => (.number found, after)
  | .word => Literal.word cursor

end Shape

/-- A value is read as what its first character says. -/
theorem value_succ (levels : Nat) (cursor : Cursor) :
    value (levels + 1) cursor =
      match cursor.skipBlank.rest with
      | [] => .error .unexpectedEnd
      | c :: _ =>
        match shape? c with
        | none => .error (.unexpected c cursor.skipBlank.offset)
        | some shape => shape.read (value levels) cursor.skipBlank := by
  rw [value]
  dsimp only
  cases stands : cursor.skipBlank.rest with
  | nil => rfl
  | cons c rest =>
    dsimp only [shape?]
    split_ifs <;> simp [Shape.read, stands]

theorem Shape.starts {c : Char} {shape : Shape} (known : shape? c = some shape) :
    (shape = .number → isNumberChar c = true) ∧
      (shape = .word → isWordPart c = true) := by
  unfold shape? at known
  split_ifs at known with _ _ _ _ number letter <;>
    obtain rfl := Option.some.inj known <;> simp
  · rcases number with rfl | rfl | digit
    · decide
    · decide
    · simp [isNumberChar, digit]
  · simp [isWordPart, Text.isAlphanumeric, letter]

/-- What a value is read as takes its first character. -/
theorem AdvancesIn.shape {text : List Char} {item : Cursor → Reading Json}
    (advances : AdvancesIn text item) {cursor : Cursor}
    (inside : cursor.In text) {c : Char} {rest : List Char}
    (stands : cursor.rest = c :: rest) {shape : Shape}
    (known : shape? c = some shape) :
    Advances text cursor.offset (shape.read item cursor) := by
  have further := inside.next stands
  have behind : cursor.rest.drop 1 = rest := by rw [stands, List.drop_one]; rfl
  obtain ⟨number, word⟩ := Shape.starts known
  cases shape with
  | mapping =>
    have mute : LiteralError.unterminatedMapping.offset? = none := rfl
    rw [Shape.read, mappingItems_eq, behind]
    exact ((advances.entry.itemsUpTo mute '}' _ _ further).map
      fun entries => Json.record (Keyed.ofList entries).entries).mono
        (Nat.le_succ _)
  | sequence close =>
    have mute : LiteralError.unterminatedList.offset? = none := rfl
    rw [Shape.read, listItems_eq, behind]
    exact ((advances.itemsUpTo mute close _ _ further).map _).mono
      (Nat.le_succ _)
  | string quote => exact (advances_string inside stands quote).map _
  | number => exact (advances_number inside stands (number rfl)).map _
  | word => exact advances_word inside stands (word rfl)

/-- Values advance, however many levels are left. -/
theorem advances_value (text : List Char) (levels : Nat) :
    AdvancesIn text (value levels) := by
  induction levels with
  | zero => exact fun _ _ => blames_of_none text rfl
  | succ levels step =>
    intro cursor inside
    obtain ⟨skipped, forwards⟩ := inside.skipBlank
    rw [value_succ]
    split
    · exact blames_of_none text rfl
    · next stands =>
      split
      · exact blames_of_lt (skipped.offset_lt stands) rfl
      · next known => exact (step.shape skipped stands known).mono forwards

/-- A text that is refused has a character at the offset that is blamed. -/
theorem blames_of_read {text : List Char} {failure : LiteralError}
    (refused : read text = .error failure) : failure.Blames text := by
  have found := advances_value text maxLevels _ (Cursor.start_in text)
  rw [read] at refused
  split at refused
  · next failed =>
    obtain rfl := Except.error.inj refused
    rwa [failed] at found
  · next inner =>
    rw [inner] at found
    have skipped := found.1.skipBlank.1
    dsimp only at refused
    split at refused
    · exact absurd refused (by simp)
    · next more =>
      obtain rfl := Except.error.inj refused
      obtain ⟨c, rest, stands⟩ :=
        List.exists_cons_of_ne_nil (mt List.isEmpty_iff.2 more)
      exact blames_of_lt (skipped.offset_lt stands) rfl

end Literal

end ModuleAtlas
