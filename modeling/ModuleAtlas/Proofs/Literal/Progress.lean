import Mathlib.Data.PFun
import ModuleAtlas.Proofs.Literal.Positions

/-!
# The reader ends

The loops of the reader over items and entries run for as long as their passes
go on.  Here the reader is written so, as a partial function: a loop repeats its
pass, from the items that were taken and a position, with no bound on how often
it does.  Each pass takes a character, so the passes over a text come to an end,
and the bound under which the reader counts them is never met: the partial
function is defined on every text, and is the reader.

The digits of an escape are cut out of the text between two positions.  The
reader does so only where both positions are in the text.
-/

namespace ModuleAtlas.Literal

namespace Unbounded

/-! ## Reading without a bound -/

section Loop

variable {α : Type} (unterminated : LiteralError)
  (item : Cursor →. Reading α) (close : Char)

/-- What a pass comes to behind an item: the loop ends with a failure, or goes
on with one item more. -/
def behind (taken : List α) : Reading α → Reading (List α) ⊕ List α × Cursor
  | .error failure => .inl (.error failure)
  | .ok (value, after) =>
    match takeSeparator close unterminated after with
    | .error failure => .inl (.error failure)
    | .ok next => .inr (taken ++ [value], next)

/-- One pass, from the items that were taken and a position. -/
def pass (state : List α × Cursor) :
    Part (Reading (List α) ⊕ List α × Cursor) :=
  let cursor := state.2.skipBlank
  match takeClose? close cursor with
  | some after => Part.some (.inl (.ok (state.1, after)))
  | none => (item cursor).map (behind unterminated close state.1)

/-- Pass after pass for as long as they go on. -/
def items (cursor : Cursor) : Part (Reading (List α)) :=
  PFun.fix (pass unterminated item close) ([], cursor)

end Loop

section Item

variable (item : Cursor →. Reading Json)

/-- Read one entry of a mapping. -/
def entry (cursor : Cursor) : Part (Reading (String × Json)) :=
  (item cursor).bind fun
    | .error failure => Part.some (.error failure)
    | .ok (key, after) =>
      match keyText key with
      | .error failure => Part.some (.error failure)
      | .ok name =>
        match takeColon after with
        | .error failure => Part.some (.error failure)
        | .ok after => (item after).map fun reading =>
          reading.map fun (value, final) => ((name, value), final)

/-- Read a value as what its first character says. -/
def shape (cursor : Cursor) : Shape → Part (Reading Json)
  | .mapping =>
    (items .unterminatedMapping (entry item) '}'
      ⟨cursor.offset + 1, cursor.rest.drop 1⟩).map fun reading =>
        reading.map fun (entries, after) =>
          (.record (Keyed.ofList entries).entries, after)
  | .sequence close =>
    (items .unterminatedList item close
      ⟨cursor.offset + 1, cursor.rest.drop 1⟩).map fun reading =>
        reading.map fun (items, after) => (.list items, after)
  | .string quote => Part.some
    ((string quote cursor).map fun (found, after) => (.text found, after))
  | .number => Part.some
    ((number cursor).map fun (found, after) => (.number found, after))
  | .word => Part.some (word cursor)

end Item

/-- Read a value with so many levels left. -/
def value : Nat → Cursor → Part (Reading Json)
  | 0, _ => Part.some (.error .tooDeep)
  | levels + 1, cursor =>
    let cursor := cursor.skipBlank
    match cursor.rest with
    | [] => Part.some (.error .unexpectedEnd)
    | c :: _ =>
      match shape? c with
      | none => Part.some (.error (.unexpected c cursor.offset))
      | some found => shape (value levels) cursor found

/-- Read a whole text as one literal. -/
def read (text : List Char) : Part (Except LiteralError Json) :=
  (value maxLevels (Cursor.start text)).map fun
    | .error failure => .error failure
    | .ok (found, after) =>
      let after := after.skipBlank
      if after.rest.isEmpty then .ok found
      else .error (.trailingInput after.offset)

/-! ## The bound is never met -/

/-- A partial reader that ends from every position of a text, as another one
does. -/
def EndsAs (text : List Char) {α : Type} (runs : Cursor →. Reading α)
    (item : Cursor → Reading α) : Prop :=
  ∀ cursor : Cursor, cursor.In text → runs cursor = Part.some (item cursor)

/-- The items of a reading behind the ones that were taken before it. -/
def following {α : Type} (taken : List α) (reading : Reading (List α)) :
    Reading (List α) :=
  reading.map (Prod.map (taken ++ ·) id)

theorem following_nil {α : Type} (reading : Reading (List α)) :
    following [] reading = reading := by
  cases reading <;> rfl

theorem following_cons {α : Type} (taken : List α) (value : α)
    (reading : Reading (List α)) :
    following taken
        (reading.map fun (values, final) => (value :: values, final)) =
      following (taken ++ [value]) reading := by
  rcases reading with failure | ⟨values, final⟩
  · rfl
  · simp [following, Except.map]

/-- Where a pass leaves the reader; none when it fails. -/
def position? {α : Type} : Reading (List α) ⊕ List α × Cursor → Option Cursor
  | .inl (.error _) => none
  | .inl (.ok (_, after)) => some after
  | .inr (_, next) => some next

section Loop

variable {text : List Char} {α : Type} {runs : Cursor →. Reading α}
  {item : Cursor → Reading α} (ends : EndsAs text runs item)
  (advances : AdvancesIn text item) {unterminated : LiteralError}
  (mute : unterminated.offset? = none) (close : Char)

include ends

theorem EndsAs.pass_eq {taken : List α} {cursor : Cursor}
    (inside : cursor.In text) :
    pass unterminated runs close (taken, cursor) = Part.some
      (match takeClose? close cursor.skipBlank with
      | some after => .inl (.ok (taken, after))
      | none => behind unterminated close taken (item cursor.skipBlank)) := by
  rw [Unbounded.pass]
  dsimp only
  split
  · rfl
  · rw [ends _ inside.skipBlank.1, Part.map_some]

include advances mute

/-- A pass takes a character, unless it fails. -/
theorem EndsAs.pass {taken : List α} {cursor next : Cursor}
    {outcome : Reading (List α) ⊕ List α × Cursor} (inside : cursor.In text)
    (comes : outcome ∈ pass unterminated runs close (taken, cursor))
    (left : position? outcome = some next) :
    next.In text ∧ cursor.offset < next.offset := by
  obtain ⟨skipped, forwards⟩ := inside.skipBlank
  rw [ends.pass_eq close inside, Part.mem_some_iff] at comes
  subst comes
  split at left
  · next closed =>
    obtain rfl := Option.some.inj left
    obtain ⟨reached, further⟩ := takeClose?_advances skipped closed
    exact ⟨reached, Nat.lt_of_le_of_lt forwards further⟩
  · rcases read : item cursor.skipBlank with failure | ⟨value, after⟩
    · rw [read] at left
      exact absurd left (by simp [behind, position?])
    · rw [read, behind] at left
      split at left
      · exact absurd left (by simp [position?])
      · next separated =>
        obtain rfl := Option.some.inj left
        exact advances.pass mute close inside read separated

/-- As many passes as there are characters left, and one more, are enough. -/
theorem EndsAs.passes {steps : Nat} {taken : List α} {cursor : Cursor}
    (inside : cursor.In text) (enough : text.length < cursor.offset + steps) :
    PFun.fix (Unbounded.pass unterminated runs close) (taken, cursor) =
      Part.some (following taken
        (itemsUpTo unterminated item close steps cursor)) := by
  induction steps generalizing taken cursor with
  | zero => exact absurd inside.offset_le (Nat.not_le.2 enough)
  | succ steps step =>
    have met : _ ∈ Unbounded.pass unterminated runs close (taken, cursor) :=
      Part.eq_some_iff.1 (ends.pass_eq close inside)
    rw [itemsUpTo]
    dsimp only
    cases closed : takeClose? close cursor.skipBlank with
    | some after =>
      simp only [closed] at met
      have ended := Part.eq_some_iff.2 (PFun.fix_stop met)
      simpa [following, Except.map] using ended
    | none =>
      simp only [closed] at met
      rcases read : item cursor.skipBlank with failure | ⟨value, after⟩
      · rw [read] at met
        exact Part.eq_some_iff.2 (PFun.fix_stop met)
      · rw [read, behind] at met
        cases separated : takeSeparator close unterminated after with
        | error failure =>
          simp only [separated] at met ⊢
          exact Part.eq_some_iff.2 (PFun.fix_stop met)
        | ok next =>
          simp only [separated] at met ⊢
          obtain ⟨reached, further⟩ :=
            advances.pass mute close inside read separated
          rw [PFun.fix_fwd_eq met, step reached (by omega), following_cons]

theorem EndsAs.items {steps : Nat} {cursor : Cursor} (inside : cursor.In text)
    (enough : text.length < cursor.offset + steps) :
    items unterminated runs close cursor =
      Part.some (itemsUpTo unterminated item close steps cursor) := by
  rw [Unbounded.items, ends.passes advances mute close inside enough,
    following_nil]

end Loop

section Item

variable {text : List Char} {runs : Cursor →. Reading Json}
  {item : Cursor → Reading Json} (ends : EndsAs text runs item)
  (advances : AdvancesIn text item)

include ends advances

theorem EndsAs.entry : EndsAs text (entry runs) (Literal.entry item) := by
  intro cursor inside
  have key := advances cursor inside
  rw [Unbounded.entry, Literal.entry, ends cursor inside, Part.bind_some]
  rcases read : item cursor with failure | ⟨found, after⟩
  · rfl
  · rw [read] at key
    cases named : keyText found with
    | error failure => simp [named]
    | ok name =>
      have colon := continues_takeColon key.1
      cases taken : takeColon after with
      | error failure => simp [named, taken]
      | ok between =>
        rw [taken] at colon
        simp [named, taken, ends _ colon.1]

/-- The characters that are left bound the passes of a loop. -/
theorem EndsAs.shape {cursor : Cursor} (inside : cursor.In text) {c : Char}
    {rest : List Char} (stands : cursor.rest = c :: rest) (found : Shape) :
    shape runs cursor found = Part.some (found.read item cursor) := by
  have further := inside.next stands
  have behind : cursor.rest.drop 1 = rest := by rw [stands, List.drop_one]; rfl
  have enough : text.length < cursor.offset + 1 + cursor.rest.length := by
    have total := inside.offset_add
    omega
  cases found with
  | mapping =>
    have mute : LiteralError.unterminatedMapping.offset? = none := rfl
    rw [Unbounded.shape, Shape.read, mappingItems_eq, behind,
      (ends.entry advances).items advances.entry mute '}' further enough,
      Part.map_some]
  | sequence close =>
    have mute : LiteralError.unterminatedList.offset? = none := rfl
    rw [Unbounded.shape, Shape.read, listItems_eq, behind,
      ends.items advances mute close further enough, Part.map_some]
  | string quote => rfl
  | number => rfl
  | word => rfl

end Item

theorem endsAs_value (text : List Char) (levels : Nat) :
    EndsAs text (value levels) (Literal.value levels) := by
  induction levels with
  | zero => exact fun _ _ => rfl
  | succ levels step =>
    intro cursor inside
    rw [Unbounded.value, value_succ]
    cases stands : cursor.skipBlank.rest with
    | nil => rfl
    | cons c rest =>
      cases known : shape? c with
      | none => simp [known]
      | some found =>
        simp only [known]
        exact step.shape (advances_value text levels) inside.skipBlank.1 stands
          found

/-- Reading ends on every text, as the reader does. -/
theorem read_eq (text : List Char) :
    read text = Part.some (Literal.read text) := by
  rw [read, endsAs_value text maxLevels _ (Cursor.start_in text),
    Part.map_some]
  unfold Literal.read
  rcases Literal.value maxLevels (Cursor.start text) with
    failure | ⟨found, after⟩ <;> rfl

end Unbounded

/-! ## Escapes -/

/-- The characters of a text from one position to another; none when these are
not two positions of the text, one not before the other. -/
def slice? (text : List Char) (start stop : Nat) : Option (List Char) :=
  if start ≤ stop ∧ stop ≤ text.length then
    some ((text.drop start).take (stop - start))
  else none

/-- Read the code of an escape, its four digits cut out of the text from a
position on; none when they are cut out where there is no text. -/
def codeAt (text : List Char) (position : Nat) :
    Option (Except LiteralError Char) :=
  if text.length < position + 4 then some (.error .truncatedUnicode)
  else do
    let digits ← slice? text position (position + 4)
    match (hexNumber? digits).bind Text.scalar? with
    | none => some (.error (.invalidUnicode digits))
    | some c => some (.ok c)

theorem slice?_of_in {text : List Char} {offset : Nat} (front : List Char)
    {rest : List Char} (inside : Cursor.In text ⟨offset, front ++ rest⟩) :
    slice? text offset (offset + front.length) = some front := by
  have same : front ++ rest = text.drop offset := inside.rest_eq
  rw [slice?, if_pos ⟨Nat.le_add_right _ _, (inside.behind front).offset_le⟩,
    ← same, Nat.add_sub_cancel_left, List.take_left]

/-- An escape with fewer than four characters behind its letter is cut off. -/
theorem stringBody_truncated {quote : Char} (notQuote : quote ≠ '\\')
    (start offset : Nat) {rest : List Char} (short : rest.length < 4) :
    stringBody quote start offset ('\\' :: 'u' :: rest) =
      .error .truncatedUnicode := by
  rw [stringBody.eq_def]
  rcases rest with _ | ⟨_, _ | ⟨_, _ | ⟨_, _ | ⟨_, _⟩⟩⟩⟩
  case cons.cons.cons.cons => exact absurd short (by simp)
  all_goals simp [notQuote.symm]

/-- The digits of an escape are cut out of the text that they are in. -/
theorem stringBody_codeAt {quote : Char} (notQuote : quote ≠ '\\')
    {text rest : List Char} {offset : Nat} (start : Nat)
    (inside : Cursor.In text ⟨offset, '\\' :: 'u' :: rest⟩) :
    ∃ outcome, codeAt text (offset + 2) = some outcome ∧
      stringBody quote start offset ('\\' :: 'u' :: rest) =
        match outcome with
        | .error failure => .error failure
        | .ok c => prepend c
            (stringBody quote start (offset + 6) (text.drop (offset + 6))) := by
  have opened : Cursor.In text ⟨offset + 2, rest⟩ :=
    .behind ['\\', 'u'] inside
  have total : offset + 2 + rest.length = text.length := opened.offset_add
  by_cases short : rest.length < 4
  · refine ⟨_, if_pos (by omega), ?_⟩
    exact stringBody_truncated notQuote start offset short
  · obtain ⟨digit₁, digit₂, digit₃, digit₄, more, rfl⟩ :
        ∃ digit₁ digit₂ digit₃ digit₄ more,
          rest = digit₁ :: digit₂ :: digit₃ :: digit₄ :: more := by
      match rest, short with
      | digit₁ :: digit₂ :: digit₃ :: digit₄ :: more, _ =>
        exact ⟨digit₁, digit₂, digit₃, digit₄, more, rfl⟩
      | [], short | [_], short | [_, _], short | [_, _, _], short =>
        exact absurd (by simp) short
    have digits : slice? text (offset + 2) (offset + 2 + 4) =
        some [digit₁, digit₂, digit₃, digit₄] :=
      slice?_of_in [digit₁, digit₂, digit₃, digit₄] opened
    have behind : text.drop (offset + 6) = more :=
      (opened.behind [digit₁, digit₂, digit₃, digit₄]).rest_eq.symm
    rw [codeAt, if_neg (by omega), digits, Option.bind_eq_bind,
      Option.bind_some, stringBody_unicode notQuote, behind]
    cases (hexNumber? [digit₁, digit₂, digit₃, digit₄]).bind Text.scalar? with
    | none => exact ⟨.error (.invalidUnicode _), rfl, rfl⟩
    | some c => exact ⟨.ok c, rfl, rfl⟩

/-! ## Progress -/

/-- What the reader does at every position of a text: it never goes back, and
never past the end. -/
structure Progress (text : List Char) : Prop where
  skip : ∀ {cursor : Cursor}, cursor.In text →
    cursor.skipBlank.In text ∧ cursor.offset ≤ cursor.skipBlank.offset
  /-- What a value is read from is taken. -/
  value : ∀ {levels : Nat} {cursor after : Cursor} {found : Json},
    cursor.In text → value levels cursor = .ok (found, after) →
    after.In text ∧ cursor.offset < after.offset
  /-- So is what a mapping, a list, a string, a number or a word is read from,
  wherever the first character says that it is one. -/
  shape : ∀ {levels : Nat} {cursor after : Cursor} {c : Char}
    {rest : List Char} {shape : Shape} {found : Json},
    cursor.In text → cursor.rest = c :: rest → shape? c = some shape →
    shape.read (Literal.value levels) cursor = .ok (found, after) →
    after.In text ∧ cursor.offset < after.offset
  /-- A pass over the items of a list takes something, unless it fails. -/
  item : ∀ {levels : Nat} {close : Char} {taken : List Json}
    {cursor next : Cursor} {outcome : Reading (List Json) ⊕ List Json × Cursor},
    cursor.In text →
    outcome ∈ Unbounded.pass .unterminatedList (Unbounded.value levels) close
      (taken, cursor) →
    Unbounded.position? outcome = some next →
    next.In text ∧ cursor.offset < next.offset
  /-- So does a pass over the entries of a mapping. -/
  entry : ∀ {levels : Nat} {taken : List (String × Json)}
    {cursor next : Cursor}
    {outcome : Reading (List (String × Json)) ⊕ List (String × Json) × Cursor},
    cursor.In text →
    outcome ∈ Unbounded.pass .unterminatedMapping
      (Unbounded.entry (Unbounded.value levels)) '}' (taken, cursor) →
    Unbounded.position? outcome = some next →
    next.In text ∧ cursor.offset < next.offset
  /-- The digits of an escape are cut out of the text that they are in. -/
  escape : ∀ {quote : Char} {start offset : Nat} {rest : List Char},
    quote = '"' ∨ quote = '\'' →
    Cursor.In text ⟨offset, '\\' :: 'u' :: rest⟩ →
    ∃ outcome, codeAt text (offset + 2) = some outcome ∧
      stringBody quote start offset ('\\' :: 'u' :: rest) =
        match outcome with
        | .error failure => .error failure
        | .ok c => prepend c
            (stringBody quote start (offset + 6) (text.drop (offset + 6)))
  /-- Without a bound on its passes, the reader ends with the same outcome. -/
  ends : Unbounded.read text = Part.some (read text)
  /-- Where the wording of a refusal carries an offset, a character stands
  there. -/
  blames : ∀ {failure : LiteralError} {offset : Nat},
    read text = .error failure → failure.offset? = some offset →
    (∃ front back,
      failure.message = front ++ "offset " ++ toString offset ++ back) ∧
      offset < text.length

/-- Whatever the text is, the reader goes forwards in it and ends. -/
theorem reads_forwards (text : List Char) : Progress text where
  skip := Cursor.In.skipBlank
  value := by
    intro levels cursor after found inside read
    have advances := advances_value text levels cursor inside
    rwa [read] at advances
  shape := by
    intro levels cursor after c rest shape found inside stands known read
    have advances := (advances_value text levels).shape inside stands known
    rwa [read] at advances
  item := by
    intro levels close taken cursor next outcome inside comes left
    have ends := Unbounded.endsAs_value text levels
    exact ends.pass (advances_value text levels) rfl close inside comes left
  entry := by
    intro levels taken cursor next outcome inside comes left
    have advances := advances_value text levels
    have ends := (Unbounded.endsAs_value text levels).entry advances
    exact ends.pass advances.entry rfl '}' inside comes left
  escape := by
    intro quote start offset rest quoted inside
    have notEscape : quote ≠ '\\' := by
      rcases quoted with rfl | rfl <;> decide
    exact stringBody_codeAt notEscape start inside
  ends := Unbounded.read_eq text
  blames := fun refused carried =>
    ⟨LiteralError.message_offset carried, blames_of_read refused _ carried⟩

/-- The offset of the last character may be blamed. -/
example : ∃ failure, read "[1, @".toList = .error failure ∧
    failure.offset? = some 4 :=
  ⟨.unexpected '@' 4, by rfl, rfl⟩

end ModuleAtlas.Literal
