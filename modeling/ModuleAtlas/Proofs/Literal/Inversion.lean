import ModuleAtlas.Proofs.Literal.Reading

/-!
# What is read is spelled

Whenever the reader gives a value, the grammar spells the value behind a gap,
and what the reader leaves is what is left behind the spelling.  Each function
of the reader is inverted by itself.
-/

namespace ModuleAtlas.Literal

/-- What a reading gives is spelled behind a gap. -/
def Inverts {α : Type} (read : Cursor → Reading α) (spelling : Spelling α) :
    Prop :=
  ∀ ⦃cursor : Cursor⦄ ⦃value : α⦄ ⦃after : Cursor⦄,
    read cursor = .ok (value, after) →
      ∃ start, Gap cursor.rest start ∧ spelling start value after.rest

theorem exists_of_map {α β : Type} {reading : Reading α} {change : α → β}
    {value : β} {after : Cursor}
    (read : (reading.map fun (value, cursor) => (change value, cursor)) =
      .ok (value, after)) :
    ∃ found, reading = .ok (found, after) ∧ change found = value := by
  rcases reading with failure | ⟨found, cursor⟩
  · exact absurd read (by simp [Except.map])
  · obtain ⟨same, rfl⟩ := Prod.mk.inj (Except.ok.inj read)
    exact ⟨found, rfl, same⟩

/-! ## Gaps -/

theorem Gap.trans {text between rest : List Char} (first : Gap text between)
    (second : Gap between rest) : Gap text rest := by
  induction first with
  | stop => exact second
  | blank blank _ step => exact .blank blank (step second)
  | comment inside _ step => exact .comment inside (step second)
  | lastComment inside =>
    cases second with
    | stop => exact .lastComment inside

/-- A comment ends with its line or with the text. -/
theorem gap_skipFrom (text : List Char) :
    (∀ offset, Gap text (Cursor.skipFrom false offset text).rest) ∧
      ∀ offset, Gap ('#' :: text) (Cursor.skipFrom true offset text).rest := by
  suffices both : (∀ offset, Gap text (Cursor.skipFrom false offset text).rest)
      ∧ ∀ (line : List Char) (offset : Nat), '\n' ∉ line →
        Gap ('#' :: (line ++ text))
          (Cursor.skipFrom true offset text).rest from
    ⟨both.1, fun offset => both.2 [] offset List.not_mem_nil⟩
  induction text with
  | nil =>
    refine ⟨fun _ => .stop [], fun line _ inside => ?_⟩
    rw [List.append_nil]
    exact .lastComment inside
  | cons c text step =>
    constructor
    · intro offset
      rw [Cursor.skipFrom, if_neg Bool.false_ne_true]
      split
      · next blank => exact .blank blank (step.1 _)
      · split
        · next same => exact same ▸ step.2 [] _ List.not_mem_nil
        · exact .stop _
    · intro line offset inside
      rw [Cursor.skipFrom, if_pos rfl]
      by_cases same : c = '\n'
      · subst same
        exact .comment inside (step.1 _)
      · rw [decide_eq_true same, List.append_cons]
        refine step.2 (line ++ [c]) _ ?_
        simpa [Ne.symm same] using inside

theorem gap_skipBlank (cursor : Cursor) :
    Gap cursor.rest cursor.skipBlank.rest :=
  (gap_skipFrom cursor.rest).1 cursor.offset

/-! ## Strings, numbers and words -/

theorem chars_of_stringBody {quote : Char} {start offset : Nat}
    {text chars : List Char} {after : Cursor}
    (read : stringBody quote start offset text = .ok (chars, after)) :
    Chars quote text chars after.rest := by
  fun_induction stringBody quote start offset text generalizing chars with
  | case1 => exact absurd read (by simp)
  | case2 =>
    obtain ⟨rfl, rfl⟩ := Prod.mk.inj (Except.ok.inj read)
    exact .close _
  | case3 => exact absurd read (by simp)
  | case4 => exact absurd read (by simp)
  | case5 _ _ _ _ _ _ _ known _ step =>
    rcases exists_of_map read with ⟨found, inner, rfl⟩
    exact .unicode known (step inner)
  | case6 => exact absurd read (by simp)
  | case7 _ _ _ _ short _ step =>
    rcases exists_of_map read with ⟨found, inner, rfl⟩
    exact .escape short (step inner)
  | case8 => exact absurd read (by simp)
  | case9 _ _ _ notQuote noEscape noNewline step =>
    rcases exists_of_map read with ⟨found, inner, rfl⟩
    exact .plain notQuote noEscape noNewline (step inner)

theorem run_takeRun (test : Char → Bool) (text : List Char) :
    Run test text (text.takeWhile test) (text.dropWhile test) where
  split := List.takeWhile_append_dropWhile.symm
  inside := List.all_eq_true.1 List.all_takeWhile
  outside := by
    intro c first
    have stops := List.head?_dropWhile_not test text
    rwa [show (text.dropWhile test).head? = some c from first] at stops

theorem spelled_of_number {cursor after : Cursor} {value : Json.Number}
    (read : number cursor = .ok (value, after)) :
    ∃ run, Run isNumberChar cursor.rest run after.rest ∧
      numberValue? (run.filter (· ≠ '_')) = some value := by
  rw [number, Cursor.takeRun] at read
  dsimp only at read
  split at read
  · next known =>
    obtain ⟨rfl, rfl⟩ := Prod.mk.inj (Except.ok.inj read)
    exact ⟨_, run_takeRun isNumberChar cursor.rest, known⟩
  · exact absurd read (by simp)

theorem spelled_of_word {cursor after : Cursor} {value : Json}
    (read : word cursor = .ok (value, after)) :
    ∃ run, Run isWordPart cursor.rest run after.rest ∧
      wordValue? run = some value := by
  rw [word, Cursor.takeRun] at read
  dsimp only at read
  split at read
  · next known =>
    obtain ⟨rfl, rfl⟩ := Prod.mk.inj (Except.ok.inj read)
    exact ⟨_, run_takeRun isWordPart cursor.rest, known⟩
  · exact absurd read (by simp)

theorem chars_of_string {quote : Char} {cursor after : Cursor}
    {value : String} (read : string quote cursor = .ok (value, after)) :
    ∃ chars, Chars quote (cursor.rest.drop 1) chars after.rest ∧
      String.ofList chars = value := by
  rcases exists_of_map read with ⟨chars, inner, same⟩
  exact ⟨chars, chars_of_stringBody inner, same⟩

/-! ## Lists and mappings -/

theorem rest_of_takeClose? {close : Char} {cursor after : Cursor}
    (taken : takeClose? close cursor = some after) :
    cursor.rest = close :: after.rest := by
  rw [takeClose?] at taken
  split at taken
  · exact absurd taken (by simp)
  · next c rest split =>
    split at taken
    · next same =>
      obtain rfl := Option.some.inj taken
      rw [split, same]
    · exact absurd taken (by simp)

/-- Behind an item stands a comma, which is passed, or the closing bracket. -/
theorem gap_of_takeSeparator {close : Char} {unterminated : LiteralError}
    {cursor next : Cursor}
    (taken : takeSeparator close unterminated cursor = .ok next) :
    Gap cursor.rest (',' :: next.rest) ∨
      next = cursor.skipBlank ∧
        ∃ rest, Gap cursor.rest (close :: rest) ∧
          next.rest = close :: rest := by
  have gap := gap_skipBlank cursor
  rw [takeSeparator] at taken
  split at taken
  · exact absurd taken (by simp)
  · next c rest split =>
    rw [split] at gap
    split at taken
    · next same =>
      obtain rfl := Except.ok.inj taken
      exact Or.inl (same ▸ gap)
    · split at taken
      · next same =>
        obtain rfl := Except.ok.inj taken
        subst same
        exact Or.inr ⟨rfl, rest, gap, split⟩
      · exact absurd taken (by simp)

section Items

variable {α : Type} {unterminated : LiteralError}
  {item : Cursor → Reading α} {spelling : Spelling α} {close : Char}

/-- At a closing bracket the items end. -/
theorem itemsUpTo_at_close (closing : close ∈ closings) {steps : Nat}
    {cursor after : Cursor} {rest : List Char} {values : List α}
    (stands : cursor.rest = close :: rest)
    (read : itemsUpTo unterminated item close steps cursor =
      .ok (values, after)) : values = [] ∧ after.rest = rest := by
  cases steps with
  | zero => exact absurd read (by simp [itemsUpTo])
  | succ steps =>
    obtain ⟨offset, text⟩ := cursor
    obtain rfl : text = close :: rest := stands
    rcases itemsUpTo_close unterminated item closing
      (Gap.stop (close :: rest)) steps offset with ⟨offset', closed⟩
    rw [closed] at read
    obtain ⟨rfl, rfl⟩ := Prod.mk.inj (Except.ok.inj read)
    exact ⟨rfl, rfl⟩

theorem Inverts.items (inverts : Inverts item spelling)
    (closing : close ∈ closings) (steps : Nat) :
    ∀ ⦃cursor : Cursor⦄ ⦃values : List α⦄ ⦃after : Cursor⦄,
      itemsUpTo unterminated item close steps cursor = .ok (values, after) →
        Items spelling close cursor.rest values after.rest := by
  induction steps with
  | zero => exact fun _ _ _ read => absurd read (by simp [itemsUpTo])
  | succ steps step =>
    intro cursor values after read
    have before := gap_skipBlank cursor
    rw [itemsUpTo] at read
    dsimp only at read
    split at read
    · next closed =>
      obtain ⟨rfl, rfl⟩ := Prod.mk.inj (Except.ok.inj read)
      rw [rest_of_takeClose? closed] at before
      exact .close before
    · split at read
      · exact absurd read (by simp)
      · next found =>
        rcases inverts found with ⟨start, gap, spelled⟩
        split at read
        · exact absurd read (by simp)
        · next separated =>
          rcases exists_of_map read with ⟨others, inner, rfl⟩
          rcases gap_of_takeSeparator separated with
            behind | ⟨-, rest, behind, stands⟩
          · exact .more (before.trans gap) spelled behind (step inner)
          · obtain ⟨rfl, rfl⟩ := itemsUpTo_at_close closing stands inner
            exact .last (before.trans gap) spelled behind

end Items

theorem gap_of_takeColon {cursor after : Cursor}
    (taken : takeColon cursor = .ok after) :
    Gap cursor.rest (':' :: after.rest) := by
  have gap := gap_skipBlank cursor
  rw [takeColon] at taken
  split at taken
  · exact absurd taken (by simp)
  · next c rest split =>
    rw [split] at gap
    split at taken
    · next same =>
      obtain rfl := Except.ok.inj taken
      exact same ▸ gap
    · exact absurd taken (by simp)

theorem Inverts.entry {item : Cursor → Reading Json}
    {spelling : Spelling Json} (inverts : Inverts item spelling) :
    Inverts (entry item) (Entry spelling) := by
  intro cursor value after read
  rw [Literal.entry] at read
  split at read
  · exact absurd read (by simp)
  · next key =>
    split at read
    · exact absurd read (by simp)
    · next named =>
      split at read
      · exact absurd read (by simp)
      · next colon =>
        rcases exists_of_map read with ⟨found, inner, rfl⟩
        rcases inverts key with ⟨start, before, spelled⟩
        rcases inverts inner with ⟨start', before', spelled'⟩
        exact ⟨start, before,
          .mk spelled named (gap_of_takeColon colon) before' spelled'⟩

/-! ## Values -/

/-- Each value that is read is spelled within the levels that were left. -/
theorem inverts_value (levels : Nat) :
    Inverts (value levels) (Spells levels) := by
  induction levels with
  | zero => exact fun _ _ _ read => absurd read (by simp [value])
  | succ levels step =>
    intro cursor result after read
    have gap := gap_skipBlank cursor
    rw [value] at read
    dsimp only at read
    split at read
    · exact absurd read (by simp)
    · next c rest split =>
      rw [split] at gap
      refine ⟨_, gap, ?_⟩
      rw [mappingItems_eq, listItems_eq, listItems_eq] at read
      split_ifs at read with brace bracket paren quoted starts letter
      · subst brace
        rcases @exists_of_map _ _ _
          (fun entries => Json.record (Keyed.ofList entries).entries) _ _
          read with ⟨entries, inner, rfl⟩
        exact .record (step.entry.items (by decide) _ inner)
      · subst bracket
        rcases exists_of_map read with ⟨items, inner, rfl⟩
        exact .list (step.items (by decide) _ inner)
      · subst paren
        rcases exists_of_map read with ⟨items, inner, rfl⟩
        exact .tuple (step.items (by decide) _ inner)
      · rcases exists_of_map read with ⟨text, inner, rfl⟩
        rcases chars_of_string inner with ⟨chars, spelled, rfl⟩
        rw [split] at spelled
        exact .text quoted spelled
      · rcases exists_of_map read with ⟨number, inner, rfl⟩
        rcases spelled_of_number inner with ⟨run, spelled, known⟩
        rw [split] at spelled
        exact .number starts spelled known
      · rcases spelled_of_word read with ⟨run, spelled, known⟩
        rw [split] at spelled
        exact .word spelled known

/-- A text is read as a value just when the value is spelled between gaps. -/
theorem read_iff_spells {text : List Char} {value : Json} :
    read text = .ok value ↔ ∃ start rest, Gap text start ∧
      Spells maxLevels start value rest ∧ Gap rest [] := by
  constructor
  · intro found
    rw [read] at found
    split at found
    · exact absurd found (by simp)
    · next result after inner =>
      rcases inverts_value maxLevels inner with ⟨start, before, spelled⟩
      have behind := gap_skipBlank after
      dsimp only at found
      split at found
      · next ends =>
        obtain rfl := Except.ok.inj found
        rw [List.isEmpty_iff.1 ends] at behind
        exact ⟨start, after.rest, before, spelled, behind⟩
      · exact absurd found (by simp)
  · rintro ⟨start, rest, before, spelled, behind⟩
    exact read_of_spells before spelled behind

end ModuleAtlas.Literal
