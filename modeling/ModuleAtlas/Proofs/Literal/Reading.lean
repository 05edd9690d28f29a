import Mathlib.Data.Bool.AllAny
import Mathlib.Tactic.IntervalCases
import ModuleAtlas.Proofs.Literal.Grammar

/-!
# Spelled values are read

The reader finds every value that is spelled in front of a text, and stops
behind the spelling.  Since no spelling starts with a blank, a comment, a
separator or a closing bracket, the look-ahead of lists and mappings never
mistakes an item for their end.
-/

namespace ModuleAtlas.Literal

universe u

/-- A reading gives a value and stops at what is left. -/
def Reads {α : Type} (reading : Reading α) (value : α) (rest : List Char) :
    Prop :=
  ∃ offset, reading = .ok (value, ⟨offset, rest⟩)

theorem Reads.map {α β : Type} {reading : Reading α} {value : α}
    {rest : List Char} (reads : Reads reading value rest) (change : α → β) :
    Reads (reading.map fun (value, cursor) => (change value, cursor))
      (change value) rest := by
  rcases reads with ⟨offset, rfl⟩
  exact ⟨offset, rfl⟩

/-! ## Strings, numbers and words -/

theorem stringBody_plain {quote c : Char} (notQuote : c ≠ quote)
    (noEscape : c ≠ '\\') (noNewline : c ≠ '\n') (start offset : Nat)
    (text : List Char) :
    stringBody quote start offset (c :: text) =
      prepend c (stringBody quote start (offset + 1) text) := by
  rw [stringBody.eq_def]
  simp only [if_neg notQuote, if_neg noEscape, if_neg noNewline]

theorem stringBody_escape {quote letter : Char} (notQuote : quote ≠ '\\')
    (short : letter ≠ 'u') (start offset : Nat) (text : List Char) :
    stringBody quote start offset ('\\' :: letter :: text) =
      prepend (escaped letter)
        (stringBody quote start (offset + 2) text) := by
  rw [stringBody.eq_def]
  simp only [if_neg notQuote.symm, if_true]
  split
  · next same => exact absurd same (by simp)
  · next same => exact absurd (List.cons.inj same).1 short
  · next same => exact absurd (List.cons.inj same).1 short
  · next same =>
    obtain ⟨rfl, rfl⟩ := List.cons.inj same
    rfl

theorem stringBody_unicode {quote digit₁ digit₂ digit₃ digit₄ : Char}
    (notQuote : quote ≠ '\\') (start offset : Nat) (text : List Char) :
    stringBody quote start offset
        ('\\' :: 'u' :: digit₁ :: digit₂ :: digit₃ :: digit₄ :: text) =
      match (hexNumber? [digit₁, digit₂, digit₃, digit₄]).bind
          Text.scalar? with
      | none => .error (.invalidUnicode [digit₁, digit₂, digit₃, digit₄])
      | some c => prepend c (stringBody quote start (offset + 6) text) := by
  rw [stringBody.eq_def]
  cases known : (hexNumber? [digit₁, digit₂, digit₃, digit₄]).bind
      Text.scalar? with
  | none => simp only [if_neg notQuote.symm, if_true, known]
  | some c => simp only [if_neg notQuote.symm, if_true, known]

theorem reads_stringBody {quote : Char} (notEscape : quote ≠ '\\')
    {text chars rest : List Char} (spelled : Chars quote text chars rest)
    (start offset : Nat) :
    Reads (stringBody quote start offset text) chars rest := by
  induction spelled generalizing offset with
  | close rest => exact ⟨offset + 1, by rw [stringBody.eq_def]; simp⟩
  | plain notQuote noEscape noNewline _ step =>
    rw [stringBody_plain notQuote noEscape noNewline]
    exact (step _).map _
  | escape short _ step =>
    rw [stringBody_escape notEscape short]
    exact (step _).map _
  | unicode known _ step =>
    rw [stringBody_unicode notEscape, known]
    exact (step _).map _

theorem takeRun_run {test : Char → Bool} {text run rest : List Char}
    (spelled : Run test text run rest) (offset : Nat) :
    Cursor.takeRun test ⟨offset, text⟩ =
      (run, ⟨offset + run.length, rest⟩) := by
  obtain ⟨rfl, inside, outside⟩ := spelled
  have stops : rest.takeWhile test = [] ∧ rest.dropWhile test = rest := by
    cases rest with
    | nil => exact ⟨rfl, rfl⟩
    | cons c rest => simp [outside c rfl]
  simp [Cursor.takeRun, List.takeWhile_append_of_pos inside,
    List.dropWhile_append_of_pos inside, stops]

theorem reads_number {text run rest : List Char} {value : Json.Number}
    (spelled : Run isNumberChar text run rest)
    (known : numberValue? (run.filter (· ≠ '_')) = some value)
    (offset : Nat) : Reads (number ⟨offset, text⟩) value rest :=
  ⟨offset + run.length, by
    simp only [number, takeRun_run spelled, known]⟩

theorem reads_word {text run rest : List Char} {value : Json}
    (spelled : Run isWordPart text run rest)
    (known : wordValue? run = some value) (offset : Nat) :
    Reads (word ⟨offset, text⟩) value rest :=
  ⟨offset + run.length, by simp only [word, takeRun_run spelled, known]⟩

/-! ## First characters -/

/-- A character that can start a value. -/
def Begins (c : Char) : Prop :=
  Text.isBlank c = false ∧ c ∉ ['#', ',', ':', ']', ')', '}']

instance (c : Char) : Decidable (Begins c) :=
  inferInstanceAs (Decidable (_ ∧ _))

theorem Begins.clear {c : Char} (begins : Begins c) (text : List Char) :
    Clear (c :: text) := by
  intro first same
  obtain rfl := Option.some.inj same
  exact ⟨begins.1, fun comment => begins.2 (by simp [comment])⟩

theorem clear_cons {c : Char} {text : List Char}
    (visible : Text.isBlank c = false) (noComment : c ≠ '#') :
    Clear (c :: text) := by
  intro first same
  obtain rfl := Option.some.inj same
  exact ⟨visible, noComment⟩

/-- The characters that can start a number. -/
def numberStarts : List Char :=
  ['-', '+', '0', '1', '2', '3', '4', '5', '6', '7', '8', '9']

theorem mem_numberStarts {c : Char}
    (starts : c = '-' ∨ c = '+' ∨ c.isDigit = true) : c ∈ numberStarts := by
  rcases starts with rfl | rfl | digit
  · decide
  · decide
  · have lower : 48 ≤ c.toNat := by
      simp only [Char.isDigit, Bool.and_eq_true, decide_eq_true_eq] at digit
      exact UInt32.le_iff_toNat_le.1 digit.1
    have upper : c.toNat ≤ 57 := by
      simp only [Char.isDigit, Bool.and_eq_true, decide_eq_true_eq] at digit
      exact UInt32.le_iff_toNat_le.1 digit.2
    rw [← Char.ofNat_toNat c]
    interval_cases c.toNat <;> decide

/-- The six words. -/
def words : List (List Char) :=
  ["True".toList, "true".toList, "False".toList, "false".toList,
    "None".toList, "null".toList]

theorem mem_words {run : List Char} {value : Json}
    (known : wordValue? run = some value) : run ∈ words := by
  unfold wordValue? at known
  split at known
  · next same => rcases same with rfl | rfl <;> decide
  · split at known
    · next same => rcases same with rfl | rfl <;> decide
    · split at known
      · next same => rcases same with rfl | rfl <;> decide
      · exact absurd known (by simp)

/-- The first characters of the six words. -/
def wordStarts : List Char := ['T', 't', 'F', 'f', 'N', 'n']

theorem exists_start_of_word {text run rest : List Char} {value : Json}
    (spelled : Run isWordPart text run rest)
    (known : wordValue? run = some value) :
    ∃ c ∈ wordStarts, ∃ tail, text = c :: tail := by
  obtain ⟨rfl, _, _⟩ := spelled
  have every : ∀ word ∈ words, word.head?.any (· ∈ wordStarts) = true := by
    decide
  have first := every run (mem_words known)
  cases run with
  | nil => exact absurd first (by simp)
  | cons head run => exact ⟨head, by simpa using first, run ++ rest, rfl⟩

/-- Spellings take something, and start with a character that cannot be
mistaken for a gap, a separator or a closing bracket. -/
def Proper {α : Type u} (item : Spelling α) : Prop :=
  ∀ {text rest : List Char} {value : α}, item text value rest →
    (∃ c tail, text = c :: tail ∧ Begins c) ∧ rest.length < text.length

theorem Run.length_lt {test : Char → Bool} {c : Char}
    {text run rest : List Char} (spelled : Run test (c :: text) run rest)
    (inside : test c = true) : rest.length < (c :: text).length := by
  obtain ⟨split, _, outside⟩ := spelled
  cases run with
  | nil =>
    rw [List.nil_append] at split
    have stops := outside c (by rw [← split]; rfl)
    exact absurd (inside.symm.trans stops) (by decide)
  | cons head run =>
    rw [split, List.length_append, List.length_cons]
    omega

theorem Chars.length_lt {quote : Char} {text chars rest : List Char}
    (spelled : Chars quote text chars rest) : rest.length < text.length := by
  induction spelled with
  | close => exact Nat.lt_succ_self _
  | plain _ _ _ _ step => exact Nat.lt_succ_of_lt step
  | escape _ _ step | unicode _ _ step =>
    simp only [List.length_cons]
    omega

theorem Items.length_lt {α : Type u} {item : Spelling α}
    (proper : Proper item) {close : Char} {text rest : List Char}
    {values : List α} (spelled : Items item close text values rest) :
    rest.length < text.length := by
  induction spelled with
  | close gap => exact gap.length_le
  | last before spelled behind =>
    have shorter := (proper spelled).2
    have first := before.length_le
    have second := behind.length_le
    rw [List.length_cons] at second
    omega
  | more before spelled behind _ step =>
    have shorter := (proper spelled).2
    have first := before.length_le
    have second := behind.length_le
    rw [List.length_cons] at second
    omega

theorem Proper.entry {item : Spelling Json} (proper : Proper item) :
    Proper (Entry item) := by
  intro text rest value spelled
  cases spelled with
  | mk key _ colon before value =>
    refine ⟨(proper key).1, ?_⟩
    have first := (proper key).2
    have second := colon.length_le
    have third := before.length_le
    have fourth := (proper value).2
    rw [List.length_cons] at second
    omega

theorem Proper.value {item : Spelling Json} (proper : Proper item) :
    Proper (Value item) := by
  intro text rest value spelled
  cases spelled with
  | record entries =>
    exact ⟨⟨_, _, rfl, by decide⟩,
      Nat.lt_succ_of_lt (entries.length_lt proper.entry)⟩
  | list items | tuple items =>
    exact ⟨⟨_, _, rfl, by decide⟩, Nat.lt_succ_of_lt (items.length_lt proper)⟩
  | text quoted chars =>
    refine ⟨⟨_, _, rfl, ?_⟩, Nat.lt_succ_of_lt chars.length_lt⟩
    rcases quoted with rfl | rfl <;> decide
  | number starts run known =>
    have begins : ∀ c ∈ numberStarts, Begins c ∧ isNumberChar c = true :=
      List.all_iff_forall_prop.mp (by decide)
    have first := begins _ (mem_numberStarts starts)
    exact ⟨⟨_, _, rfl, first.1⟩, run.length_lt first.2⟩
  | word run known =>
    have begins : ∀ c ∈ wordStarts, Begins c ∧ isWordPart c = true :=
      List.all_iff_forall_prop.mp (by decide +kernel)
    rcases exists_start_of_word run known with ⟨c, member, tail, rfl⟩
    have first := begins c member
    exact ⟨⟨c, tail, rfl, first.1⟩, run.length_lt first.2⟩

theorem proper_spells (levels : Nat) : Proper (Spells levels) := by
  induction levels with
  | zero => exact fun spelled => False.elim spelled
  | succ levels step => exact step.value

/-! ## Lists and mappings -/

section Items

variable {α : Type} (unterminated : LiteralError)
  (item : Cursor → Reading α) (close : Char)

/-- The items up to a closing bracket, of a list or a mapping. -/
def itemsUpTo : Nat → Cursor → Reading (List α)
  | 0, _ => .error unterminated
  | steps + 1, cursor =>
    let cursor := cursor.skipBlank
    match takeClose? close cursor with
    | some after => .ok ([], after)
    | none =>
      match item cursor with
      | .error failure => .error failure
      | .ok (value, after) =>
        match takeSeparator close unterminated after with
        | .error failure => .error failure
        | .ok next =>
          (itemsUpTo steps next).map
            fun (values, final) => (value :: values, final)

end Items

theorem listItems_eq (item : Cursor → Reading Json) (close : Char)
    (steps : Nat) (cursor : Cursor) :
    listItems item close steps cursor =
      itemsUpTo .unterminatedList item close steps cursor := by
  induction steps generalizing cursor with
  | zero => rfl
  | succ steps step =>
    simp only [listItems, itemsUpTo, step]
    cases takeClose? close cursor.skipBlank with
    | some after => rfl
    | none =>
      rcases item cursor.skipBlank with failure | ⟨found, after⟩
      · rfl
      · cases takeSeparator close .unterminatedList after <;> rfl

theorem mappingItems_eq (item : Cursor → Reading Json) (steps : Nat)
    (cursor : Cursor) :
    mappingItems item steps cursor =
      itemsUpTo .unterminatedMapping (entry item) '}' steps cursor := by
  induction steps generalizing cursor with
  | zero => rfl
  | succ steps step =>
    simp only [mappingItems, itemsUpTo, step]
    cases takeClose? '}' cursor.skipBlank with
    | some after => rfl
    | none =>
      rcases entry item cursor.skipBlank with failure | ⟨found, after⟩
      · rfl
      · cases takeSeparator '}' .unterminatedMapping after <;> rfl

/-- The brackets that close a list or a mapping. -/
def closings : List Char := [']', ')', '}']

section Items

variable {α : Type} (unterminated : LiteralError)
  (item : Cursor → Reading α) {close : Char}

theorem takeSeparator_comma (close : Char) {text next : List Char}
    (gap : Gap text (',' :: next)) (offset : Nat) :
    ∃ offset', takeSeparator close unterminated ⟨offset, text⟩ =
      .ok ⟨offset', next⟩ := by
  have clear : Clear (',' :: next) := clear_cons (by decide) (by decide)
  rcases skipBlank_gap gap clear offset with ⟨offset', skipped⟩
  exact ⟨offset' + 1, by simp [takeSeparator, skipped]⟩

theorem takeSeparator_close (closing : close ∈ closings)
    {text rest : List Char} (gap : Gap text (close :: rest))
    (offset : Nat) :
    ∃ offset', takeSeparator close unterminated ⟨offset, text⟩ =
      .ok ⟨offset', close :: rest⟩ := by
  have visible : ∀ c ∈ closings,
      Text.isBlank c = false ∧ c ≠ '#' ∧ c ≠ ',' :=
    List.all_iff_forall_prop.mp (by decide)
  obtain ⟨notBlank, noComment, noComma⟩ := visible close closing
  rcases skipBlank_gap gap (clear_cons notBlank noComment) offset with
    ⟨offset', skipped⟩
  exact ⟨offset', by simp [takeSeparator, skipped, noComma]⟩

/-- The items end at the closing bracket. -/
theorem itemsUpTo_close (closing : close ∈ closings)
    {text rest : List Char} (gap : Gap text (close :: rest))
    (steps offset : Nat) :
    Reads (itemsUpTo unterminated item close (steps + 1) ⟨offset, text⟩)
      [] rest := by
  have visible : ∀ c ∈ closings, Text.isBlank c = false ∧ c ≠ '#' :=
    List.all_iff_forall_prop.mp (by decide)
  obtain ⟨notBlank, noComment⟩ := visible close closing
  rcases skipBlank_gap gap (clear_cons notBlank noComment) offset with
    ⟨offset', skipped⟩
  exact ⟨offset' + 1, by simp [itemsUpTo, skipped, takeClose?]⟩

/-- Where an item begins, it is read, and then what is behind it. -/
theorem itemsUpTo_item (closing : close ∈ closings) {c : Char}
    {text tail : List Char} (gap : Gap text (c :: tail))
    (begins : Begins c) (steps offset : Nat) :
    ∃ offset',
      itemsUpTo unterminated item close (steps + 1) ⟨offset, text⟩ =
        match item ⟨offset', c :: tail⟩ with
        | .error failure => .error failure
        | .ok (value, after) =>
          match takeSeparator close unterminated after with
          | .error failure => .error failure
          | .ok next =>
            (itemsUpTo unterminated item close steps next).map
              fun (values, final) => (value :: values, final) := by
  have apart : c ≠ close := by
    rintro rfl
    have blocked : ∀ c ∈ closings, ¬ Begins c :=
      List.all_iff_forall_prop.mp (by decide)
    exact blocked c closing begins
  rcases skipBlank_gap gap (begins.clear tail) offset with
    ⟨offset', skipped⟩
  exact ⟨offset', by simp only [itemsUpTo, skipped, takeClose?, if_neg apart]⟩

variable {item} in
theorem reads_items (closing : close ∈ closings) {spelling : Spelling α}
    (proper : Proper spelling)
    (reads : ∀ {start rest : List Char} {value : α} (offset : Nat),
      spelling start value rest → Reads (item ⟨offset, start⟩) value rest)
    {text rest : List Char} {values : List α}
    (spelled : Items spelling close text values rest) (steps offset : Nat)
    (enough : text.length < steps) :
    Reads (itemsUpTo unterminated item close steps ⟨offset, text⟩)
      values rest := by
  induction spelled generalizing steps offset with
  | close gap =>
    rcases Nat.exists_eq_succ_of_ne_zero (Nat.ne_of_gt
      (Nat.lt_of_le_of_lt (Nat.zero_le _) enough)) with ⟨steps, rfl⟩
    exact itemsUpTo_close unterminated item closing gap steps offset
  | @last _ _ _ rest _ before spelled behind =>
    rcases (proper spelled).1 with ⟨c, tail, rfl, begins⟩
    have first := before.length_le
    rw [List.length_cons] at first
    -- behind the last item the loop runs once more and meets the bracket
    obtain ⟨steps, rfl⟩ : ∃ further, steps = further + 1 + 1 :=
      ⟨steps - 2, by omega⟩
    rcases itemsUpTo_item unterminated item closing before begins (steps + 1)
      offset with ⟨offset', opened⟩
    rcases reads offset' spelled with ⟨offset₁, read⟩
    rcases takeSeparator_close unterminated closing behind offset₁ with
      ⟨offset₂, separated⟩
    rcases itemsUpTo_close unterminated item closing
      (Gap.stop (close :: rest)) steps offset₂ with ⟨offset₃, closed⟩
    exact ⟨offset₃, by rw [opened, read]; simp [separated, closed, Except.map]⟩
  | more before spelled behind _ step =>
    rcases (proper spelled).1 with ⟨c, tail, rfl, begins⟩
    have shorter := (proper spelled).2
    have first := before.length_le
    have second := behind.length_le
    simp only [List.length_cons] at first second shorter
    obtain ⟨steps, rfl⟩ : ∃ further, steps = further + 1 :=
      ⟨steps - 1, by omega⟩
    rcases itemsUpTo_item unterminated item closing before begins steps
      offset with ⟨offset', opened⟩
    rcases reads offset' spelled with ⟨offset₁, read⟩
    rcases takeSeparator_comma unterminated close behind offset₁ with
      ⟨offset₂, separated⟩
    rcases step steps offset₂ (by omega) with ⟨offset₃, others⟩
    exact ⟨offset₃, by rw [opened, read]; simp [separated, others, Except.map]⟩

end Items

theorem takeColon_gap {text next : List Char}
    (gap : Gap text (':' :: next)) (offset : Nat) :
    ∃ offset', takeColon ⟨offset, text⟩ = .ok ⟨offset', next⟩ := by
  have clear : Clear (':' :: next) := clear_cons (by decide) (by decide)
  rcases skipBlank_gap gap clear offset with ⟨offset', skipped⟩
  exact ⟨offset' + 1, by simp [takeColon, skipped]⟩

/-! ## Values -/

theorem skipBlank_clear {text : List Char} (clear : Clear text)
    (offset : Nat) : Cursor.skipBlank ⟨offset, text⟩ = ⟨offset, text⟩ := by
  cases text with
  | nil => rfl
  | cons c text =>
    obtain ⟨visible, noComment⟩ := clear c rfl
    simp [Cursor.skipBlank, Cursor.skipFrom, visible, noComment]

/-- A value is read from behind the gap in front of it. -/
theorem value_skip {text start : List Char} (gap : Gap text start)
    (clear : Clear start) (levels offset : Nat) :
    ∃ offset', value levels ⟨offset, text⟩ =
      value levels ⟨offset', start⟩ := by
  cases levels with
  | zero => exact ⟨0, rfl⟩
  | succ levels =>
    rcases skipBlank_gap gap clear offset with ⟨offset', skipped⟩
    refine ⟨offset', ?_⟩
    rw [value, value]
    simp only [skipped, skipBlank_clear clear]

section Value

variable (levels offset : Nat) (tail : List Char)

theorem value_record :
    value (levels + 1) ⟨offset, '{' :: tail⟩ =
      (itemsUpTo .unterminatedMapping (entry (value levels)) '}'
        (tail.length + 1) ⟨offset + 1, tail⟩).map
        fun (entries, after) =>
          (.record (Keyed.ofList entries).entries, after) := by
  have clear : Clear ('{' :: tail) := clear_cons (by decide) (by decide)
  rw [value]
  simp only [skipBlank_clear clear]
  rw [if_pos trivial, mappingItems_eq]

theorem value_list :
    value (levels + 1) ⟨offset, '[' :: tail⟩ =
      (itemsUpTo .unterminatedList (value levels) ']'
        (tail.length + 1) ⟨offset + 1, tail⟩).map
        fun (items, after) => (.list items, after) := by
  have clear : Clear ('[' :: tail) := clear_cons (by decide) (by decide)
  rw [value]
  simp only [skipBlank_clear clear]
  rw [if_neg (by decide), if_pos trivial, listItems_eq]

theorem value_tuple :
    value (levels + 1) ⟨offset, '(' :: tail⟩ =
      (itemsUpTo .unterminatedList (value levels) ')'
        (tail.length + 1) ⟨offset + 1, tail⟩).map
        fun (items, after) => (.list items, after) := by
  have clear : Clear ('(' :: tail) := clear_cons (by decide) (by decide)
  rw [value]
  simp only [skipBlank_clear clear]
  rw [if_neg (by decide), if_neg (by decide), if_pos trivial, listItems_eq]

theorem value_text {quote : Char} (quoted : quote = '"' ∨ quote = '\'') :
    value (levels + 1) ⟨offset, quote :: tail⟩ =
      (string quote ⟨offset, quote :: tail⟩).map
        fun (text, after) => (.text text, after) := by
  have apart : ∀ c ∈ ['"', '\''], c ≠ '{' ∧ c ≠ '[' ∧ c ≠ '(' ∧
      Text.isBlank c = false ∧ c ≠ '#' :=
    List.all_iff_forall_prop.mp (by decide)
  obtain ⟨noBrace, noBracket, noParen, visible, noComment⟩ :=
    apart quote (by simpa using quoted)
  rw [value]
  simp only [skipBlank_clear (clear_cons visible noComment)]
  rw [if_neg noBrace, if_neg noBracket, if_neg noParen, if_pos quoted]

theorem value_number {c : Char}
    (starts : c = '-' ∨ c = '+' ∨ c.isDigit = true) :
    value (levels + 1) ⟨offset, c :: tail⟩ =
      (number ⟨offset, c :: tail⟩).map
        fun (number, after) => (.number number, after) := by
  have apart : ∀ c ∈ numberStarts, c ≠ '{' ∧ c ≠ '[' ∧ c ≠ '(' ∧
      ¬ (c = '"' ∨ c = '\'') ∧ Text.isBlank c = false ∧ c ≠ '#' :=
    List.all_iff_forall_prop.mp (by decide)
  obtain ⟨noBrace, noBracket, noParen, noQuote, visible, noComment⟩ :=
    apart c (mem_numberStarts starts)
  rw [value]
  simp only [skipBlank_clear (clear_cons visible noComment)]
  rw [if_neg noBrace, if_neg noBracket, if_neg noParen, if_neg noQuote,
    if_pos starts]

theorem value_word {c : Char} (starts : c ∈ wordStarts) :
    value (levels + 1) ⟨offset, c :: tail⟩ = word ⟨offset, c :: tail⟩ := by
  have apart : ∀ c ∈ wordStarts, c ≠ '{' ∧ c ≠ '[' ∧ c ≠ '(' ∧
      ¬ (c = '"' ∨ c = '\'') ∧ ¬ (c = '-' ∨ c = '+' ∨ c.isDigit = true) ∧
      Text.isAlphabetic c = true ∧ Text.isBlank c = false ∧ c ≠ '#' :=
    List.all_iff_forall_prop.mp (by decide +kernel)
  obtain ⟨noBrace, noBracket, noParen, noQuote, noNumber, letter, visible,
    noComment⟩ := apart c starts
  rw [value]
  simp only [skipBlank_clear (clear_cons visible noComment)]
  rw [if_neg noBrace, if_neg noBracket, if_neg noParen, if_neg noQuote,
    if_neg noNumber, if_pos letter]

end Value

/-- A way of spelling is read when its values are, behind a gap. -/
def ReadBy (item : Cursor → Reading Json) (spelling : Spelling Json) : Prop :=
  ∀ {text start rest : List Char} {value : Json} (offset : Nat),
    Gap text start → spelling start value rest →
      Reads (item ⟨offset, text⟩) value rest

theorem reads_entry {item : Cursor → Reading Json}
    {spelling : Spelling Json} (reads : ReadBy item spelling)
    {text rest : List Char} {field : String × Json} (offset : Nat)
    (spelled : Entry spelling text field rest) :
    Reads (entry item ⟨offset, text⟩) field rest := by
  cases spelled with
  | mk key named colon before value =>
    rcases reads offset (.stop text) key with ⟨offset₁, read⟩
    rcases takeColon_gap colon offset₁ with ⟨offset₂, taken⟩
    rcases reads offset₂ before value with ⟨offset₃, final⟩
    exact ⟨offset₃, by simp [entry, read, named, taken, final, Except.map]⟩

theorem reads_value (levels : Nat) :
    ReadBy (value levels) (Spells levels) := by
  induction levels with
  | zero => exact fun _ _ spelled => False.elim spelled
  | succ levels step =>
    intro text start rest result offset gap spelled
    have proper : Proper (Spells levels) := proper_spells levels
    rcases (proper_spells (levels + 1) spelled).1 with
      ⟨c, tail, rfl, begins⟩
    rcases value_skip gap (begins.clear tail) (levels + 1) offset with
      ⟨offset', skipped⟩
    rw [skipped]
    cases spelled with
    | record entries =>
      rw [value_record]
      exact (reads_items _ (by decide) proper.entry
        (fun offset spelled => reads_entry step offset spelled) entries _ _
        (Nat.lt_succ_self _)).map
          fun entries => Json.record (Keyed.ofList entries).entries
    | list items =>
      rw [value_list]
      exact (reads_items _ (by decide) proper
        (fun offset spelled => step offset (.stop _) spelled) items _ _
        (Nat.lt_succ_self _)).map Json.list
    | tuple items =>
      rw [value_tuple]
      exact (reads_items _ (by decide) proper
        (fun offset spelled => step offset (.stop _) spelled) items _ _
        (Nat.lt_succ_self _)).map Json.list
    | text quoted chars =>
      rw [value_text levels offset' tail quoted]
      have noEscape : c ≠ '\\' := by
        rcases quoted with rfl | rfl <;> decide
      exact ((reads_stringBody noEscape chars _ _).map String.ofList).map
        Json.text
    | number starts run known =>
      rw [value_number levels offset' tail starts]
      exact (reads_number run known offset').map Json.number
    | word run known =>
      rcases exists_start_of_word run known with ⟨c, member, tail, same⟩
      obtain ⟨rfl, rfl⟩ := List.cons.inj same
      rw [value_word levels offset' _ member]
      exact reads_word run known offset'

/-- A text that spells a value between gaps is read as the value. -/
theorem read_of_spells {text start rest : List Char} {value : Json}
    (before : Gap text start) (spelled : Spells maxLevels start value rest)
    (behind : Gap rest []) : read text = .ok value := by
  rcases reads_value maxLevels 0 before spelled with ⟨offset, found⟩
  have clear : Clear [] := fun _ absent => absurd absent (by simp)
  rcases skipBlank_gap behind clear offset with ⟨offset', skipped⟩
  simp [read, Cursor.start, found, skipped]

end ModuleAtlas.Literal
