import ModuleAtlas.Proofs.Literal.Derivation

/-!
# What the reader takes

Nothing that may stand behind a token goes on a number or a word: a gap, a
separator, a closing bracket, or the end of the text.  So whatever is derived is
spelled in the grammar of the reader, one level for each level of the value, and
the reader takes just the texts that are derived, with their values.
-/

namespace ModuleAtlas.Literal

/-! ## Ends of tokens -/

/-- No number and no word goes on at the start of a text. -/
def Stops (text : List Char) : Prop :=
  ∀ c ∈ text.head?, isNumberChar c = false ∧ isWordPart c = false

theorem stops_nil : Stops [] := fun _ absent => absurd absent (by simp)

theorem stops_cons {c : Char}
    (stops : isNumberChar c = false ∧ isWordPart c = false)
    (text : List Char) : Stops (c :: text) := by
  intro first same
  obtain rfl := Option.some.inj same
  exact stops

/-- The code points of the blank characters. -/
def blankCodes : List Nat :=
  List.range' 9 5 ++ List.range' 0x2000 11 ++
    [0x20, 0x85, 0xA0, 0x1680, 0x2028, 0x2029, 0x202F, 0x205F, 0x3000]

theorem mem_blankCodes {c : Char} (blank : Text.isBlank c = true) :
    c.toNat ∈ blankCodes := by
  simp only [Text.isBlank, Bool.or_eq_true, Bool.and_eq_true,
    decide_eq_true_eq] at blank
  simp only [blankCodes, List.mem_append, List.mem_range'_1, List.mem_cons,
    List.not_mem_nil, or_false]
  omega

theorem stops_blank {c : Char} (blank : Text.isBlank c = true)
    (text : List Char) : Stops (c :: text) := by
  have every : ∀ code ∈ blankCodes,
      isNumberChar (Char.ofNat code) = false ∧
        isWordPart (Char.ofNat code) = false :=
    List.all_iff_forall_prop.mp (by decide +kernel)
  have stops := every c.toNat (mem_blankCodes blank)
  rw [Char.ofNat_toNat] at stops
  exact stops_cons stops text

/-- The characters behind a token that start no blank. -/
def delimiters : List Char := ['#', ',', ':', ']', ')', '}']

theorem stops_delimiter {c : Char} (member : c ∈ delimiters)
    (text : List Char) : Stops (c :: text) := by
  have every : ∀ c ∈ delimiters,
      isNumberChar c = false ∧ isWordPart c = false :=
    List.all_iff_forall_prop.mp (by decide +kernel)
  exact stops_cons (every c member) text

namespace Space

variable {space : List Char} (spaced : Space space) (rest : List Char)

include spaced

theorem gap : Gap (space ++ rest) rest := by
  induction spaced with
  | none => exact .stop rest
  | blank blank _ step => exact .blank blank step
  | comment inside _ step =>
    rw [List.cons_append, List.append_assoc, List.cons_append]
    exact .comment inside step

theorem stops {rest : List Char} (behind : Stops rest) :
    Stops (space ++ rest) := by
  cases spaced with
  | none => exact behind
  | blank blank => exact stops_blank blank _
  | comment => exact stops_delimiter (by decide) _

end Space

theorem Gap.stops {text : List Char} (gap : Gap text []) : Stops text := by
  cases gap with
  | stop => exact stops_nil
  | blank blank => exact stops_blank blank _
  | comment | lastComment => exact stops_delimiter (by decide) _

/-! ## What is derived is spelled -/

theorem hexNumber?_digits {digits : List Char}
    (hexadecimal : ∀ digit ∈ digits, Text.isHexDigit digit = true) :
    hexNumber? digits = some (Text.numberOf 16 digits) := by
  unfold hexNumber?
  split
  · next rest =>
    exact absurd (hexadecimal '+' List.mem_cons_self) (by decide)
  · rw [if_pos (List.all_eq_true.mpr hexadecimal)]

theorem scalar?_toNat (c : Char) : Text.scalar? c.toNat = some c := by
  have valid : c.toNat.isValidChar := c.valid
  rw [Text.scalar?, dif_pos valid]
  exact congrArg some (Char.ext (UInt32.ofNat_toNat))

theorem Stands.chars {quote c : Char} {piece : List Char}
    (stands : Stands quote c piece) {text chars rest : List Char}
    (behind : Chars quote text chars rest) :
    Chars quote (piece ++ text) (c :: chars) rest := by
  cases stands with
  | raw notQuote noEscape noNewline =>
    exact .plain notQuote noEscape noNewline behind
  | newline | tab | carriageReturn | nul =>
    exact Chars.escape (by decide) behind
  | itself other =>
    simp only [List.mem_cons, List.not_mem_nil, or_false, not_or] at other
    obtain ⟨noNewline, noTab, noReturn, noNul, short⟩ := other
    have plain : escaped c = c := by
      simp [escaped, noNewline, noTab, noReturn, noNul]
    have spelled := Chars.escape short behind
    rwa [plain] at spelled
  | @code _ digits four hexadecimal same =>
    obtain ⟨digit₁, digit₂, digit₃, digit₄, rfl⟩ :=
      List.length_eq_four.mp four
    refine .unicode ?_ behind
    rw [hexNumber?_digits hexadecimal, same, Option.bind_some, scalar?_toNat]

/-- Characters that each stand as some piece stand as all the pieces. -/
theorem chars_of_pieces {quote : Char} {stands : Char → List Char → Prop}
    (each : ∀ {c : Char} {piece : List Char}, stands c piece →
      ∀ {text chars rest : List Char}, Chars quote text chars rest →
        Chars quote (piece ++ text) (c :: chars) rest)
    {value : List Char} {pieces : List (List Char)}
    (pieced : List.Forall₂ stands value pieces) (rest : List Char) :
    Chars quote (pieces.flatten ++ quote :: rest) value rest := by
  induction pieced with
  | nil => exact .close rest
  | cons stands _ step =>
    rw [List.flatten_cons, List.append_assoc]
    exact each stands step

theorem hexNumber?_plus {digits : List Char}
    (hexadecimal : ∀ digit ∈ digits, Text.isHexDigit digit = true) :
    hexNumber? ('+' :: digits) = some (Text.numberOf 16 digits) :=
  if_pos (List.all_eq_true.2 hexadecimal)

theorem Stood.chars {plus : Prop} {quote c : Char} {piece : List Char}
    (stood : Stood plus quote c piece) {text chars rest : List Char}
    (behind : Chars quote text chars rest) :
    Chars quote (piece ++ text) (c :: chars) rest := by
  cases stood with
  | strict stands => exact stands.chars behind
  | @plus digits _ three hexadecimal same =>
    obtain ⟨digit₁, digit₂, digit₃, rfl⟩ := List.length_eq_three.1 three
    refine .unicode ?_ behind
    rw [hexNumber?_plus hexadecimal, same, Option.bind_some, scalar?_toNat]

theorem Quotation.spelled {plus : Prop} {value : String} {text : List Char}
    (quotation : Quotation plus value text) (item : Spelling Json)
    (rest : List Char) : Value item (text ++ rest) (.text value) rest := by
  cases quotation with
  | mk quoted stood =>
    have spelled : Value item _ _ rest :=
      .text quoted (chars_of_pieces Stood.chars stood rest)
    rw [String.ofList_toList] at spelled
    simpa using spelled

theorem NumberStands.spelled {value : Json.Number} {text : List Char}
    (stands : NumberStands value text) (item : Spelling Json)
    {rest : List Char} (stops : Stops rest) :
    Value item (text ++ rest) (.number value) rest := by
  have inside := stands.inside
  cases stands with
  | mk starts spelled =>
    exact .number starts ⟨rfl, inside, fun c first => (stops c first).1⟩
      (numberValue?_eq_some.2 spelled)

theorem KeyStands.spelled {plus : Prop} {name : String} {text : List Char}
    (stands : KeyStands plus name text) (item : Spelling Json)
    {rest : List Char} (stops : Stops rest) :
    ∃ key, Value item (text ++ rest) key rest ∧ keyText key = .ok name := by
  cases stands with
  | text quotation => exact ⟨_, quotation.spelled item rest, rfl⟩
  | number stands => exact ⟨_, stands.spelled item stops, rfl⟩

theorem Field.Stands.spelled {plus : Prop} {field : Field}
    (stands : field.Stands plus) {levels : Nat} {behind : List Char}
    (inner : Spells (levels + 1) (field.text ++ behind) field.value behind) :
    Entry (Spells (levels + 1)) (field.chars ++ behind) field.row behind := by
  have colon : Stops (field.beforeColon ++
      ':' :: (field.behindColon ++ (field.text ++ behind))) :=
    stands.beforeColon.stops (stops_delimiter (by decide) _)
  rcases stands.key.spelled (Spells levels) colon with ⟨key, spelled, named⟩
  have entry : Entry (Spells (levels + 1)) _ field.row behind :=
    .mk spelled named (stands.beforeColon.gap _) (stands.behindColon.gap _)
      inner
  simpa [Field.chars] using entry

theorem word_spelled {word : String} {value : Json}
    (known : wordValue? word.toList = some value) (item : Spelling Json)
    {rest : List Char} (stops : Stops rest) :
    Value item (word.toList ++ rest) value rest := by
  have every : ∀ word ∈ words, word.all isWordPart = true :=
    List.all_iff_forall_prop.mp (by decide +kernel)
  exact .word ⟨rfl, List.all_eq_true.mp (every _ (mem_words known)),
    fun c first => (stops c first).2⟩ known

/-- Separated items are the items of a list or a mapping, when each of them is
spelled in front of all that stops tokens. -/
theorem items_of_separated {α β : Type} {spelling : Spelling α}
    (chars : β → List Char) (value : β → α) {close : Char}
    (closing : close ∈ closings) (rest : List Char) {items : List β}
    {inside : List Char}
    (each : ∀ item ∈ items, ∀ behind, Stops behind →
      spelling (chars item ++ behind) (value item) behind)
    (separated : Separated (items.map chars) inside) :
    Items spelling close (inside ++ close :: rest) (items.map value) rest := by
  have delimits : ∀ c ∈ closings, c ∈ delimiters :=
    List.all_iff_forall_prop.mp (by decide)
  have stops := stops_delimiter (delimits close closing) rest
  generalize texts : items.map chars = spelled at separated
  induction separated generalizing items with
  | none space =>
    obtain rfl := List.map_eq_nil_iff.mp texts
    exact .close (space.gap _)
  | last before behind =>
    obtain ⟨item, rfl, rfl⟩ := List.map_eq_singleton_iff.mp texts
    have spelled := each item List.mem_cons_self _ (behind.stops stops)
    simpa using Items.last (before.gap _) spelled (behind.gap _)
  | @more front _ back text _ before behind _ step =>
    obtain ⟨item, others, rfl, rfl, rfl⟩ := List.map_eq_cons_iff.mp texts
    rw [List.forall_mem_cons] at each
    have spelled := each.1 _
      (behind.stops (stops_delimiter (c := ',') (by decide)
        (text ++ close :: rest)))
    simpa using Items.more (before.gap _) spelled (behind.gap _)
      (step each.2 rfl)

theorem ofList_entries_eq {entries rows : List (String × Json)}
    (ascending : Ascending rows)
    (last : ∀ name, lookupRow name rows = lookupRow name entries.reverse) :
    (Keyed.ofList entries).entries = rows :=
  rows_ext (Keyed.ascending _) ascending fun name =>
    (lookupRow_ofList name entries).trans (last name).symm

/-- Where something stands deeper, there is a level for it. -/
theorem exists_level_below {α : Type} {items : List α}
    {inner depth levels : Nat} (deeper : items = [] ∨ inner < depth)
    (shallow : depth ≤ levels) {item : α} (member : item ∈ items) :
    ∃ fewer, levels = fewer + 1 ∧ inner ≤ fewer := by
  have room := deeper.resolve_left (List.ne_nil_of_mem member)
  exact ⟨levels - 1, by omega, by omega⟩

/-- What is derived with a depth is spelled within one level more, in front of
all that stops tokens. -/
theorem Derives.spells {plus : Prop} {depth : Nat} {value : Json}
    {text : List Char} (derived : Derives plus depth value text)
    {levels : Nat} (shallow : depth ≤ levels) {rest : List Char}
    (stops : Stops rest) :
    Spells (levels + 1) (text ++ rest) value rest := by
  induction derived generalizing levels rest with
  | null member | true member | false member =>
    refine word_spelled ?_ _ stops
    rcases List.mem_pair.1 member with rfl | rfl <;> rfl
  | number stands => exact stands.spelled _ stops
  | text quotation => exact quotation.spelled _ rest
  | @list depth inner opening closing items inside brackets deeper _ separated
      step =>
    have closes : closing ∈ closings := by
      rcases List.mem_pair.1 brackets with same | same <;>
        obtain ⟨rfl, rfl⟩ := Prod.mk.inj same <;> decide
    have parts : Items (Spells levels) closing (inside ++ closing :: rest)
        (items.map Prod.fst) rest := by
      refine items_of_separated Prod.snd _ closes rest ?_ separated
      intro item member behind ends
      rcases exists_level_below deeper shallow member with ⟨fewer, rfl, room⟩
      exact step item member room ends
    rw [List.cons_append, List.append_assoc]
    rcases List.mem_pair.1 brackets with same | same
    · obtain ⟨rfl, rfl⟩ := Prod.mk.inj same
      exact Value.list parts
    · obtain ⟨rfl, rfl⟩ := Prod.mk.inj same
      exact Value.tuple parts
  | @mapping depth inner fields rows inside deeper stands _ separated ascending
      last step =>
    have parts : Items (Entry (Spells levels)) '}' (inside ++ '}' :: rest)
        (fields.map Field.row) rest := by
      refine items_of_separated Field.chars _ (by decide) rest ?_ separated
      intro field member behind ends
      rcases exists_level_below deeper shallow member with ⟨fewer, rfl, room⟩
      exact (stands field member).spelled (step field member room ends)
    rw [List.cons_append, List.append_assoc,
      ← ofList_entries_eq ascending last]
    exact Value.record parts

/-- The reader takes just the texts that are derived when a plus is allowed. -/
theorem read_iff_literally {text : List Char} {value : Json} :
    read text = .ok value ↔ Literally True value text := by
  rw [read_iff_spells]
  constructor
  · rintro ⟨start, rest, before, spelled, behind⟩
    have more := List.ne_nil_of_length_pos
      (Nat.zero_lt_of_lt (proper_spells maxLevels spelled).2)
    rcases before.exists_space more with ⟨space, spaced, rfl⟩
    rcases Spells.exists_derives spelled with ⟨chars, derived, rfl⟩
    exact .mk spaced derived behind
  · rintro ⟨before, derived, behind⟩
    exact ⟨_, _, before.gap _, derived.spells (Nat.le_refl _) behind.stops,
      behind⟩

end ModuleAtlas.Literal
