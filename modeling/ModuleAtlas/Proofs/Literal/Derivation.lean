import ModuleAtlas.Proofs.Literal.Dialect
import ModuleAtlas.Proofs.Literal.Inversion
import ModuleAtlas.Proofs.Literal.Numerals

/-!
# Derivations of a literal

A derivation ties a text to its value.  It says which text each part has and
nothing about how the text is read: where tokens end, which bracket is looked
for, or how many levels are left.  A number may be a key, and is named by its
text.  Nothing stands deeper than the depth that is allowed.

The reader has one slip.  A plus is taken for the first of the four digits of a
code.  So the derivations leave open whether it may stand there.  With it, all
that the reader's grammar spells is derived.
-/

namespace ModuleAtlas.Literal

/-- How a character may stand in a string between two such quotes; a code of
three digits behind a plus, only where it is allowed. -/
inductive Stood (plus : Prop) (quote : Char) : Char → List Char → Prop where
  | strict {c : Char} {piece : List Char} :
      Stands quote c piece → Stood plus quote c piece
  | plus {c : Char} {digits : List Char} :
      plus → digits.length = 3 →
      (∀ digit ∈ digits, Text.isHexDigit digit = true) →
      Text.numberOf 16 digits = c.toNat →
      Stood plus quote c ('\\' :: 'u' :: '+' :: digits)

/-- A string between two quotes of one kind. -/
inductive Quotation (plus : Prop) : String → List Char → Prop where
  | mk {quote : Char} {value : String} {pieces : List (List Char)} :
      quote = '"' ∨ quote = '\'' →
      List.Forall₂ (Stood plus quote) value.toList pieces →
      Quotation plus value (quote :: (pieces.flatten ++ [quote]))

/-- A key of a mapping with its name. -/
inductive KeyStands (plus : Prop) : String → List Char → Prop where
  | text {name : String} {text : List Char} :
      Quotation plus name text → KeyStands plus name text
  | number {value : Json.Number} {text : List Char} :
      NumberStands value text →
      KeyStands plus (Json.number value).compact text

/-- An entry of a mapping with its text. -/
structure Field where
  name : String
  key : List Char
  beforeColon : List Char
  behindColon : List Char
  value : Json
  text : List Char

namespace Field

def row (field : Field) : String × Json := (field.name, field.value)

/-- The text of an entry. -/
def chars (field : Field) : List Char :=
  field.key ++ (field.beforeColon
    ++ ':' :: (field.behindColon ++ field.text))

/-- The key stands there, and its colon between spaces. -/
structure Stands (plus : Prop) (field : Field) : Prop where
  key : KeyStands plus field.name field.key
  beforeColon : Space field.beforeColon
  behindColon : Space field.behindColon

end Field

/-- A text is derived with its value, and with nothing deeper in it than so
many levels.  Of the entries of a mapping with one key, the last counts. -/
inductive Derives (plus : Prop) : Nat → Json → List Char → Prop where
  | null {depth : Nat} {word : String} :
      word ∈ ["None", "null"] → Derives plus depth .null word.toList
  | true {depth : Nat} {word : String} :
      word ∈ ["True", "true"] → Derives plus depth (.bool .true) word.toList
  | false {depth : Nat} {word : String} :
      word ∈ ["False", "false"] →
      Derives plus depth (.bool .false) word.toList
  | number {depth : Nat} {value : Json.Number} {text : List Char} :
      NumberStands value text → Derives plus depth (.number value) text
  | text {depth : Nat} {value : String} {text : List Char} :
      Quotation plus value text → Derives plus depth (.text value) text
  | list {depth inner : Nat} {opening closing : Char}
      {items : List (Json × List Char)} {inside : List Char} :
      (opening, closing) ∈ [('[', ']'), ('(', ')')] →
      items = [] ∨ inner < depth →
      (∀ item ∈ items, Derives plus inner item.1 item.2) →
      Separated (items.map Prod.snd) inside →
      Derives plus depth (.list (items.map Prod.fst))
        (opening :: (inside ++ [closing]))
  | mapping {depth inner : Nat} {fields : List Field}
      {rows : List (String × Json)} {inside : List Char} :
      fields = [] ∨ inner < depth →
      (∀ field ∈ fields, field.Stands plus) →
      (∀ field ∈ fields, Derives plus inner field.value field.text) →
      Separated (fields.map Field.chars) inside →
      Ascending rows →
      (∀ name, lookupRow name rows =
        lookupRow name (fields.map Field.row).reverse) →
      Derives plus depth (.record rows) ('{' :: (inside ++ ['}']))

/-- A whole text that is derived between spaces, with nothing deeper in it than
64 levels.  A comment behind it may end with the text. -/
inductive Literally (plus : Prop) (value : Json) : List Char → Prop where
  | mk {before text behind : List Char} :
      Space before → Derives plus 64 value text → Gap behind [] →
      Literally plus value (before ++ (text ++ behind))

/-! ## What is spelled is derived -/

theorem Gap.exists_space {text rest : List Char} (gap : Gap text rest)
    (more : rest ≠ []) : ∃ space, Space space ∧ text = space ++ rest := by
  induction gap with
  | stop => exact ⟨[], .none, rfl⟩
  | blank blank _ step =>
    rcases step more with ⟨space, spaced, rfl⟩
    exact ⟨_, .blank blank spaced, rfl⟩
  | comment inside _ step =>
    rcases step more with ⟨space, spaced, rfl⟩
    exact ⟨_, .comment inside spaced, by simp⟩
  | lastComment => exact absurd rfl more

theorem stands_escaped (quote : Char) {letter : Char} (short : letter ≠ 'u') :
    Stands quote (escaped letter) ['\\', letter] := by
  by_cases other : letter ∈ ['n', 't', 'r', '0']
  · simp only [List.mem_cons, List.not_mem_nil, or_false] at other
    rcases other with rfl | rfl | rfl | rfl
    · exact .newline
    · exact .tab
    · exact .carriageReturn
    · exact .nul
  · simp only [List.mem_cons, List.not_mem_nil, or_false, not_or] at other
    obtain ⟨noNewline, noTab, noReturn, noNul⟩ := other
    have plain : escaped letter = letter := by
      simp [escaped, noNewline, noTab, noReturn, noNul]
    rw [plain]
    exact .itself (by simp [noNewline, noTab, noReturn, noNul, short])

theorem toNat_of_scalar? {code : Nat} {c : Char}
    (known : Text.scalar? code = some c) : code = c.toNat := by
  rw [Text.scalar?] at known
  split at known
  · next valid =>
    obtain rfl := Option.some.inj known
    have bound : code < 2 ^ 32 := by
      unfold Nat.isValidChar at valid
      omega
    exact (UInt32.toNat_ofNat_of_lt' bound).symm
  · exact absurd known (by simp)

theorem stood_of_hexNumber? {digit₁ digit₂ digit₃ digit₄ c : Char}
    (quote : Char)
    (known : (hexNumber? [digit₁, digit₂, digit₃, digit₄]).bind
      Text.scalar? = some c) :
    Stood True quote c ['\\', 'u', digit₁, digit₂, digit₃, digit₄] := by
  rcases Option.bind_eq_some_iff.1 known with ⟨code, number, scalar⟩
  rw [toNat_of_scalar? scalar] at number
  unfold hexNumber? at number
  dsimp only at number
  split at number
  · next split =>
    obtain ⟨rfl, rfl⟩ := List.cons.inj split
    rcases Option.ite_none_right_eq_some.1 number with ⟨digits, same⟩
    exact .plus trivial rfl (List.all_eq_true.1 digits) (Option.some.inj same)
  · rcases Option.ite_none_right_eq_some.1 number with ⟨digits, same⟩
    exact .strict
      (.code rfl (List.all_eq_true.1 digits) (Option.some.inj same))

theorem Chars.exists_stood {quote : Char} {text chars rest : List Char}
    (spelled : Chars quote text chars rest) :
    ∃ pieces, List.Forall₂ (Stood True quote) chars pieces ∧
      text = pieces.flatten ++ quote :: rest := by
  induction spelled with
  | close rest => exact ⟨[], .nil, rfl⟩
  | plain notQuote noEscape noNewline _ step =>
    rcases step with ⟨pieces, stood, rfl⟩
    exact ⟨_, .cons (.strict (.raw notQuote noEscape noNewline)) stood, rfl⟩
  | escape short _ step =>
    rcases step with ⟨pieces, stood, rfl⟩
    exact ⟨_, .cons (.strict (stands_escaped quote short)) stood, rfl⟩
  | unicode known _ step =>
    rcases step with ⟨pieces, stood, rfl⟩
    exact ⟨_, .cons (stood_of_hexNumber? quote known) stood, rfl⟩

theorem Chars.exists_quotation {quote : Char} {text chars rest : List Char}
    (spelled : Chars quote text chars rest)
    (quoted : quote = '"' ∨ quote = '\'') :
    ∃ quotation, Quotation True (String.ofList chars) quotation ∧
      quote :: text = quotation ++ rest := by
  rcases spelled.exists_stood with ⟨pieces, stood, rfl⟩
  rw [← @String.toList_ofList chars] at stood
  exact ⟨_, .mk quoted stood, by simp⟩

/-- The items of a list or a mapping are separated, when a text is found for
each of them. -/
theorem Items.exists_separated {α β : Type} {spelling : Spelling α}
    {stands : β → Prop} (value : β → α) (chars : β → List Char)
    (each : ∀ {text rest : List Char} {found : α},
      spelling text found rest → ∃ item, stands item ∧ value item = found ∧
        text = chars item ++ rest)
    {close : Char} {text rest : List Char} {values : List α}
    (spelled : Items spelling close text values rest) :
    ∃ (items : List β) (inside : List Char), (∀ item ∈ items, stands item) ∧
      items.map value = values ∧ Separated (items.map chars) inside ∧
      text = inside ++ close :: rest := by
  induction spelled with
  | close gap =>
    rcases gap.exists_space (by simp) with ⟨space, spaced, rfl⟩
    exact ⟨[], space, by simp, rfl, .none spaced, rfl⟩
  | last before first behind =>
    rcases each first with ⟨item, stood, rfl, rfl⟩
    rcases behind.exists_space (by simp) with ⟨space, spaced, rfl⟩
    rcases before.exists_space (by simp) with ⟨space', spaced', rfl⟩
    exact ⟨[item], _, List.forall_mem_singleton.2 stood, rfl,
      .last spaced' spaced, by simp⟩
  | more before first behind _ step =>
    rcases each first with ⟨item, stood, rfl, rfl⟩
    rcases step with ⟨items, inside, others, rfl, separated, rfl⟩
    rcases behind.exists_space (by simp) with ⟨space, spaced, rfl⟩
    rcases before.exists_space (by simp) with ⟨space', spaced', rfl⟩
    exact ⟨item :: items, _, List.forall_mem_cons.2 ⟨stood, others⟩, rfl,
      .more spaced' spaced separated, by simp⟩

theorem exists_stands_of_run {c : Char} {text run rest : List Char}
    {value : Json.Number} (starts : c = '-' ∨ c = '+' ∨ c.isDigit = true)
    (spelled : Run isNumberChar (c :: text) run rest)
    (known : numberValue? (run.filter (· ≠ '_')) = some value) :
    NumberStands value run ∧ c :: text = run ++ rest := by
  refine ⟨?_, spelled.split⟩
  cases run with
  | nil => exact absurd known (by simp [numberValue?, Decimal.int64?,
      Decimal.integer?, Decimal.splitSign, Decimal.double?,
      Decimal.magnitude?])
  | cons head run =>
    obtain rfl := (List.cons.inj spelled.split).1
    exact .mk starts (numberValue?_eq_some.1 known)

theorem keyText_word {run : List Char} {value : Json}
    (known : wordValue? run = some value) (name : String) :
    keyText value ≠ .ok name := by
  unfold wordValue? at known
  split_ifs at known <;> obtain rfl := Option.some.inj known <;>
    simp [keyText]

theorem Value.exists_key {item : Spelling Json} {text rest : List Char}
    {key : Json} {name : String} (spelled : Value item text key rest)
    (named : keyText key = .ok name) :
    ∃ chars, KeyStands True name chars ∧ text = chars ++ rest := by
  cases spelled with
  | record | list | tuple => exact absurd named (by simp [keyText])
  | text quoted chars =>
    obtain rfl := Except.ok.inj named
    rcases chars.exists_quotation quoted with ⟨spelled, quotation, same⟩
    exact ⟨spelled, .text quotation, same⟩
  | number starts run known =>
    obtain rfl := Except.ok.inj named
    have stands := exists_stands_of_run starts run known
    exact ⟨_, .number stands.1, stands.2⟩
  | word run known => exact absurd named (keyText_word known name)

theorem derives_word {run : List Char} {value : Json}
    (known : wordValue? run = some value) (plus : Prop) (depth : Nat) :
    Derives plus depth value run := by
  unfold wordValue? at known
  split_ifs at known with same same same <;>
    obtain rfl := Option.some.inj known
  · rcases same with rfl | rfl <;> exact .true (by decide)
  · rcases same with rfl | rfl <;> exact .false (by decide)
  · rcases same with rfl | rfl <;> exact .null (by decide)

/-- In the value of a mapping, a repeated key has its last value. -/
theorem lookupRow_ofList (name : String) (entries : List (String × Json)) :
    lookupRow name (Keyed.ofList entries).entries =
      lookupRow name entries.reverse := by
  rw [← Keyed.find?, Keyed.find?_ofList_eq_lookupRow]

theorem eq_nil_or {α : Type} {items : List α} {deeper : Prop}
    (each : ∀ item ∈ items, deeper) : items = [] ∨ deeper := by
  cases items with
  | nil => exact Or.inl rfl
  | cons item _ => exact Or.inr (each item List.mem_cons_self)

/-- A way of spelling the parts of a value has derivations when each part is
derived, deeper than the value, and so is each key. -/
structure HasDerivations (inner depth : Nat) (item : Spelling Json) :
    Prop where
  proper : Proper item
  deeper : ∀ {text rest : List Char} {value : Json},
    item text value rest → inner < depth
  value : ∀ {text rest : List Char} {value : Json}, item text value rest →
    ∃ chars, Derives True inner value chars ∧ text = chars ++ rest
  key : ∀ {text rest : List Char} {key : Json} {name : String},
    item text key rest → keyText key = .ok name →
    ∃ chars, KeyStands True name chars ∧ text = chars ++ rest

namespace HasDerivations

variable {inner depth : Nat} {item : Spelling Json}
  (derivations : HasDerivations inner depth item)
  {text rest : List Char}

include derivations

theorem list {opening closing : Char} {values : List Json}
    (brackets : (opening, closing) ∈ [('[', ']'), ('(', ')')])
    (spelled : Items item closing text values rest) :
    ∃ chars, Derives True depth (.list values) chars ∧
      opening :: text = chars ++ rest := by
  have each : ∀ {text rest : List Char} {value : Json},
      item text value rest → ∃ part : Json × List Char,
        (inner < depth ∧ Derives True inner part.1 part.2) ∧
          part.1 = value ∧ text = part.2 ++ rest := by
    intro text rest value found
    rcases derivations.value found with ⟨chars, derived, split⟩
    exact ⟨(value, chars), ⟨derivations.deeper found, derived⟩, rfl, split⟩
  rcases Items.exists_separated _ _ each spelled with
    ⟨items, inside, parts, rfl, separated, rfl⟩
  exact ⟨_, .list brackets (eq_nil_or fun item member => (parts item member).1)
    (fun item member => (parts item member).2) separated, by simp⟩

theorem field {row : String × Json} (spelled : Entry item text row rest) :
    ∃ field : Field, (inner < depth ∧ field.Stands True ∧
        Derives True inner field.value field.text) ∧
      field.row = row ∧ text = field.chars ++ rest := by
  cases spelled with
  | mk key named colon before value =>
    have more := List.ne_nil_of_length_pos
      (Nat.zero_lt_of_lt (derivations.proper value).2)
    have deeper := derivations.deeper value
    rcases derivations.key key named with ⟨name, stands, rfl⟩
    rcases before.exists_space more with ⟨space', spaced', rfl⟩
    rcases derivations.value value with ⟨chars, derived, rfl⟩
    rcases colon.exists_space (by simp) with ⟨space, spaced, rfl⟩
    exact ⟨⟨_, name, space, space', _, chars⟩,
      ⟨deeper, ⟨stands, spaced, spaced'⟩, derived⟩, rfl,
      by simp [Field.chars]⟩

theorem mapping {entries : List (String × Json)}
    (spelled : Items (Entry item) '}' text entries rest) :
    ∃ chars,
      Derives True depth (.record (Keyed.ofList entries).entries) chars ∧
        '{' :: text = chars ++ rest := by
  rcases Items.exists_separated Field.row Field.chars derivations.field
    spelled with ⟨fields, inside, parts, rfl, separated, rfl⟩
  exact ⟨_, .mapping (eq_nil_or fun field member => (parts field member).1)
    (fun field member => (parts field member).2.1)
    (fun field member => (parts field member).2.2) separated
    (Keyed.ascending _) (fun name => lookupRow_ofList name _), by simp⟩

/-- A value is derived when its parts are. -/
theorem exists_derives {value : Json} (spelled : Value item text value rest) :
    ∃ chars, Derives True depth value chars ∧ text = chars ++ rest := by
  cases spelled with
  | record spelled => exact derivations.mapping spelled
  | list spelled | tuple spelled => exact derivations.list (by decide) spelled
  | text quoted chars =>
    rcases chars.exists_quotation quoted with ⟨spelled, quotation, same⟩
    exact ⟨spelled, .text quotation, same⟩
  | number starts run known =>
    have stands := exists_stands_of_run starts run known
    exact ⟨_, .number stands.1, stands.2⟩
  | word run known => exact ⟨_, derives_word known True depth, run.split⟩

end HasDerivations

/-- What is spelled within one level more than a depth is derived with it. -/
theorem Spells.exists_derives {depth : Nat} {text rest : List Char}
    {value : Json} (spelled : Spells (depth + 1) text value rest) :
    ∃ chars, Derives True depth value chars ∧ text = chars ++ rest := by
  induction depth generalizing text value rest with
  | zero =>
    have nothing : HasDerivations 0 0 (Spells 0) :=
      ⟨proper_spells 0, False.elim, False.elim, fun found => False.elim found⟩
    exact nothing.exists_derives spelled
  | succ depth step =>
    have inside : HasDerivations depth (depth + 1) (Spells (depth + 1)) :=
      ⟨proper_spells _, fun _ => Nat.lt_succ_self depth, step,
        Value.exists_key⟩
    exact inside.exists_derives spelled

end ModuleAtlas.Literal
