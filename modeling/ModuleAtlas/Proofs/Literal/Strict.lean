import ModuleAtlas.Proofs.Json.Document
import ModuleAtlas.Proofs.Literal.Shared

/-!
# JSON documents, read as literals

A strict JSON document of integers is a spelling of its value in the literal
dialect, but for the strings that the two read apart: escapes for a backspace
and a form feed lose their backslash, and any escape for half of a surrogate
pair is refused.  Both follow by induction on the document, along the tokens
into which its text is cut.
-/

namespace ModuleAtlas.Json

/-- Whether a token is a string with a piece that passes a test. -/
def Token.holds (test : Piece → Bool) : Token → Bool
  | .text pieces => pieces.any test
  | _ => false

namespace Written

/-- All numbers of a document are integers. -/
inductive Integral : Written → Prop where
  | null : Integral .null
  | bool (value : Bool) : Integral (.bool value)
  | number {spelling : NumberText} :
      spelling.isInteger = true → Integral (.number spelling)
  | text (pieces : List Piece) : Integral (.text pieces)
  | list {items : List Written} :
      (∀ item ∈ items, Integral item) → Integral (.list items)
  | record {fields : List (List Piece × Written)} :
      (∀ field ∈ fields, Integral field.2) → Integral (.record fields)

mutual

/-- A document as the reader of literals takes its strings. -/
def softened : Written → Written
  | .null => .null
  | .bool value => .bool value
  | .number spelling => .number spelling
  | .known value => .known value
  | .text pieces => .text (pieces.map Piece.soften)
  | .list items => .list (softenedItems items)
  | .record fields => .record (softenedFields fields)

/-- The items of a list as the reader of literals takes them. -/
def softenedItems : List Written → List Written
  | [] => []
  | item :: rest => softened item :: softenedItems rest

/-- The fields of a record as the reader of literals takes them. -/
def softenedFields :
    List (List Piece × Written) → List (List Piece × Written)
  | [] => []
  | (name, value) :: rest =>
    (name.map Piece.soften, softened value) :: softenedFields rest

end

theorem softenedItems_eq_map (items : List Written) :
    softenedItems items = items.map softened := by
  induction items with
  | nil => rfl
  | cons item rest step => rw [softenedItems, step, List.map_cons]

theorem softenedFields_eq_map (fields : List (List Piece × Written)) :
    softenedFields fields =
      fields.map fun field => (field.1.map Piece.soften, field.2.softened) := by
  induction fields with
  | nil => rfl
  | cons field rest step => rw [softenedFields, step, List.map_cons]

/-- Whether a string of a document has a piece that passes a test. -/
def holds (test : Piece → Bool) (document : Written) : Bool :=
  document.tokens.any (Token.holds test)

section Holds

variable (test : Piece → Bool)

theorem holds_text (pieces : List Piece) :
    (text pieces).holds test = pieces.any test := by
  simp [holds, tokens, Token.holds]

theorem holds_list (items : List Written) :
    (list items).holds test = items.any (holds test) := by
  rw [holds, tokens, List.any_cons, any_enclosed rfl rfl,
    itemTokens_eq_map, List.any_map]
  rfl

theorem holds_record (fields : List (List Piece × Written)) :
    (record fields).holds test =
      fields.any fun field => field.1.any test || field.2.holds test := by
  rw [holds, tokens, List.any_cons, any_enclosed rfl rfl,
    fieldTokens_eq_map, List.any_map]
  rfl

end Holds

end Written

end ModuleAtlas.Json

namespace ModuleAtlas.Literal

open Json

/-! ## Tokens and what is behind them -/

/-- Tokens that can stand behind a value. -/
def Follows (tokens : List Token) : Prop :=
  ∀ token ∈ tokens.head?, token ∈ [.comma, .colon, .closeList, .closeRecord]

theorem follows_cons {token : Token}
    (follower : token ∈ [.comma, .colon, .closeList, .closeRecord])
    (tokens : List Token) : Follows (token :: tokens) := by
  intro first same
  exact Option.some.inj same ▸ follower

theorem follower_of_closing {close : Token}
    (closing : close ∈ [Token.closeList, .closeRecord]) :
    close ∈ [Token.comma, .colon, .closeList, .closeRecord] :=
  List.mem_cons_of_mem _ (List.mem_cons_of_mem _ closing)

theorem enclosed_follows {close : Token}
    (closing : close ∈ [Token.closeList, .closeRecord]) (part : List Token)
    (parts : List (List Token)) (behind : List Token) :
    ∃ others, enclosed close (part :: parts) = part ++ others ∧
      Follows (others ++ behind) := by
  cases parts with
  | nil => exact ⟨[close], rfl, follows_cons (follower_of_closing closing) _⟩
  | cons other parts =>
    exact ⟨.comma :: enclosed close (other :: parts), rfl,
      follows_cons (by simp) _⟩

theorem blank_of_isGap {c : Char} (gap : isGap c = true) :
    Text.isBlank c = true ∧ isNumberChar c = false ∧ isWordPart c = false := by
  have every : ∀ c ∈ [' ', '\n', '\t', '\r'], Text.isBlank c = true ∧
      isNumberChar c = false ∧ isWordPart c = false :=
    List.all_iff_forall_prop.mp (by decide +kernel)
  refine every c ?_
  simpa [isGap, or_assoc] using gap

theorem gap_of_cuts_nil {text : List Char} (cuts : Cuts text []) :
    Gap text [] := by
  generalize same : ([] : List Token) = tokens at cuts
  induction cuts with
  | done => exact .stop []
  | gap blank _ step => exact .blank (blank_of_isGap blank).1 (step same)
  | token => exact absurd same (by simp)

/-- The first token stands behind a gap. -/
theorem gap_of_cuts {token : Token} {text : List Char}
    {tokens : List Token} (cuts : Cuts text (token :: tokens)) :
    ∃ start rest, Gap text start ∧ Shown start token rest ∧
      Cuts rest tokens := by
  generalize same : token :: tokens = all at cuts
  induction cuts with
  | done => exact absurd same (by simp)
  | gap blank _ step =>
    rcases step same with ⟨start, rest, gap, shown, cuts⟩
    exact ⟨start, rest, .blank (blank_of_isGap blank).1 gap, shown, cuts⟩
  | @token text rest _ _ shown cuts =>
    obtain ⟨rfl, rfl⟩ := List.cons.inj same
    exact ⟨text, rest, .stop text, shown, cuts⟩

theorem gap_mark {token : Token} {mark text : List Char}
    {tokens : List Token} (marked : token.mark? = some mark)
    (cuts : Cuts text (token :: tokens)) :
    ∃ rest, Gap text (mark ++ rest) ∧ Cuts rest tokens := by
  rcases gap_of_cuts cuts with ⟨start, rest, gap, shown, cuts⟩
  exact ⟨rest, shown.of_mark marked ▸ gap, cuts⟩

/-- Numbers and words end in front of what can stand behind a value. -/
theorem stops_of_cuts {text : List Char} {tokens : List Token}
    (cuts : Cuts text tokens) (follows : Follows tokens) :
    ∀ c ∈ text.head?, isNumberChar c = false ∧ isWordPart c = false := by
  cases cuts with
  | done => exact fun _ absent => absurd absent (by simp)
  | gap blank _ =>
    intro c same
    obtain rfl := Option.some.inj same
    exact (blank_of_isGap blank).2
  | @token _ _ token _ shown _ =>
    have single : ∃ mark, token.mark? = some [mark] ∧
        isNumberChar mark = false ∧ isWordPart mark = false := by
      have follower := follows token rfl
      simp only [List.mem_cons, List.not_mem_nil, or_false] at follower
      rcases follower with rfl | rfl | rfl | rfl
      all_goals exact ⟨_, rfl, by decide, by decide +kernel⟩
    rcases single with ⟨mark, marked, ends⟩
    intro c same
    rw [shown.of_mark marked] at same
    obtain rfl := Option.some.inj same
    exact ends

/-! ## Documents without halves of pairs -/

section Meant

variable {α : Type}

/-- Tokens are spelled as a value in every text that is cut into them.  What is
behind them is left open, so that they may stand inside a list or a record. -/
def Meant (item : Spelling α) (tokens : List Token) (value : α) : Prop :=
  ∀ ⦃text : List Char⦄ ⦃behind : List Token⦄,
    Cuts text (tokens ++ behind) → Follows behind →
      ∃ start rest, Gap text start ∧ item start value rest ∧ Cuts rest behind

theorem meant_enclosed {item : Spelling α} {close : Token} {mark : Char}
    (closing : close ∈ [Token.closeList, .closeRecord])
    (marked : close.mark? = some [mark]) {parts : List (List Token)}
    {values : List α} (meant : List.Forall₂ (Meant item) parts values)
    {text : List Char} {behind : List Token}
    (cuts : Cuts text (enclosed close parts ++ behind)) :
    ∃ rest, Items item mark text values rest ∧ Cuts rest behind := by
  induction meant generalizing text with
  | nil =>
    rcases gap_mark marked cuts with ⟨rest, gap, cuts⟩
    exact ⟨rest, .close gap, cuts⟩
  | @cons part value parts values first others step =>
    cases others with
    | nil =>
      rw [enclosed, List.append_assoc] at cuts
      rcases first cuts (follows_cons (follower_of_closing closing) _) with
        ⟨start, after, before, spelled, cuts⟩
      rcases gap_mark marked cuts with ⟨rest, gap, cuts⟩
      exact ⟨rest, .last before spelled gap, cuts⟩
    | cons second others =>
      rw [enclosed_cons (by simp), List.append_assoc] at cuts
      rcases first cuts (follows_cons (by simp) _) with
        ⟨start, after, before, spelled, cuts⟩
      have comma : Token.comma.mark? = some [','] := rfl
      rcases gap_mark comma cuts with ⟨next, gap, cuts⟩
      rcases step cuts with ⟨rest, items, cuts⟩
      exact ⟨rest, .more before spelled gap items, cuts⟩

end Meant

section Scalars

variable (levels : Nat)

theorem meant_word {token : Token} {word : List Char} {value : Json}
    (marked : token.mark? = some word) (known : wordValue? word = some value)
    (letters : word.all isWordPart = true) :
    Meant (Spells (levels + 1)) [token] value := by
  intro text behind cuts follows
  rcases gap_of_cuts cuts with ⟨start, rest, gap, shown, cuts⟩
  have ends := stops_of_cuts cuts follows
  exact ⟨start, rest, gap, .word ⟨shown.of_mark marked,
    List.all_eq_true.mp letters, fun c first => (ends c first).2⟩ known,
    cuts⟩

theorem meant_number {spelling : NumberText}
    (integral : spelling.isInteger = true) :
    Meant (Spells (levels + 1)) [.number spelling]
      (.number (.int spelling.integer)) := by
  intro text behind cuts follows
  rcases gap_of_cuts cuts with ⟨start, rest, gap, shown, cuts⟩
  have ends := stops_of_cuts cuts follows
  refine ⟨start, rest, gap, ?_, cuts⟩
  obtain ⟨negative, whole, fraction, exponent⟩ := spelling
  have shape := integral
  simp only [NumberText.isInteger, Bool.and_eq_true,
    Option.isNone_iff_eq_none] at shape
  obtain ⟨⟨⟨rfl, rfl⟩, fits⟩, _⟩ := shape
  obtain ⟨parted, nonempty, digits⟩ := scanNumber_whole shown.of_number
  have run := run_signed negative digits fun c first => (ends c first).1
  have known := numberValue?_integer nonempty digits fits
  rw [← filter_signed negative digits] at known
  obtain ⟨c, tail, rfl, starts⟩ : ∃ c tail, start = c :: tail ∧
      (c = '-' ∨ c = '+' ∨ c.isDigit = true) := by
    cases negative with
    | true => exact ⟨'-', whole ++ rest, parted, .inl rfl⟩
    | false =>
      cases whole with
      | nil => exact absurd rfl nonempty
      | cons c tail =>
        exact ⟨c, tail ++ rest, parted, .inr (.inr (digits c (by simp)))⟩
  exact .number starts (parted ▸ run) known

theorem meant_text {pieces : List Piece}
    (whole : ∀ piece ∈ pieces, piece.isHalf = false) :
    ∃ text, pieceText? (pieces.map Piece.soften) = some text ∧
      Meant (Spells (levels + 1)) [.text pieces] (.text text) := by
  rcases exists_pieceChars? whole with ⟨chars, meaning⟩
  refine ⟨String.ofList chars, by rw [pieceText?, meaning, Option.map_some],
    ?_⟩
  intro text behind cuts _
  rcases gap_of_cuts cuts with ⟨start, rest, gap, shown, cuts⟩
  rcases shown.of_text with ⟨body, rfl, pieced⟩
  rcases chars_of_pieced pieced whole with ⟨found, same, spelled⟩
  obtain rfl := Option.some.inj (same.symm.trans meaning)
  exact ⟨_, rest, gap, .text (.inl rfl) spelled, cuts⟩

end Scalars

theorem meant_items {levels depth : Nat} {items : List Written}
    (each : ∀ item ∈ items, ∃ value, item.softened.toJson? depth = some value ∧
      Meant (Spells levels) item.tokens value) :
    ∃ values,
      Written.toJsonItems? depth (Written.softenedItems items) = some values ∧
      List.Forall₂ (Meant (Spells levels)) (items.map Written.tokens)
        values := by
  induction items with
  | nil => exact ⟨[], rfl, .nil⟩
  | cons item rest step =>
    rw [List.forall_mem_cons] at each
    rcases each.1 with ⟨value, known, meant⟩
    rcases step each.2 with ⟨values, others, spelled⟩
    refine ⟨value :: values, ?_, .cons meant spelled⟩
    simp [Written.softenedItems, Written.toJsonItems?, known, others]

theorem meant_entry {levels : Nat} {name : List Piece} {text : String}
    {value : Written} {result : Json}
    (key : Meant (Spells levels) [.text name] (.text text))
    (meant : Meant (Spells levels) value.tokens result) :
    Meant (Entry (Spells levels)) (.text name :: .colon :: value.tokens)
      (text, result) := by
  intro start behind cuts follows
  rcases key cuts (follows_cons (by simp) _) with
    ⟨start, afterKey, before, spelled, cuts⟩
  have colon : Token.colon.mark? = some [':'] := rfl
  rcases gap_mark colon cuts with ⟨beforeValue, gap, cuts⟩
  rcases meant cuts follows with ⟨valueStart, rest, inside, value, cuts⟩
  exact ⟨start, rest, before, .mk spelled rfl gap inside value, cuts⟩

theorem meant_fields {levels depth : Nat}
    {fields : List (List Piece × Written)}
    (whole : ∀ field ∈ fields, ∀ piece ∈ field.1, piece.isHalf = false)
    (each : ∀ field ∈ fields, ∃ value,
      field.2.softened.toJson? depth = some value ∧
        Meant (Spells (levels + 1)) field.2.tokens value) :
    ∃ entries,
      Written.toJsonFields? depth (Written.softenedFields fields) =
        some entries ∧
      List.Forall₂ (Meant (Entry (Spells (levels + 1))))
        (fields.map fun field => .text field.1 :: .colon :: field.2.tokens)
        entries := by
  induction fields with
  | nil => exact ⟨[], rfl, .nil⟩
  | cons field rest step =>
    rw [List.forall_mem_cons] at whole each
    rcases meant_text levels whole.1 with ⟨text, named, key⟩
    rcases each.1 with ⟨value, known, meant⟩
    rcases step whole.2 each.2 with ⟨entries, others, spelled⟩
    refine ⟨(text, value) :: entries, ?_, .cons (meant_entry key meant) spelled⟩
    simp [Written.softenedFields, Written.toJsonFields?, named, known, others]

theorem meant_list {levels : Nat} {parts : List (List Token)}
    {values : List Json}
    (meant : List.Forall₂ (Meant (Spells levels)) parts values) :
    Meant (Spells (levels + 1)) (.openList :: enclosed .closeList parts)
      (.list values) := by
  intro text behind cuts _
  have opening : Token.openList.mark? = some ['['] := rfl
  rcases gap_mark opening cuts with ⟨inside, gap, cuts⟩
  rcases meant_enclosed (by simp) rfl meant cuts with ⟨rest, items, cuts⟩
  exact ⟨_, rest, gap, .list items, cuts⟩

theorem meant_record {levels : Nat} {parts : List (List Token)}
    {entries : List (String × Json)}
    (meant : List.Forall₂ (Meant (Entry (Spells levels))) parts entries) :
    Meant (Spells (levels + 1)) (.openRecord :: enclosed .closeRecord parts)
      (.record (Keyed.ofList entries).entries) := by
  intro text behind cuts _
  have opening : Token.openRecord.mark? = some ['{'] := rfl
  rcases gap_mark opening cuts with ⟨inside, gap, cuts⟩
  rcases meant_enclosed (by simp) rfl meant cuts with ⟨rest, fields, cuts⟩
  exact ⟨_, rest, gap, .record fields, cuts⟩

/-- A document of integers without halves of pairs spells its value. -/
theorem meant_tokens {document : Written} (integral : document.Integral)
    (whole : document.holds Piece.isHalf = false) {levels depth : Nat}
    (room : document.depth ≤ levels) (allowed : document.depth ≤ depth) :
    ∃ value, document.softened.toJson? depth = some value ∧
      Meant (Spells (levels + 1)) document.tokens value := by
  induction integral generalizing levels depth with
  | null => exact ⟨.null, rfl, meant_word levels rfl rfl rfl⟩
  | bool value =>
    refine ⟨.bool value, rfl, ?_⟩
    cases value with
    | true => exact meant_word levels rfl rfl rfl
    | false => exact meant_word levels rfl rfl rfl
  | number integral =>
    refine ⟨_, ?_, meant_number levels integral⟩
    rw [Written.softened, Written.toJson?,
      NumberText.value?_integer integral, Option.map_some]
  | text pieces =>
    have plain : ∀ piece ∈ pieces, piece.isHalf = false := by
      simpa [Written.holds_text] using whole
    rcases meant_text levels plain with ⟨text, known, meant⟩
    exact ⟨.text text, by
      rw [Written.softened, Written.toJson?, known, Option.map_some], meant⟩
  | @list items _ step =>
    rw [Written.depth] at room allowed
    obtain ⟨levels, rfl⟩ : ∃ fewer, levels = fewer + 1 :=
      ⟨levels - 1, by omega⟩
    obtain ⟨depth, rfl⟩ : ∃ fewer, depth = fewer + 1 :=
      ⟨depth - 1, by omega⟩
    have parts : ∀ item ∈ items, item.holds Piece.isHalf = false := by
      simpa [Written.holds_list] using whole
    have each : ∀ item ∈ items, ∃ value,
        item.softened.toJson? depth = some value ∧
          Meant (Spells (levels + 1)) item.tokens value := by
      intro item member
      have below := Written.depth_le_itemsDepth member
      exact step item member (parts item member) (by omega) (by omega)
    rcases meant_items each with ⟨values, known, meant⟩
    refine ⟨.list values, ?_, ?_⟩
    · rw [Written.softened, Written.toJson?, known, Option.map_some]
    · rw [Written.tokens, Written.itemTokens_eq_map]
      exact meant_list meant
  | @record fields _ step =>
    rw [Written.depth] at room allowed
    obtain ⟨levels, rfl⟩ : ∃ fewer, levels = fewer + 1 :=
      ⟨levels - 1, by omega⟩
    obtain ⟨depth, rfl⟩ : ∃ fewer, depth = fewer + 1 :=
      ⟨depth - 1, by omega⟩
    have parts : ∀ field ∈ fields,
        (∀ piece ∈ field.1, piece.isHalf = false) ∧
          field.2.holds Piece.isHalf = false := by
      simpa [Written.holds_record] using whole
    have each : ∀ field ∈ fields, ∃ value,
        field.2.softened.toJson? depth = some value ∧
          Meant (Spells (levels + 1)) field.2.tokens value := by
      intro field member
      have below := Written.depth_le_fieldsDepth member
      exact step field member (parts field member).2 (by omega) (by omega)
    rcases meant_fields (fun field member => (parts field member).1) each with
      ⟨entries, known, meant⟩
    refine ⟨.record (Keyed.ofList entries).entries, ?_, ?_⟩
    · rw [Written.softened, Written.toJson?, known, Option.map_some]
    · rw [Written.tokens, Written.fieldTokens_eq_map]
      exact meant_record meant

/-! ## Documents with halves of pairs -/

section Refuses

variable {α : Type}

/-- Tokens are refused in every text that is cut into them. -/
def Refuses (read : Cursor → Reading α) (tokens : List Token) : Prop :=
  ∀ ⦃text : List Char⦄ ⦃behind : List Token⦄,
    Cuts text (tokens ++ behind) → Follows behind →
      ∃ c tail, Gap text (c :: tail) ∧ Begins c ∧
        ∀ offset, Refused (read ⟨offset, c :: tail⟩)

/-- The first part that is refused ends the reading of a list or a mapping. -/
theorem refused_enclosed {ι : Type} {read : Cursor → Reading α}
    {item : Spelling α} (proper : Proper item)
    (reads : ∀ {start rest : List Char} {value : α} (offset : Nat),
      item start value rest → Reads (read ⟨offset, start⟩) value rest)
    (unterminated : LiteralError) {close : Token} {mark : Char}
    (closing : close ∈ [Token.closeList, .closeRecord])
    (marked : mark ∈ closings) {tokens : ι → List Token}
    {halved : ι → Bool} {parts : List ι}
    (refuses : ∀ part ∈ parts, halved part = true →
      Refuses read (tokens part))
    (meant : ∀ part ∈ parts, halved part = false →
      ∃ value, Meant item (tokens part) value)
    (bad : parts.any halved = true) {text : List Char} {behind : List Token}
    (cuts : Cuts text (enclosed close (parts.map tokens) ++ behind))
    (steps offset : Nat) (enough : text.length < steps) :
    Refused (itemsUpTo unterminated read mark steps ⟨offset, text⟩) := by
  induction parts generalizing text steps offset with
  | nil => exact absurd bad (by simp)
  | cons part parts step =>
    obtain ⟨steps, rfl⟩ : ∃ fewer, steps = fewer + 1 :=
      ⟨steps - 1, by omega⟩
    rw [List.forall_mem_cons] at refuses meant
    rw [List.map_cons] at cuts
    cases first : halved part with
    | true =>
      rcases enclosed_follows closing (tokens part) (parts.map tokens)
        behind with ⟨others, same, follows⟩
      rw [same, List.append_assoc] at cuts
      rcases refuses.1 first cuts follows with
        ⟨c, tail, before, begins, refused⟩
      rcases itemsUpTo_item unterminated read marked before begins steps
        offset with ⟨offset', opened⟩
      rcases refused offset' with ⟨digits, failed⟩
      exact ⟨digits, by rw [opened, failed]⟩
    | false =>
      -- a part in front of the first refused one is read like any other
      rcases meant.1 first with ⟨value, known⟩
      have further : parts.any halved = true := by simpa [first] using bad
      have others : parts.map tokens ≠ [] := by
        cases parts with
        | nil => exact absurd further (by simp)
        | cons => simp
      rw [enclosed_cons others, List.append_assoc] at cuts
      rcases known cuts (follows_cons (by simp) _) with
        ⟨start, after, before, spelled, cuts⟩
      have comma : Token.comma.mark? = some [','] := rfl
      rcases gap_mark comma cuts with ⟨next, gap, cuts⟩
      rcases (proper spelled).1 with ⟨c, tail, rfl, begins⟩
      have shorter := (proper spelled).2
      have skipped := before.length_le
      have passed := gap.length_le
      rw [List.singleton_append, List.length_cons] at passed
      rcases itemsUpTo_item unterminated read marked before begins steps
        offset with ⟨offset', opened⟩
      rcases reads offset' spelled with ⟨offset₁, found⟩
      rcases takeSeparator_comma unterminated mark gap offset₁ with
        ⟨offset₂, separated⟩
      rcases step refuses.2 meant.2 further cuts steps offset₂ (by omega) with
        ⟨digits, failed⟩
      exact ⟨digits, by
        rw [opened, found]; simp [separated, failed, Except.map]⟩

end Refuses

/-- A refused value is refused from in front of its gap. -/
theorem Refuses.value {levels : Nat} {tokens behind : List Token}
    (refuses : Refuses (value levels) tokens) {text : List Char}
    (cuts : Cuts text (tokens ++ behind)) (follows : Follows behind)
    (offset : Nat) : Refused (Literal.value levels ⟨offset, text⟩) := by
  rcases refuses cuts follows with ⟨c, tail, gap, begins, refused⟩
  rcases value_skip gap (begins.clear tail) levels offset with
    ⟨offset', skipped⟩
  exact skipped ▸ refused offset'

theorem refuses_name {levels : Nat} {name : List Piece} {others : List Token}
    (refuses : Refuses (value levels) [.text name]) :
    Refuses (entry (value levels)) (.text name :: .colon :: others) := by
  intro text behind cuts _
  rcases refuses cuts (follows_cons (by simp) _) with
    ⟨c, tail, gap, begins, refused⟩
  refine ⟨c, tail, gap, begins, fun offset => ?_⟩
  rcases refused offset with ⟨digits, failed⟩
  exact ⟨digits, by rw [entry, failed]⟩

theorem refuses_entry {levels : Nat} {name : List Piece} {text : String}
    {others : List Token}
    (key : Meant (Spells levels) [.text name] (.text text))
    (refuses : Refuses (value levels) others) :
    Refuses (entry (value levels)) (.text name :: .colon :: others) := by
  intro start behind cuts follows
  rcases key cuts (follows_cons (by simp) _) with
    ⟨start, afterKey, before, spelled, cuts⟩
  have colon : Token.colon.mark? = some [':'] := rfl
  rcases gap_mark colon cuts with ⟨beforeValue, gap, cuts⟩
  rcases (proper_spells levels spelled).1 with ⟨c, tail, rfl, begins⟩
  refine ⟨c, tail, before, begins, fun offset => ?_⟩
  rcases reads_value levels offset (.stop _) spelled with ⟨offset₁, found⟩
  rcases takeColon_gap gap offset₁ with ⟨offset₂, taken⟩
  rcases refuses.value cuts follows offset₂ with ⟨digits, failed⟩
  exact ⟨digits, by simp [entry, found, keyText, taken, failed, Except.map]⟩

theorem refuses_text (levels : Nat) {pieces : List Piece}
    (halved : ∃ piece ∈ pieces, piece.isHalf = true) :
    Refuses (value (levels + 1)) [.text pieces] := by
  intro text behind cuts _
  rcases gap_of_cuts cuts with ⟨start, rest, gap, shown, _⟩
  rcases shown.of_text with ⟨body, rfl, pieced⟩
  refine ⟨'"', body, gap, by decide, fun offset => ?_⟩
  rw [value_text levels offset body (.inl rfl)]
  exact ((refused_of_pieced pieced halved offset (offset + 1)).map _).map _

theorem refuses_list {levels : Nat} {items : List Written}
    (refuses : ∀ item ∈ items, item.holds Piece.isHalf = true →
      Refuses (value levels) item.tokens)
    (meant : ∀ item ∈ items, item.holds Piece.isHalf = false →
      ∃ value, Meant (Spells levels) item.tokens value)
    (halved : (Written.list items).holds Piece.isHalf = true) :
    Refuses (value (levels + 1)) (Written.list items).tokens := by
  intro text behind cuts _
  rw [Written.tokens, Written.itemTokens_eq_map] at cuts
  rw [Written.holds_list] at halved
  have opening : Token.openList.mark? = some ['['] := rfl
  rcases gap_mark opening cuts with ⟨inside, gap, cuts⟩
  refine ⟨'[', inside, gap, by decide, fun offset => ?_⟩
  rw [value_list]
  exact (refused_enclosed (proper_spells levels)
    (fun offset spelled => reads_value levels offset (.stop _) spelled)
    .unterminatedList (by simp) (by decide) refuses meant halved cuts _ _
    (Nat.lt_succ_self _)).map _

theorem refuses_record {levels : Nat} {fields : List (List Piece × Written)}
    (refuses : ∀ field ∈ fields, field.2.holds Piece.isHalf = true →
      Refuses (value (levels + 1)) field.2.tokens)
    (meant : ∀ field ∈ fields, field.2.holds Piece.isHalf = false →
      ∃ value, Meant (Spells (levels + 1)) field.2.tokens value)
    (halved : (Written.record fields).holds Piece.isHalf = true) :
    Refuses (value (levels + 2)) (Written.record fields).tokens := by
  intro text behind cuts _
  rw [Written.tokens, Written.fieldTokens_eq_map] at cuts
  rw [Written.holds_record] at halved
  have opening : Token.openRecord.mark? = some ['{'] := rfl
  rcases gap_mark opening cuts with ⟨inside, gap, cuts⟩
  refine ⟨'{', inside, gap, by decide, fun offset => ?_⟩
  have proper : Proper (Spells (levels + 1)) := proper_spells _
  rw [value_record]
  refine (refused_enclosed proper.entry
    (fun offset spelled => reads_entry (reads_value _) offset spelled)
    .unterminatedMapping (by simp) (by decide) (fun field member bad => ?_)
    (fun field member whole => ?_) halved cuts _ _
    (Nat.lt_succ_self _)).map _
  · cases named : field.1.any Piece.isHalf with
    | true =>
      exact refuses_name (refuses_text levels (List.any_eq_true.mp named))
    | false =>
      rcases meant_text levels (by simpa using named) with ⟨text, _, key⟩
      rw [named, Bool.false_or] at bad
      exact refuses_entry key (refuses field member bad)
  · rw [Bool.or_eq_false_iff] at whole
    rcases meant_text levels (by simpa using whole.1) with ⟨text, _, key⟩
    rcases meant field member whole.2 with ⟨value, known⟩
    exact ⟨(text, value), meant_entry key known⟩

/-- A document with half of a pair is refused. -/
theorem refuses_tokens {document : Written} (integral : document.Integral)
    (halved : document.holds Piece.isHalf = true) {levels : Nat}
    (room : document.depth ≤ levels) :
    Refuses (value (levels + 1)) document.tokens := by
  induction integral generalizing levels with
  | null | bool | number => exact absurd halved (by
    simp [Written.holds, Written.tokens, Token.holds])
  | text pieces =>
    exact refuses_text levels (by simpa [Written.holds_text] using halved)
  | @list items integral step =>
    rw [Written.depth] at room
    obtain ⟨levels, rfl⟩ : ∃ fewer, levels = fewer + 1 :=
      ⟨levels - 1, by omega⟩
    have below {item} (member : item ∈ items) : item.depth ≤ levels :=
      (Written.depth_le_itemsDepth member).trans (by omega)
    refine refuses_list (fun item member halved =>
      step item member halved (below member)) (fun item member whole => ?_)
      halved
    rcases meant_tokens (integral item member) whole (below member)
      (Nat.le_refl _) with ⟨value, _, meant⟩
    exact ⟨value, meant⟩
  | @record fields integral step =>
    rw [Written.depth] at room
    obtain ⟨levels, rfl⟩ : ∃ fewer, levels = fewer + 1 :=
      ⟨levels - 1, by omega⟩
    have below {field} (member : field ∈ fields) : field.2.depth ≤ levels :=
      (Written.depth_le_fieldsDepth member).trans (by omega)
    refine refuses_record (fun field member halved =>
      step field member halved (below member)) (fun field member whole => ?_)
      halved
    rcases meant_tokens (integral field member) whole (below member)
      (Nat.le_refl _) with ⟨value, _, meant⟩
    exact ⟨value, meant⟩

/-! ## Whole documents -/

theorem soften_native {pieces : List Piece}
    (native : pieces.any Piece.isForeign = false) :
    pieces.map Piece.soften = pieces := by
  have same : pieces.map Piece.soften = pieces.map id := by
    refine List.map_congr_left fun piece member => ?_
    have taken := List.any_eq_false.mp native piece member
    simp only [Piece.isForeign, Bool.or_eq_true, decide_eq_true_eq, not_or,
      not_not] at taken
    exact taken.2
  rw [same, List.map_id]

/-- A document without foreign pieces is taken as it is. -/
theorem softened_eq {document : Written} (integral : document.Integral)
    (native : document.holds Piece.isForeign = false) :
    document.softened = document := by
  induction integral with
  | null | bool | number => rfl
  | text pieces =>
    rw [Written.holds_text] at native
    rw [Written.softened, soften_native native]
  | @list items _ step =>
    have parts : ∀ item ∈ items, item.holds Piece.isForeign = false := by
      simpa [Written.holds_list] using native
    have same : items.map Written.softened = items.map id :=
      List.map_congr_left fun item member =>
        step item member (parts item member)
    rw [Written.softened, Written.softenedItems_eq_map, same, List.map_id]
  | @record fields _ step =>
    have parts : ∀ field ∈ fields,
        field.1.any Piece.isForeign = false ∧
          field.2.holds Piece.isForeign = false := by
      rw [Written.holds_record, List.any_eq_false] at native
      intro field member
      simpa only [Bool.or_eq_true, not_or, Bool.not_eq_true] using
        native field member
    have same : (fields.map fun field =>
        (field.1.map Piece.soften, field.2.softened)) = fields.map id := by
      refine List.map_congr_left fun field member => ?_
      rw [soften_native (parts field member).1,
        step field member (parts field member).2]
      rfl
    rw [Written.softened, Written.softenedFields_eq_map, same, List.map_id]

/-- Halves of pairs are foreign. -/
theorem unhalved_of_native {document : Written}
    (native : document.holds Piece.isForeign = false) :
    document.holds Piece.isHalf = false := by
  rw [Written.holds, List.any_eq_false] at native ⊢
  intro token member halved
  refine native token member ?_
  cases token with
  | text pieces =>
    rcases List.any_eq_true.mp halved with ⟨piece, inside, half⟩
    exact List.any_eq_true.mpr ⟨piece, inside, by simp [Piece.isForeign, half]⟩
  | _ => exact halved

/-- A strict JSON document of integers with at most 64 nested containers, read
as a literal.  Where no string escapes a backspace, a form feed or half of a
surrogate pair, the value is that of JSON.  In general the letters of the first
two escapes stand for themselves, and halves of pairs are refused, paired or
not. -/
theorem read_document {text : String} {document : Written}
    (valid : Written.ofText? text = some document)
    (shallow : document.depth ≤ 64) (integral : document.Integral) :
    (document.holds Piece.isForeign = false →
      ∃ value, parse? text = some value ∧ read text.toList = .ok value) ∧
    (document.holds Piece.isHalf = false →
      ∃ value, document.softened.toJson? maxDepth = some value ∧
        read text.toList = .ok value) ∧
    (document.holds Piece.isHalf = true →
      ∃ digits, read text.toList = .error (.invalidUnicode digits)) := by
  have cuts : Cuts text.toList (document.tokens ++ []) := by
    rw [List.append_nil]
    exact Written.cuts_of_ofText? valid
  have nothing : Follows [] := fun _ absent => absurd absent (by simp)
  have whole (unhalved : document.holds Piece.isHalf = false) :
      ∃ value, document.softened.toJson? maxDepth = some value ∧
        read text.toList = .ok value := by
    rcases meant_tokens integral unhalved shallow
      (show document.depth ≤ maxDepth from shallow.trans (by decide)) with
      ⟨value, known, meant⟩
    rcases meant cuts nothing with ⟨start, rest, before, spelled, behind⟩
    exact ⟨value, known,
      read_of_spells before spelled (gap_of_cuts_nil behind)⟩
  refine ⟨fun native => ?_, whole, fun halved => ?_⟩
  · rcases whole (unhalved_of_native native) with ⟨value, known, found⟩
    rw [softened_eq integral native] at known
    exact ⟨value, by rw [parse?, valid, Option.bind_some, known], found⟩
  · rcases (refuses_tokens integral halved shallow).value cuts nothing 0 with
      ⟨digits, failed⟩
    exact ⟨digits, by simp [read, Cursor.start, maxLevels, failed]⟩

/-- A record whose field holds a number and a tab, with its tree. -/
def sampleText : List Char :=
  ['{', '"', 'a', '"', ':', ' ', '[', '-', '7', ',', '"', '\\', 't', '"', ']',
    '}']

def sampleDocument : Written :=
  .record [([.char 'a'],
    .list [.number ⟨true, ['7'], none, none⟩, .text [.char '\t']])]

theorem read_document_sample :
    Written.ofText? (String.ofList sampleText) = some sampleDocument ∧
    sampleDocument.depth ≤ 64 ∧ sampleDocument.Integral ∧
    sampleDocument.holds Piece.isForeign = false ∧
    ∃ value, parse? (String.ofList sampleText) = some value ∧
      read (String.ofList sampleText).toList = .ok value := by
  have valid : Written.ofText? (String.ofList sampleText) =
      some sampleDocument := by
    rw [Written.ofText?, String.toList_ofList]
    rfl
  have shallow : sampleDocument.depth ≤ 64 := by decide
  have integral : sampleDocument.Integral := by
    refine .record fun field member => ?_
    obtain rfl := List.mem_singleton.mp member
    refine .list fun item member => ?_
    rcases List.mem_pair.mp member with rfl | rfl
    · exact .number (by decide)
    · exact .text _
  have native : sampleDocument.holds Piece.isForeign = false := by decide
  exact ⟨valid, shallow, integral, native,
    (read_document valid shallow integral).1 native⟩

/-- A string of an escaped backspace. -/
def backspaceText : String := String.ofList ['"', '\\', 'b', '"']

/-- A string of an escaped surrogate pair. -/
def pairText : String :=
  String.ofList ['"', '\\', 'u', 'd', '8', '3', 'd',
    '\\', 'u', 'd', 'e', '0', '0', '"']

theorem escapes_misread :
    parse? backspaceText = some (.text (String.ofList [Char.ofNat 8])) ∧
    read backspaceText.toList = .ok (.text (String.ofList ['b'])) ∧
    parse? pairText = some (.text (String.ofList [Char.ofNat 128512])) ∧
    read pairText.toList = .error (.invalidUnicode ['d', '8', '3', 'd']) := by
  simp only [parse?, Written.ofText?, backspaceText, pairText,
    String.toList_ofList]
  exact ⟨rfl, rfl, rfl, rfl⟩

end ModuleAtlas.Literal
