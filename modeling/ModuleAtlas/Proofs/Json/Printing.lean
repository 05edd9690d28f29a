import Mathlib.Data.List.Forall2
import Mathlib.Tactic.SplitIfs
import ModuleAtlas.Proofs.Json.Document
import ModuleAtlas.Proofs.Json.Scanning

/-!
# Printed values are read back

The pretty text of a value is the text of one document: the value with its
strings taken apart into pieces and its numbers spelled.  Strings may hold any
characters.  Of the numbers no more is assumed than that they are scanned from
their spellings.
-/

namespace ModuleAtlas.Json

/-! ## Strings -/

/-- How a character of a printed string comes back.  A control character
without an escape of its own is a code unit. -/
def escapedPiece (c : Char) : Piece :=
  if c = '\n' ∨ c = '\r' ∨ c = '\t' ∨ c.toNat = 8 ∨ c.toNat = 12 ∨
      32 ≤ c.toNat then .char c
  else .unit c.toNat

/-- How a printed string comes back. -/
def escapedPieces (text : String) : List Piece :=
  text.toList.map escapedPiece

theorem hexQuad?_control {code : Nat} (control : code < 32) :
    hexQuad? '0' '0' (Text.hexDigit (code / 16)) (Text.hexDigit (code % 16)) =
      some code := by
  have every : ∀ code ∈ List.range 32, hexQuad? '0' '0'
      (Text.hexDigit (code / 16)) (Text.hexDigit (code % 16)) = some code := by
    decide
  exact every code (List.mem_range.2 control)

theorem eq_ofNat {c : Char} {code : Nat} (known : c.toNat = code) :
    c = Char.ofNat code := by
  rw [← known, Char.ofNat_toNat]

theorem pieced_escapeChar (c : Char) {text rest : List Char}
    {pieces : List Piece} (pieced : Pieced text pieces rest) :
    Pieced (escapeChar c ++ text) (escapedPiece c :: pieces) rest := by
  unfold escapeChar
  split_ifs with quote escape newline carriage tab backspace feed control
  · subst quote
    exact .short rfl pieced
  · subst escape
    exact .short rfl pieced
  · subst newline
    exact .short rfl pieced
  · subst carriage
    exact .short rfl pieced
  · subst tab
    exact .short rfl pieced
  · obtain rfl := eq_ofNat backspace
    exact .short rfl pieced
  · obtain rfl := eq_ofNat feed
    exact .short rfl pieced
  · have unit : escapedPiece c = .unit c.toNat :=
      if_neg (by simp [newline, carriage, tab, backspace, feed, control])
    rw [unit]
    exact .unit (hexQuad?_control control) pieced
  · rw [Nat.not_lt] at control
    rw [escapedPiece, if_pos (by simp [control])]
    exact .plain quote escape control pieced

theorem pieced_escaped (chars : List Char) (rest : List Char) :
    Pieced (chars.flatMap escapeChar ++ '"' :: rest)
      (chars.map escapedPiece) rest := by
  induction chars with
  | nil => exact .close rest
  | cons c chars step =>
    rw [List.flatMap_cons, List.append_assoc, List.map_cons]
    exact pieced_escapeChar c step

theorem shown_quoted (text : String) (rest : List Char) :
    Shown (quoted text ++ rest) (.text (escapedPieces text)) rest := by
  rw [quoted, List.cons_append, List.append_assoc]
  exact .text (pieced_escaped text.toList rest)

/-- A printed string stands for itself. -/
theorem pieceText?_escaped (text : String) :
    pieceText? (escapedPieces text) = some text := by
  have chars : ∀ chars : List Char,
      pieceChars? (chars.map escapedPiece) = some chars := by
    intro chars
    induction chars with
    | nil => rfl
    | cons c chars step =>
      rw [List.map_cons, escapedPiece]
      split
      · rw [pieceChars?_char, step, Option.map_some]
      · next control =>
        have whole : (Piece.unit c.toNat).isHalf = false := by
          simp only [Piece.isHalf, isLeading, isTrailing]
          simp
          omega
        rw [pieceChars?_unit whole, step, Option.map_some, Char.ofNat_toNat]
  rw [pieceText?, escapedPieces, chars, Option.map_some, String.ofList_toList]

/-! ## Values -/

/-- What holds of a list or a record as soon as it holds of its parts holds of
every value. -/
@[elab_as_elim]
theorem inductionOn {motive : Json → Prop} (value : Json)
    (null : motive .null) (bool : ∀ value, motive (.bool value))
    (number : ∀ value, motive (.number value))
    (text : ∀ value, motive (.text value))
    (list : ∀ items, (∀ item ∈ items, motive item) → motive (.list items))
    (record : ∀ fields, (∀ field ∈ fields, motive field.2) →
      motive (.record fields)) : motive value :=
  match value with
  | .null => null
  | .bool value => bool value
  | .number value => number value
  | .text value => text value
  | .list items => list items fun item _ =>
    inductionOn item null bool number text list record
  | .record fields => record fields fun field _ =>
    inductionOn field.2 null bool number text list record
termination_by sizeOf value
decreasing_by
  · have := List.sizeOf_lt_of_mem ‹item ∈ items›
    simp
    omega
  · have := List.sizeOf_lt_of_mem ‹field ∈ fields›
    rcases field with ⟨name, value⟩
    simp at this ⊢
    omega

mutual

/-- The document that the printed text of a value is. -/
def document : Json → Written
  | .null => .null
  | .bool value => .bool value
  | .number value => .number value.spelling
  | .text value => .text (escapedPieces value)
  | .list items => .list (documentItems items)
  | .record fields => .record (documentFields fields)

/-- The documents of the items of a list. -/
def documentItems : List Json → List Written
  | [] => []
  | item :: rest => document item :: documentItems rest

/-- The documents of the fields of a record. -/
def documentFields :
    List (String × Json) → List (List Piece × Written)
  | [] => []
  | (name, value) :: rest =>
    (escapedPieces name, document value) :: documentFields rest

end

mutual

/-- The numbers of a value. -/
def numbers : Json → List Number
  | .null | .bool _ | .text _ => []
  | .number value => [value]
  | .list items => itemNumbers items
  | .record fields => fieldNumbers fields

/-- The numbers of the items of a list. -/
def itemNumbers : List Json → List Number
  | [] => []
  | item :: rest => numbers item ++ itemNumbers rest

/-- The numbers of the fields of a record. -/
def fieldNumbers : List (String × Json) → List Number
  | [] => []
  | (_, value) :: rest => numbers value ++ fieldNumbers rest

end

@[simp]
theorem documentItems_eq_map (items : List Json) :
    documentItems items = items.map document := by
  induction items with
  | nil => rfl
  | cons item rest step => rw [documentItems, step, List.map_cons]

@[simp]
theorem documentFields_eq_map (fields : List (String × Json)) :
    documentFields fields =
      fields.map fun field => (escapedPieces field.1, document field.2) := by
  induction fields with
  | nil => rfl
  | cons field rest step => rw [documentFields, step, List.map_cons]

@[simp]
theorem itemNumbers_eq_flatMap (items : List Json) :
    itemNumbers items = items.flatMap numbers := by
  induction items with
  | nil => rfl
  | cons item rest step => rw [itemNumbers, step, List.flatMap_cons]

@[simp]
theorem fieldNumbers_eq_flatMap (fields : List (String × Json)) :
    fieldNumbers fields = fields.flatMap fun field => numbers field.2 := by
  induction fields with
  | nil => rfl
  | cons field rest step => rw [fieldNumbers, step, List.flatMap_cons]

/-! ## Scanning -/

/-- A text that does not continue a number. -/
def Parted (text : List Char) : Prop :=
  ∀ c tail, text = c :: tail →
    c.isDigit = false ∧ c ≠ '.' ∧ c ≠ 'e' ∧ c ≠ 'E'

/-- A number is scanned from its spelling. -/
def Number.Legible (value : Number) : Prop :=
  ∀ rest, Parted rest →
    scanNumber (value.spelling.chars ++ rest) = some (value.spelling, rest)

/-- A text is cut into tokens wherever it stands. -/
def Printed (text : List Char) (marks : List Token) : Prop :=
  ∀ (rest : List Char) (others : List Token), Cuts rest others →
    Parted rest → Cuts (text ++ rest) (marks ++ others)

/-- Texts with a comma between two of them. -/
def joined : List (List Char) → List Char
  | [] => []
  | [part] => part
  | part :: other :: rest => part ++ ',' :: joined (other :: rest)

theorem parted_cons {c : Char} (tail : List Char)
    (parts : c.isDigit = false ∧ c ≠ '.' ∧ c ≠ 'e' ∧ c ≠ 'E') :
    Parted (c :: tail) := by
  rintro _ _ same
  obtain ⟨rfl, _⟩ := List.cons.inj same
  exact parts

theorem cuts_newline {text : List Char} {marks : List Token} (level : Nat)
    (cuts : Cuts text marks) : Cuts (newline level ++ text) marks := by
  have spaces : ∀ count,
      Cuts (List.replicate count ' ' ++ text) marks := by
    intro count
    induction count with
    | zero => exact cuts
    | succ count step => exact .gap rfl step
  exact .gap rfl (spaces _)

theorem Printed.indented {text : List Char} {marks : List Token}
    (printed : Printed text marks) (level : Nat) :
    Printed (newline level ++ text) marks := by
  intro rest others cuts parted
  rw [List.append_assoc]
  exact cuts_newline level (printed _ _ cuts parted)

/-- A field on a line of its own. -/
theorem Printed.field {text : List Char} {marks : List Token}
    (printed : Printed text marks) (level : Nat) (name : String) :
    Printed (newline level ++ quoted name ++ ':' :: ' ' :: text)
      (.text (escapedPieces name) :: .colon :: marks) := by
  intro rest others cuts parted
  rw [List.append_assoc, List.append_assoc]
  exact cuts_newline level (.token (shown_quoted name _)
    (.token (.mark rfl rfl) (.gap rfl (printed _ _ cuts parted))))

/-- Texts with commas between them are cut like the parts of a list or a
record. -/
theorem Printed.joined {texts : List (List Char)} {parts : List (List Token)}
    (each : List.Forall₂ Printed texts parts) (nonempty : texts ≠ [])
    {tail : List Char} {close : Token} {others : List Token}
    (cuts : Cuts tail (close :: others)) (parted : Parted tail) :
    Cuts (joined texts ++ tail) (enclosed close parts ++ others) := by
  induction each with
  | nil => exact absurd rfl nonempty
  | @cons text part texts parts printed each step =>
    cases each with
    | nil =>
      rw [Json.joined, enclosed, List.append_assoc]
      exact printed _ _ cuts parted
    | @cons other otherPart texts parts =>
      rw [Json.joined, enclosed, List.append_assoc, List.append_assoc]
      exact printed _ _ (.token (.mark rfl rfl) (step (by simp)))
        (parted_cons _ (by decide))

theorem prettyItems_eq_joined (level : Nat) (items : List Json) :
    prettyItems level items =
      joined (items.map fun item => newline level ++ prettyChars level item) := by
  induction items with
  | nil => rfl
  | cons item rest step =>
    cases rest with
    | nil => rfl
    | cons other rest =>
      rw [prettyItems, step]
      · rfl
      · simp

theorem prettyFields_eq_joined (level : Nat) (fields : List (String × Json)) :
    prettyFields level fields =
      joined (fields.map fun field => newline level ++ quoted field.1
        ++ ':' :: ' ' :: prettyChars level field.2) := by
  induction fields with
  | nil => rfl
  | cons field rest step =>
    cases rest with
    | nil => rfl
    | cons other rest =>
      rw [prettyFields, step]
      · simp [joined]
      · simp

theorem cuts_mark (token : Token) {mark : Char}
    (marked : token.mark? = some [mark]) {rest : List Char}
    {others : List Token} (cuts : Cuts rest others) :
    Cuts (mark :: rest) (token :: others) :=
  .token (.mark marked rfl) cuts

/-- A container with its parts on lines of their own, and its end on a line
of its own. -/
theorem Printed.container (opening closing : Token) {first last : Char}
    (opens : opening.mark? = some [first])
    (closes : closing.mark? = some [last]) {texts : List (List Char)}
    {parts : List (List Token)} (each : List.Forall₂ Printed texts parts)
    (nonempty : texts ≠ []) (level : Nat) :
    Printed (first :: (Json.joined texts ++ newline level ++ [last]))
      (opening :: enclosed closing parts) := by
  intro rest others cuts _
  have inside := Printed.joined each nonempty
    (cuts_newline level (cuts_mark closing closes cuts))
    (parted_cons _ (by decide))
  simpa using cuts_mark opening opens inside

/-- A printed value is cut into the tokens of its document. -/
theorem printed_pretty (value : Json)
    (legible : ∀ number ∈ numbers value, number.Legible) (level : Nat) :
    Printed (prettyChars level value) (document value).tokens := by
  induction value using inductionOn generalizing level with
  | null => exact fun _ _ cuts _ => .token (.mark rfl rfl) cuts
  | bool value =>
    intro rest others cuts _
    cases value <;> exact .token (.mark rfl rfl) cuts
  | number value =>
    intro rest others cuts parted
    have scanned := legible value (by simp [numbers]) rest parted
    exact .token (.number scanned) cuts
  | text value => exact fun _ _ cuts _ => .token (shown_quoted value _) cuts
  | list items each =>
    rw [numbers, itemNumbers_eq_flatMap] at legible
    have parts : List.Forall₂ Printed
        (items.map fun item =>
          newline (level + 1) ++ prettyChars (level + 1) item)
        (items.map fun item => (document item).tokens) := by
      rw [List.forall₂_map_left_iff, List.forall₂_map_right_iff,
        List.forall₂_same]
      intro part member
      refine Printed.indented (each part member (fun number inside => ?_) _) _
      exact legible number (List.mem_flatMap.2 ⟨part, member, inside⟩)
    cases items with
    | nil => exact fun _ _ cuts _ =>
        cuts_mark .openList rfl (cuts_mark .closeList rfl cuts)
    | cons item items =>
      have whole := Printed.container .openList .closeList rfl rfl parts
        (by simp) level
      rw [← prettyItems_eq_joined] at whole
      simpa [prettyChars, document, Written.tokens, Function.comp_def]
        using whole
  | record fields each =>
    rw [numbers, fieldNumbers_eq_flatMap] at legible
    have parts : List.Forall₂ Printed
        (fields.map fun field => newline (level + 1) ++ quoted field.1
          ++ ':' :: ' ' :: prettyChars (level + 1) field.2)
        (fields.map fun field => .text (escapedPieces field.1) :: .colon ::
          (document field.2).tokens) := by
      rw [List.forall₂_map_left_iff, List.forall₂_map_right_iff,
        List.forall₂_same]
      intro part member
      refine Printed.field (each part member (fun number inside => ?_) _) _ _
      exact legible number (List.mem_flatMap.2 ⟨part, member, inside⟩)
    cases fields with
    | nil => exact fun _ _ cuts _ =>
        cuts_mark .openRecord rfl (cuts_mark .closeRecord rfl cuts)
    | cons field fields =>
      have whole := Printed.container .openRecord .closeRecord rfl rfl parts
        (by simp) level
      rw [← prettyFields_eq_joined] at whole
      simpa [prettyChars, document, Written.tokens, Function.comp_def]
        using whole

/-! ## Building -/

/-- A document does not begin with a closing bracket. -/
theorem enclosed_tokens_ne (value : Json) (close : Token)
    (parts : List (List Token)) (others tail : List Token) :
    enclosed close ((document value).tokens :: parts) ++ others ≠
      .closeList :: tail := by
  intro same
  cases parts <;> cases value <;>
    simp [enclosed, document, Written.tokens] at same

theorem buildItems_documents {item : Json} {items : List Json}
    (each : ∀ part ∈ item :: items, ∀ (steps : Nat) (others : List Token),
      2 * (document part).tokens.length ≤ steps + 1 →
      Written.build steps ((document part).tokens ++ others) =
        some (document part, others))
    (steps : Nat) (others : List Token)
    (enough : 2 * (enclosed .closeList ((item :: items).map fun part =>
      (document part).tokens)).length ≤ steps) :
    Written.buildItems steps (enclosed .closeList
        ((item :: items).map fun part => (document part).tokens) ++ others) =
      some ((item :: items).map document, others) := by
  induction items generalizing item steps with
  | nil =>
    cases steps with
    | zero => simp [enclosed] at enough
    | succ steps =>
      simp only [List.map_cons, List.map_nil, enclosed, List.length_append,
        List.length_singleton] at enough
      have first := each item List.mem_cons_self steps (.closeList :: others)
        (by omega)
      simp [enclosed, Written.buildItems, first]
  | cons other items step =>
    cases steps with
    | zero => simp [enclosed] at enough
    | succ steps =>
      rw [List.map_cons, enclosed_cons (by simp)] at enough ⊢
      simp only [List.length_append, List.length_cons] at enough
      have first := each item List.mem_cons_self steps
        (.comma :: (enclosed .closeList ((other :: items).map fun part =>
          (document part).tokens) ++ others)) (by omega)
      have further := step (fun part member =>
        each part (List.mem_cons_of_mem _ member)) steps (by omega)
      rw [List.append_assoc, List.cons_append, Written.buildItems, first]
      simp only [further]
      rfl

theorem buildFields_documents {field : String × Json}
    {fields : List (String × Json)}
    (each : ∀ part ∈ field :: fields, ∀ (steps : Nat) (others : List Token),
      2 * (document part.2).tokens.length ≤ steps + 1 →
      Written.build steps ((document part.2).tokens ++ others) =
        some (document part.2, others))
    (steps : Nat) (others : List Token)
    (enough : 2 * (enclosed .closeRecord ((field :: fields).map fun part =>
      .text (escapedPieces part.1) :: .colon ::
        (document part.2).tokens)).length ≤ steps) :
    Written.buildFields steps (enclosed .closeRecord
        ((field :: fields).map fun part =>
          .text (escapedPieces part.1) :: .colon ::
            (document part.2).tokens) ++ others) =
      some ((field :: fields).map fun part =>
        (escapedPieces part.1, document part.2), others) := by
  induction fields generalizing field steps with
  | nil =>
    cases steps with
    | zero => simp [enclosed] at enough
    | succ steps =>
      simp only [List.map_cons, List.map_nil, enclosed, List.length_append,
        List.length_cons, List.length_nil] at enough
      have first := each field List.mem_cons_self steps
        (.closeRecord :: others) (by omega)
      simp [enclosed, Written.buildFields, first]
  | cons other fields step =>
    cases steps with
    | zero => simp [enclosed] at enough
    | succ steps =>
      rw [List.map_cons, enclosed_cons (by simp)] at enough ⊢
      simp only [List.length_append, List.length_cons] at enough
      have first := each field List.mem_cons_self steps
        (.comma :: (enclosed .closeRecord ((other :: fields).map fun part =>
          .text (escapedPieces part.1) :: .colon ::
            (document part.2).tokens) ++ others)) (by omega)
      have further := step (fun part member =>
        each part (List.mem_cons_of_mem _ member)) steps (by omega)
      rw [List.append_assoc, List.cons_append, List.cons_append,
        List.cons_append, Written.buildFields, first]
      simp only [further]
      rfl

/-- The document of a value is built from its tokens, in front of any
others. -/
theorem build_document (value : Json) (steps : Nat) (others : List Token)
    (enough : 2 * (document value).tokens.length ≤ steps + 1) :
    Written.build steps ((document value).tokens ++ others) =
      some (document value, others) := by
  induction value using inductionOn generalizing steps others with
  | null | bool value | number value | text value =>
    cases steps with
    | zero => simp [document, Written.tokens] at enough
    | succ steps => rfl
  | list items each =>
    cases steps with
    | zero =>
      rw [document, Written.tokens, List.length_cons] at enough
      omega
    | succ steps =>
      cases items with
      | nil => rfl
      | cons item items =>
        simp only [document, documentItems_eq_map, Written.tokens,
          Written.itemTokens_eq_map, List.map_map, Function.comp_def,
          List.length_cons] at enough ⊢
        have built := buildItems_documents each steps others (by omega)
        rw [List.cons_append, Written.build, built]
        · rfl
        · exact fun tail => enclosed_tokens_ne item _ _ _ tail
  | record fields each =>
    cases steps with
    | zero =>
      rw [document, Written.tokens, List.length_cons] at enough
      omega
    | succ steps =>
      cases fields with
      | nil => rfl
      | cons field fields =>
        simp only [document, documentFields_eq_map, Written.tokens,
          Written.fieldTokens_eq_map, List.map_map, Function.comp_def,
          List.length_cons] at enough ⊢
        have built := buildFields_documents each steps others (by omega)
        rw [List.cons_append, Written.build, built]
        · rfl
        · intro tail same
          cases fields <;> simp [enclosed] at same

/-- The printed text of a value is the text of its document. -/
theorem ofText?_pretty (value : Json)
    (legible : ∀ number ∈ numbers value, number.Legible) :
    Written.ofText? value.pretty = some (document value) := by
  have printed := printed_pretty value legible 0 _ _ .done (by rintro _ _ ⟨⟩)
  rw [List.append_nil, List.append_nil] at printed
  have built := build_document value
    (2 * (document value).tokens.length + 2) [] (by omega)
  rw [List.append_nil] at built
  rw [Written.ofText?, pretty, String.toList_ofList,
    tokens?_eq_some_iff.2 printed, Option.bind_some, Written.ofTokens?, built]

end ModuleAtlas.Json
