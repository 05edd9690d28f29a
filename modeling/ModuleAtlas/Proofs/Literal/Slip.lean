import ModuleAtlas.Proofs.Literal.Completeness

/-!
# The slip of the reader

The slip is used only where its escape starts.  So a text in which none starts
is taken only when it is derived without the slip.  There is a text that is
taken and is not derived without it.
-/

namespace ModuleAtlas.Literal

/-! ## Texts without the slip -/

/-- The start of an escape that only the reader takes. -/
def plusEscape : List Char := ['\\', 'u', '+']

theorem Stood.narrow {plus allowed : Prop} {quote c : Char}
    {piece : List Char} (stood : Stood plus quote c piece)
    (used : plusEscape <:+: piece → allowed) :
    Stood allowed quote c piece := by
  cases stood with
  | strict stands => exact .strict stands
  | @plus digits _ three hexadecimal same =>
    exact .plus (used ⟨[], digits, rfl⟩) three hexadecimal same

theorem Quotation.narrow {plus allowed : Prop} {value : String}
    {text : List Char} (quotation : Quotation plus value text)
    (used : plusEscape <:+: text → allowed) :
    Quotation allowed value text := by
  cases quotation with
  | @mk quote _ pieces quoted stood =>
    have within : ∀ piece ∈ pieces,
        piece <:+: quote :: (pieces.flatten ++ [quote]) := fun piece member =>
      (List.infix_of_mem_flatten member).trans ⟨[quote], [quote], by simp⟩
    refine .mk quoted ?_
    rw [List.forall₂_iff_get] at stood ⊢
    refine ⟨stood.1, fun place known known' => ?_⟩
    exact (stood.2 place known known').narrow fun inside =>
      used (inside.trans (within _ (List.getElem_mem known')))

theorem KeyStands.narrow {plus allowed : Prop} {name : String}
    {text : List Char} (stands : KeyStands plus name text)
    (used : plusEscape <:+: text → allowed) :
    KeyStands allowed name text := by
  cases stands with
  | text quotation => exact .text (quotation.narrow used)
  | number stands => exact .number stands

theorem Separated.infix_of_mem {items : List (List Char)}
    {text item : List Char} (separated : Separated items text)
    (member : item ∈ items) : item <:+: text := by
  induction separated with
  | none => exact absurd member List.not_mem_nil
  | last =>
    obtain rfl := List.mem_singleton.1 member
    exact ⟨_, _, List.append_assoc _ _ _⟩
  | more _ _ _ step =>
    rcases List.mem_cons.1 member with rfl | member
    · exact ⟨_, _, List.append_assoc _ _ _⟩
    · refine (step member).trans ?_
      rw [List.append_cons, ← List.append_assoc, ← List.append_assoc,
        ← List.append_assoc]
      exact List.suffix_append _ _ |>.isInfix

/-- Where the start of the escape is not there, it is not used. -/
theorem Derives.narrow {plus allowed : Prop} {depth : Nat} {value : Json}
    {text : List Char} (derived : Derives plus depth value text)
    (used : plusEscape <:+: text → allowed) :
    Derives allowed depth value text := by
  induction derived with
  | null member => exact .null member
  | true member => exact .true member
  | false member => exact .false member
  | number stands => exact .number stands
  | text quotation => exact .text (quotation.narrow used)
  | @list _ _ opening closing items inside brackets deeper _ separated step =>
    refine .list brackets deeper (fun item member => ?_) separated
    refine step item member fun within => used (within.trans ?_)
    have part := separated.infix_of_mem (List.mem_map_of_mem member)
    exact part.trans ⟨[opening], [closing], rfl⟩
  | @mapping _ _ fields _ inside deeper stands _ separated ascending last
      step =>
    have part : ∀ field ∈ fields,
        field.chars <:+: '{' :: (inside ++ ['}']) := fun field member =>
      (separated.infix_of_mem (List.mem_map_of_mem member)).trans
        ⟨['{'], ['}'], rfl⟩
    refine .mapping deeper (fun field member => ?_) (fun field member => ?_)
      separated ascending last
    · have keyed := stands field member
      refine ⟨keyed.key.narrow fun within => used ?_, keyed.beforeColon,
        keyed.behindColon⟩
      have first : field.key <:+: field.chars :=
        (List.prefix_append _ _).isInfix
      exact within.trans (first.trans (part field member))
    · refine step field member fun within => used ?_
      have final : field.text <:+: field.chars :=
        ⟨field.key ++ (field.beforeColon ++ ':' :: field.behindColon), [],
          by simp [Field.chars]⟩
      exact within.trans (final.trans (part field member))

theorem Literally.narrow {plus allowed : Prop} {value : Json}
    {text : List Char} (literally : Literally plus value text)
    (used : plusEscape <:+: text → allowed) :
    Literally allowed value text := by
  cases literally with
  | @mk before text behind space derived gap =>
    refine .mk space (derived.narrow fun within => used ?_) gap
    exact within.trans ⟨before, behind, by simp⟩

/-- A text is read as a value just when it is derived with it, up to the
escapes that have a plus for their first digit.  A text in which no such escape
starts is read only when it is derived without them. -/
theorem read_iff_derived (text : List Char) (value : Json) :
    (read text = .ok value ↔ Literally True value text) ∧
      (¬ plusEscape <:+: text →
        (read text = .ok value ↔ Literally False value text)) := by
  refine ⟨read_iff_literally, fun absent => ?_⟩
  rw [read_iff_literally]
  constructor
  · exact fun literally => literally.narrow absent
  · exact fun literally => literally.narrow fun _ => trivial

/-- A comment, a repeated key, lists and escapes, but no plus among these. -/
theorem read_iff_derived_sample :
    ¬ plusEscape <:+: sampleSpelling ∧
      Literally False (.record [("a", .list [.null, .text "A\n'"])])
        sampleSpelling := by
  have absent : ¬ plusEscape <:+: sampleSpelling := by decide
  have found := read_wholly (by decide) wholly_sample
  exact ⟨absent, ((read_iff_derived _ _).2 absent).1 found⟩

/-! ## The slip -/

theorem Stands.ne_plusEscape {quote c : Char} {piece : List Char}
    (stands : Stands quote c piece) (rest tail : List Char) :
    piece ++ rest ≠ plusEscape ++ tail := by
  cases stands with
  | raw _ noEscape => exact fun same => noEscape (List.cons.inj same).1
  | newline | tab | carriageReturn | nul => simp [plusEscape]
  | itself other =>
    intro same
    exact other (by simp [(List.cons.inj (List.cons.inj same).2).1])
  | @code _ digits four hexadecimal =>
    intro same
    obtain ⟨digit₁, digit₂, digit₃, digit₄, rfl⟩ := List.length_eq_four.1 four
    have sign : digit₁ = '+' :=
      (List.cons.inj (List.cons.inj (List.cons.inj same).2).2).1
    have digit := hexadecimal digit₁ List.mem_cons_self
    rw [sign] at digit
    exact absurd digit (by decide)

/-- A text with a plus for the first digit of a code. -/
def plusText : List Char := '"' :: (plusEscape ++ ['0', '4', '1', '"'])

theorem read_plusText : read plusText = .ok (.text "A") := by
  have digits : Stood True '"' 'A' (plusEscape ++ ['0', '4', '1']) :=
    .plus trivial rfl (List.all_eq_true.1 (by decide)) (by decide)
  have quotation : Quotation True "A" plusText :=
    @Quotation.mk True '"' "A" _ (Or.inl rfl) (.cons digits .nil)
  have literally : Literally True (.text "A") plusText :=
    .mk .none (.text quotation) (.stop [])
  exact read_iff_literally.2 literally

/-- It is read, although it is not derived without the slip. -/
theorem plus_read_as_digit :
    read plusText = .ok (.text "A") ∧
      ∀ value, ¬ Literally False value plusText := by
  refine ⟨read_plusText, fun value literally => ?_⟩
  have found := read_iff_literally.2 (literally.narrow fun _ => trivial)
  obtain rfl := Except.ok.inj (found.symm.trans read_plusText)
  generalize same : plusText = text at literally
  cases literally with
  | mk space derived _ =>
    rcases derived with _ | _ | _ | _ | ⟨quoted, stood⟩
    cases space with
    | blank blank =>
      obtain rfl := (List.cons.inj same).1
      exact absurd blank (by decide)
    | comment => exact absurd (List.cons.inj same).1 (by decide)
    | none =>
      rcases stood with _ | ⟨first, _⟩
      rw [List.nil_append, List.cons_append, List.flatten_cons,
        List.append_assoc, List.append_assoc] at same
      rcases first with stands | never
      · exact stands.ne_plusEscape _ _ (List.cons.inj same).2.symm
      · exact never.elim

end ModuleAtlas.Literal
