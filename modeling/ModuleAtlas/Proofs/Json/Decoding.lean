import ModuleAtlas.Json.Decode
import ModuleAtlas.Proofs.Json.Printing
import ModuleAtlas.Proofs.Keyed

/-!
# Printed records are decoded

What the parts of a printed record are read as: texts, flags, counts of 64 bits,
lists of texts, values that may be missing, and mappings.  A record is found
field by field when its names are apart.
-/

namespace ModuleAtlas.Json

/-! ## Natural numbers -/

theorem digitsValue_natDigits (value : Nat) :
    digitsValue (Decimal.natDigits value) = value := by
  have denoted := Nat.ofDigitChars_ten_toDigits (n := value)
  simp only [Nat.ofDigitChars_eq_foldl, Nat.mul_comm 10] at denoted
  exact denoted

/-- Only zero begins with a zero. -/
theorem head?_natDigits {value : Nat} (positive : 0 < value) :
    (Decimal.natDigits value).head? ≠ some '0' := by
  induction value using Nat.strongRecOn with
  | _ value step =>
    by_cases small : value < 10
    · have every : ∀ digit ∈ List.range 10, 0 < digit →
          Nat.digitChar digit ≠ '0' := by decide
      rw [Decimal.natDigits, Nat.toDigits_of_lt_base small, List.head?_cons]
      exact fun same =>
        every value (List.mem_range.2 small) positive (Option.some.inj same)
    · rw [Decimal.natDigits, Nat.toDigits_of_base_le (by decide) (by omega),
        List.head?_append_of_ne_nil _ Nat.toDigits_ne_nil]
      exact step (value / 10) (by omega) (by omega)

theorem isDigit_of_mem_natDigits {value : Nat} {c : Char}
    (member : c ∈ Decimal.natDigits value) : c.isDigit = true :=
  Nat.isDigit_of_mem_toDigits (by decide) (by decide) member

theorem scanDigits_natDigits (value : Nat) {rest : List Char}
    (parted : Parted rest) :
    scanDigits (Decimal.natDigits value ++ rest) =
      (Decimal.natDigits value, rest) := by
  have stopped : rest.takeWhile Char.isDigit = [] ∧
      rest.dropWhile Char.isDigit = rest := by
    cases rest with
    | nil => exact ⟨rfl, rfl⟩
    | cons c tail =>
      have apart := (parted c tail rfl).1
      exact ⟨List.takeWhile_cons_of_neg (by simp [apart]),
        List.dropWhile_cons_of_neg (by simp [apart])⟩
  have digits : ∀ c ∈ Decimal.natDigits value, c.isDigit = true :=
    fun c => isDigit_of_mem_natDigits
  rw [scanDigits, List.takeWhile_append_of_pos digits,
    List.dropWhile_append_of_pos digits, stopped.1, stopped.2,
    List.append_nil]

theorem scanWhole_natDigits (value : Nat) {rest : List Char}
    (parted : Parted rest) :
    scanWhole (Decimal.natDigits value ++ rest) =
      some (Decimal.natDigits value, rest) := by
  rcases Nat.eq_zero_or_pos value with rfl | positive
  · rfl
  · have leads := head?_natDigits positive
    have scanned := scanDigits_natDigits value parted
    rcases shape : Decimal.natDigits value with _ | ⟨first, others⟩
    · exact absurd shape Nat.toDigits_ne_nil
    · rw [shape] at leads scanned
      unfold scanWhole
      split
      · next same =>
        exact absurd (congrArg some (List.cons.inj same).1) leads
      · rw [scanned]

/-- A natural number is scanned from its digits. -/
theorem legible_natCast (value : Nat) : Number.Legible (.int value) := by
  intro rest parted
  have spelled : Number.spelling (.int value) =
      ⟨false, Decimal.natDigits value, none, none⟩ := by
    simp [Number.spelling]
  have whole := scanWhole_natDigits value parted
  have fraction : scanFraction rest = some (none, rest) := by
    unfold scanFraction
    split
    · exact absurd rfl (parted _ _ rfl).2.1
    · rfl
  have exponent : scanExponent rest = some (none, rest) := by
    cases rest with
    | nil => rfl
    | cons c tail =>
      rw [scanExponent, if_neg (not_or.2 (parted c tail rfl).2.2)]
  have unsigned : ∀ tail, Decimal.natDigits value ++ rest ≠ '-' :: tail := by
    intro tail same
    rcases shape : Decimal.natDigits value with _ | ⟨first, others⟩
    · exact absurd shape Nat.toDigits_ne_nil
    · have digit : first.isDigit = true :=
        isDigit_of_mem_natDigits (shape ▸ List.mem_cons_self)
      rw [shape] at same
      rw [(List.cons.inj same).1] at digit
      exact absurd digit (by decide)
  have chars : NumberText.chars ⟨false, Decimal.natDigits value, none, none⟩ =
      Decimal.natDigits value := by
    simp [NumberText.chars]
  rw [spelled, chars]
  unfold scanNumber
  split
  next negative text same =>
    split at same
    · next tail marked => exact absurd marked (unsigned tail)
    · cases same
      rw [whole]
      simp only [Option.bind_eq_bind, Option.bind_some, fraction, exponent]

/-! ## Values -/

section Values

variable (levels : Nat)

theorem text_document (value : String) :
    Decoder.text levels (document (.text value)) = some value :=
  pieceText?_escaped value

theorem flag_document (value : Bool) :
    Decoder.flag levels (document (.bool value)) = some value := rfl

/-- Every number of 64 bits is read as itself. -/
theorem count_document (value : UInt64) :
    Decoder.count levels (document (.ofNat value.toNat)) = some value := by
  have spelled : Number.spelling (.int value.toNat) =
      ⟨false, Decimal.natDigits value.toNat, none, none⟩ := by
    simp [Number.spelling]
  have fits : ¬ maxSignificand < value.toNat := by
    have below := value.toNat_lt
    unfold maxSignificand
    omega
  rw [ofNat, document, Decoder.count, spelled, Decoder.countOfSpelling?]
  simp [digitsValue_natDigits, fits]

variable {α : Type} {decoder : Decoder α} {encode : α → Json} {levels}

theorem list_document
    (read : ∀ value, decoder levels (document (encode value)) = some value)
    (values : List α) :
    decoder.list (levels + 1) (document (.list (values.map encode))) =
      some values := by
  rw [document, documentItems_eq_map]
  show ((values.map encode).map document).mapM (decoder levels) = _
  induction values with
  | nil => rfl
  | cons value values step =>
    rw [List.map_cons, List.map_cons, List.mapM_cons, read, step]
    rfl

theorem texts_document (texts : List String) :
    Decoder.text.list (levels + 1) (document (.ofTexts texts)) =
      some texts :=
  list_document (text_document levels) texts

/-- A value that may be missing is null in its absence. -/
theorem option_document
    (read : ∀ value, decoder levels (document (encode value)) = some value)
    (present : ∀ value, document (encode value) ≠ .null)
    (value : Option α) :
    decoder.nullable levels (document (.ofOption encode value)) =
      some value := by
  cases value with
  | none => rfl
  | some value =>
    rw [ofOption, Decoder.nullable, read]
    · rfl
    · exact present value

/-- A mapping is read row by row. -/
theorem mapping_document
    (read : ∀ value, decoder levels (document (encode value)) = some value)
    (mapping : Keyed α) :
    decoder.mapping (levels + 1) (document (.record
      (mapping.entries.map fun row => (row.1, encode row.2)))) =
      some mapping := by
  have rows : ∀ entries : List (String × α),
      (entries.map fun row =>
        (escapedPieces row.1, document (encode row.2))).mapM
        (fun field => do
          let name ← pieceText? field.1
          let value ← decoder levels field.2
          some (name, value)) = some entries := by
    intro entries
    induction entries with
    | nil => rfl
    | cons row entries step =>
      rw [List.map_cons, List.mapM_cons, pieceText?_escaped, read, step]
      rfl
  rw [document, documentFields_eq_map, List.map_map, Decoder.mapping]
  refine (congrArg (Option.map Keyed.ofList) (rows mapping.entries)).trans ?_
  rw [Option.map_some, Keyed.ofList_entries]

end Values

/-! ## Records -/

/-- A field is placed where its name is found. -/
theorem Fields.place_append {name : String} {written : Written}
    {before after : List (String × Option Written)}
    (apart : name ∉ before.map Prod.fst) :
    Fields.place name written (before ++ (name, none) :: after) =
      some (before ++ (name, some written) :: after) := by
  induction before with
  | nil => simp [Fields.place]
  | cons row before step =>
    rw [List.map_cons, List.mem_cons, not_or] at apart
    rw [List.cons_append, Fields.place, if_neg (Ne.symm apart.1),
      step apart.2]
    rfl

/-- Fields are placed one after another. -/
theorem Fields.placeAll_document (done todo : List (String × Json))
    (apart : ((done ++ todo).map Prod.fst).Nodup) :
    Fields.placeAll
      (todo.map fun field => (escapedPieces field.1, document field.2))
      ((done.map fun field => (field.1, some (document field.2))) ++
        todo.map fun field => (field.1, none)) =
      some ((done ++ todo).map fun field =>
        (field.1, some (document field.2))) := by
  induction todo generalizing done with
  | nil => simp [Fields.placeAll]
  | cons field todo step =>
    have fresh : field.1 ∉ (done.map fun field =>
        (field.1, some (document field.2))).map Prod.fst := by
      rw [List.map_map]
      intro member
      rw [List.map_append, List.nodup_append] at apart
      exact apart.2.2 _ member _ List.mem_cons_self rfl
    have onward := step (done ++ [field]) (by rwa [List.append_assoc])
    rw [List.append_assoc] at onward
    rw [List.map_cons, List.map_cons, Fields.placeAll, pieceText?_escaped,
      Option.bind_eq_bind, Option.bind_some, Fields.place_append fresh,
      Option.bind_eq_bind, Option.bind_some]
    simpa using onward

/-- A printed record has its fields. -/
theorem Fields.decode_document (levels : Nat) {fields : List (String × Json)}
    (apart : (fields.map Prod.fst).Nodup) :
    Fields.decode (fields.map Prod.fst) (levels + 1)
        (document (.record fields)) =
      some ⟨fields.map fun field => (field.1, some (document field.2)), false,
        levels⟩ := by
  have placed := Fields.placeAll_document [] fields apart
  rw [List.map_nil, List.nil_append, List.nil_append] at placed
  rw [document, documentFields_eq_map, Fields.decode, List.map_map]
  exact congrArg (Option.map _) placed

namespace Fields

/-- A printed record has its fields, found by name. -/
theorem exists_decode_document (levels : Nat) {fields : List (String × Json)}
    (apart : (fields.map Prod.fst).Nodup) :
    ∃ found, decode (fields.map Prod.fst) (levels + 1)
        (document (.record fields)) = some found ∧
      found.levels = levels ∧
      ∀ field ∈ fields, found.get? field.1 = some (document field.2) := by
  refine ⟨_, decode_document levels apart, rfl, fun field member => ?_⟩
  have held : lookupRow field.1
      (fields.map fun field => (field.1, some (document field.2))) =
      some (some (document field.2)) := by
    rw [lookupRow_map (fun value => some (document value)),
      lookupRow_of_mem apart member, Option.map_some]
  rw [get?, held, Option.join_some]

section Found

variable {fields : Fields} {name : String} {value : Json}
  (found : fields.get? name = some (document value))

include found

theorem required_of_get? {α : Type} (decoder : Decoder α) :
    fields.required name decoder = decoder fields.levels (document value) := by
  rw [required, found, Option.bind_some]

theorem optional_of_get? {α : Type} (fallback : α) (decoder : Decoder α) :
    fields.optional name fallback decoder =
      decoder fields.levels (document value) := by
  rw [optional, found]

theorem absentable_of_get? {α : Type} (decoder : Decoder α) :
    fields.absentable name decoder =
      decoder.nullable fields.levels (document value) := by
  rw [absentable, found]

end Found

end Fields

end ModuleAtlas.Json
