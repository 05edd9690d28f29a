import ModuleAtlas.Proofs.Literal.Reading

/-!
# Numerals of the literal dialect

A numeral is an integer of 64 bits or a decimal numeral of a finite double.
What a numeral is, is said here by its parts: an optional sign, digits with an
optional point among them, and an optional exponent.  In a literal, underscores
may stand anywhere behind its first character, which is a sign or a digit.
-/

namespace ModuleAtlas.Literal

/-! ## Parts of a numeral -/

/-- A sign, which may be missing, and whether it is a minus. -/
inductive Sign : Bool → List Char → Prop where
  | none : Sign false []
  | plus : Sign false ['+']
  | minus : Sign true ['-']

/-- Digits alone, perhaps none. -/
def AllDigits (text : List Char) : Prop := ∀ c ∈ text, c.isDigit = true

/-- An integer has at least one digit. -/
inductive IsInteger : Int → List Char → Prop where
  | mk {negative : Bool} {sign digits : List Char} :
      Sign negative sign → digits ≠ [] → AllDigits digits →
      IsInteger
        (if negative then -(Decimal.digitsValue digits : Int)
          else Decimal.digitsValue digits)
        (sign ++ digits)

/-- The digits behind a point, if there is one. -/
inductive IsFraction : List Char → List Char → Prop where
  | none : IsFraction [] []
  | point {digits : List Char} :
      AllDigits digits → IsFraction digits ('.' :: digits)

/-- The power of ten that a significand is scaled by. -/
inductive IsExponent : Int → List Char → Prop where
  | none : IsExponent 0 []
  | marked {mark : Char} {value : Int} {text : List Char} :
      mark = 'e' ∨ mark = 'E' → IsInteger value text →
      IsExponent value (mark :: text)

/-- A numeral without a sign, with at least one digit before or behind its
point. -/
inductive IsMagnitude : Float → List Char → Prop where
  | mk {whole fraction point mark : List Char} {exponent : Int} :
      AllDigits whole → IsFraction fraction point → whole ++ fraction ≠ [] →
      IsExponent exponent mark →
      IsMagnitude
        (Decimal.nearest (whole ++ fraction) (exponent - fraction.length))
        (whole ++ (point ++ mark))

inductive IsReal : Float → List Char → Prop where
  | mk {negative : Bool} {value : Float} {sign text : List Char} :
      Sign negative sign → IsMagnitude value text →
      IsReal (if negative then -value else value) (sign ++ text)

/-- Whether an integer has 64 bits with its sign. -/
def FitsWord (value : Int) : Prop := -2 ^ 63 ≤ value ∧ value < 2 ^ 63

/-- A numeral is an integer if it can be one, and otherwise finite. -/
inductive IsNumber : Json.Number → List Char → Prop where
  | int {value : Int} {text : List Char} :
      IsInteger value text → FitsWord value → IsNumber (.int value) text
  | float {value : Float} {text : List Char} :
      (∀ whole, IsInteger whole text → ¬ FitsWord whole) →
      IsReal value text → value.isFinite = true →
      IsNumber (.float value) text

/-- A numeral as it stands in a literal. -/
inductive NumberStands : Json.Number → List Char → Prop where
  | mk {c : Char} {more : List Char} {value : Json.Number} :
      c = '-' ∨ c = '+' ∨ c.isDigit = true →
      IsNumber value ((c :: more).filter (· ≠ '_')) →
      NumberStands value (c :: more)

/-! ## Signs -/

/-- No sign stands at the start of a text. -/
def Unsigned (text : List Char) : Prop :=
  ∀ c ∈ text.head?, c ≠ '-' ∧ c ≠ '+'

theorem AllDigits.unsigned {digits : List Char} (all : AllDigits digits)
    (nonempty : digits ≠ []) (rest : List Char) :
    Unsigned (digits ++ rest) := by
  cases digits with
  | nil => exact absurd rfl nonempty
  | cons digit digits =>
    intro c first
    obtain rfl := Option.some.inj first
    have isDigit := all digit List.mem_cons_self
    constructor <;> rintro rfl <;> exact absurd isDigit (by decide)

theorem splitSign_append {negative : Bool} {sign : List Char}
    (signed : Sign negative sign) {rest : List Char}
    (unsigned : Unsigned rest) :
    Decimal.splitSign (sign ++ rest) = (negative, rest) := by
  cases signed with
  | plus | minus => rfl
  | none =>
    rw [List.nil_append, Decimal.splitSign.eq_def]
    split
    · exact absurd rfl (unsigned _ rfl).1
    · exact absurd rfl (unsigned _ rfl).2
    · rfl

theorem exists_sign (text : List Char) :
    ∃ negative sign rest, Sign negative sign ∧ text = sign ++ rest ∧
      Decimal.splitSign text = (negative, rest) := by
  rw [Decimal.splitSign.eq_def]
  split
  · exact ⟨_, _, _, .minus, rfl, rfl⟩
  · exact ⟨_, _, _, .plus, rfl, rfl⟩
  · exact ⟨_, _, _, .none, rfl, rfl⟩

/-! ## Integers -/

theorem integer?_eq_some {text : List Char} {value : Int} :
    Decimal.integer? text = some value ↔ IsInteger value text := by
  constructor
  · intro known
    rcases exists_sign text with ⟨negative, sign, rest, signed, rfl, split⟩
    simp only [Decimal.integer?, split] at known
    rcases Option.ite_none_right_eq_some.1 known with
      ⟨⟨nonempty, digits⟩, same⟩
    obtain rfl := Option.some.inj same
    exact .mk signed nonempty (List.all_eq_true.1 digits)
  · rintro ⟨signed, nonempty, digits⟩
    have unsigned := digits.unsigned nonempty []
    rw [List.append_nil] at unsigned
    simp only [Decimal.integer?, splitSign_append signed unsigned]
    rw [if_pos ⟨nonempty, List.all_eq_true.2 digits⟩]

theorem fitsInt64_iff {value : Int} :
    Decimal.fitsInt64 value = true ↔ FitsWord value := by
  rw [Decimal.fitsInt64, FitsWord, Bool.and_eq_true, decide_eq_true_eq,
    decide_eq_true_eq]
  omega

theorem int64?_eq_some {text : List Char} {value : Int} :
    Decimal.int64? text = some value ↔
      IsInteger value text ∧ FitsWord value := by
  rw [Decimal.int64?, Option.filter_eq_some_iff, integer?_eq_some,
    fitsInt64_iff]

/-! ## Decimal numerals -/

theorem exponent?_cons (mark : Char) (text : List Char) :
    Decimal.exponent? (mark :: text) =
      if mark = 'e' ∨ mark = 'E' then Decimal.integer? text else none := by
  by_cases marked : mark = 'e' ∨ mark = 'E'
  · simp only [Decimal.exponent?, Decimal.integer?, marked, true_and, if_true]
  · simp only [Decimal.exponent?, marked, false_and, if_false]

theorem exponent?_eq_some {text : List Char} {value : Int} :
    Decimal.exponent? text = some value ↔ IsExponent value text := by
  cases text with
  | nil =>
    rw [Decimal.exponent?, Option.some.injEq]
    constructor
    · rintro rfl
      exact .none
    · rintro ⟨⟩
      rfl
  | cons mark text =>
    rw [exponent?_cons, Option.ite_none_right_eq_some, integer?_eq_some]
    constructor
    · exact fun ⟨marked, value⟩ => .marked marked value
    · rintro ⟨⟩
      exact ⟨‹_›, ‹_›⟩

/-- An exponent does not go on the digits in front of it. -/
theorem IsExponent.stops {value : Int} {text : List Char}
    (spelled : IsExponent value text) :
    ∀ c ∈ text.head?, c.isDigit = false ∧ c ≠ '.' := by
  intro c first
  cases spelled with
  | none => exact absurd first (by simp)
  | marked marked =>
    obtain rfl := Option.some.inj first
    rcases marked with rfl | rfl <;> decide

/-- Digits are cut off as a run. -/
theorem AllDigits.cut {digits : List Char} (all : AllDigits digits)
    {rest : List Char} (stops : ∀ c ∈ rest.head?, c.isDigit = false) :
    (digits ++ rest).takeWhile Char.isDigit = digits ∧
      (digits ++ rest).dropWhile Char.isDigit = rest := by
  have cut := takeRun_run ⟨rfl, all, stops⟩ 0
  simp only [Cursor.takeRun, Prod.mk.injEq, Cursor.mk.injEq] at cut
  exact ⟨cut.1, cut.2.2⟩

/-- Cut off a point with the digits behind it, if it is there. -/
def cutFraction : List Char → List Char × List Char
  | '.' :: rest => (rest.takeWhile Char.isDigit, rest.dropWhile Char.isDigit)
  | rest => ([], rest)

theorem exists_cutFraction (text : List Char) :
    ∃ fraction point rest, IsFraction fraction point ∧ text = point ++ rest ∧
      cutFraction text = (fraction, rest) := by
  rw [cutFraction.eq_def]
  split
  · next rest =>
    have digits : AllDigits (rest.takeWhile Char.isDigit) :=
      List.all_eq_true.1 List.all_takeWhile
    refine ⟨_, _, _, .point digits, ?_, rfl⟩
    rw [List.cons_append, List.takeWhile_append_dropWhile]
  · exact ⟨_, _, _, .none, rfl, rfl⟩

theorem IsFraction.cut {fraction point : List Char}
    (spelled : IsFraction fraction point) {exponent : Int} {mark : List Char}
    (behind : IsExponent exponent mark) :
    cutFraction (point ++ mark) = (fraction, mark) := by
  have stops := behind.stops
  cases spelled with
  | none =>
    rw [List.nil_append, cutFraction.eq_def]
    split
    · exact absurd rfl (stops _ rfl).2
    · rfl
  | point digits =>
    have cut := digits.cut fun c first => (stops c first).1
    rw [List.cons_append, cutFraction, cut.1, cut.2]

theorem IsFraction.stops {fraction point : List Char}
    (spelled : IsFraction fraction point) {exponent : Int} {mark : List Char}
    (behind : IsExponent exponent mark) :
    ∀ c ∈ (point ++ mark).head?, c.isDigit = false := by
  cases spelled with
  | none => exact fun c first => (behind.stops c first).1
  | point =>
    intro c first
    obtain rfl := Option.some.inj first
    rfl

theorem magnitude?_eq {text rest : List Char} {fraction : List Char}
    (cut : cutFraction (text.dropWhile Char.isDigit) = (fraction, rest)) :
    Decimal.magnitude? text =
      if text.takeWhile Char.isDigit ++ fraction = [] then none
      else (Decimal.exponent? rest).map fun exponent =>
        Decimal.nearest (text.takeWhile Char.isDigit ++ fraction)
          (exponent - fraction.length) := by
  rw [Decimal.magnitude?]
  generalize text.dropWhile Char.isDigit = behind at cut ⊢
  rw [cutFraction.eq_def] at cut
  split at cut <;> obtain ⟨rfl, rfl⟩ := Prod.mk.inj cut <;>
    simp [Option.map_eq_bind]

theorem magnitude?_eq_some {text : List Char} {value : Float} :
    Decimal.magnitude? text = some value ↔ IsMagnitude value text := by
  constructor
  · intro known
    rcases exists_cutFraction (text.dropWhile Char.isDigit) with
      ⟨fraction, point, mark, spelled, split, cut⟩
    rw [magnitude?_eq cut, Option.ite_none_left_eq_some,
      Option.map_eq_some_iff] at known
    rcases known with ⟨nonempty, exponent, scaled, rfl⟩
    have whole : AllDigits (text.takeWhile Char.isDigit) :=
      List.all_eq_true.1 List.all_takeWhile
    have found : IsMagnitude _ _ :=
      .mk whole spelled nonempty (exponent?_eq_some.1 scaled)
    rwa [← split, List.takeWhile_append_dropWhile] at found
  · rintro ⟨whole, spelled, nonempty, scaled⟩
    have parts := whole.cut (spelled.stops scaled)
    have cut := spelled.cut scaled
    rw [← parts.2] at cut
    rw [magnitude?_eq cut, parts.1, if_neg nonempty,
      exponent?_eq_some.2 scaled, Option.map_some]

theorem IsMagnitude.unsigned {value : Float} {text : List Char}
    (spelled : IsMagnitude value text) : Unsigned text := by
  cases spelled with
  | @mk whole fraction point mark exponent digits cut nonempty scaled =>
    by_cases bare : whole = []
    · subst bare
      cases cut with
      | none => exact absurd rfl nonempty
      | point =>
        intro c first
        obtain rfl := Option.some.inj first
        decide
    · exact digits.unsigned bare _

theorem double?_eq_some {text : List Char} {value : Float} :
    Decimal.double? text = some value ↔ IsReal value text := by
  constructor
  · intro known
    rcases exists_sign text with ⟨negative, sign, rest, signed, rfl, split⟩
    simp only [Decimal.double?, split, Option.map_eq_some_iff] at known
    rcases known with ⟨magnitude, known, rfl⟩
    exact .mk signed (magnitude?_eq_some.1 known)
  · rintro ⟨signed, spelled⟩
    simp only [Decimal.double?, splitSign_append signed spelled.unsigned,
      magnitude?_eq_some.2 spelled, Option.map_some]

/-- What the reader takes a numeral for is what it denotes. -/
theorem numberValue?_eq_some {text : List Char} {value : Json.Number} :
    numberValue? text = some value ↔ IsNumber value text := by
  have whole : ∀ {value : Int}, Decimal.int64? text = some value ↔
      IsInteger value text ∧ FitsWord value := int64?_eq_some
  rw [numberValue?]
  constructor
  · intro read
    split at read
    · next known =>
      obtain rfl := Option.some.inj read
      exact .int (whole.1 known).1 (whole.1 known).2
    · next unknown =>
      split at read
      · next real =>
        rcases Option.ite_none_right_eq_some.1 read with ⟨finite, ⟨⟩⟩
        refine .float (fun value integer fits => ?_) (double?_eq_some.1 real)
          finite
        exact absurd (unknown.symm.trans (whole.2 ⟨integer, fits⟩)) (by simp)
      · exact absurd read (by simp)
  · rintro (⟨integer, fits⟩ | ⟨never, real, finite⟩)
    · rw [whole.2 ⟨integer, fits⟩]
    · have unknown : Decimal.int64? text = none := by
        by_contra known
        rcases Option.ne_none_iff_exists'.1 known with ⟨value, known⟩
        exact never value (whole.1 known).1 (whole.1 known).2
      rw [unknown, double?_eq_some.2 real]
      exact if_pos finite

/-! ## Characters of a numeral -/

/-- Whether all characters may stand in a number. -/
def Inside (text : List Char) : Prop := ∀ c ∈ text, isNumberChar c = true

theorem Inside.append {first second : List Char} (inside : Inside first)
    (inside' : Inside second) : Inside (first ++ second) :=
  List.forall_mem_append.2 ⟨inside, inside'⟩

theorem AllDigits.inside {digits : List Char} (all : AllDigits digits) :
    Inside digits := fun c member => by simp [isNumberChar, all c member]

theorem Sign.inside {negative : Bool} {sign : List Char}
    (signed : Sign negative sign) : Inside sign := by
  cases signed with
  | none => exact fun _ member => absurd member List.not_mem_nil
  | plus | minus => exact List.forall_mem_singleton.2 rfl

theorem IsInteger.inside {value : Int} {text : List Char}
    (spelled : IsInteger value text) : Inside text := by
  cases spelled with
  | mk signed _ digits => exact signed.inside.append digits.inside

theorem IsFraction.inside {fraction point : List Char}
    (spelled : IsFraction fraction point) : Inside point := by
  cases spelled with
  | none => exact fun _ member => absurd member List.not_mem_nil
  | point digits => exact List.forall_mem_cons.2 ⟨rfl, digits.inside⟩

theorem IsExponent.inside {value : Int} {text : List Char}
    (spelled : IsExponent value text) : Inside text := by
  cases spelled with
  | none => exact fun _ member => absurd member List.not_mem_nil
  | marked marked integer =>
    refine List.forall_mem_cons.2 ⟨?_, integer.inside⟩
    rcases marked with rfl | rfl <;> rfl

theorem IsNumber.inside {value : Json.Number} {text : List Char}
    (spelled : IsNumber value text) : Inside text := by
  cases spelled with
  | int integer => exact integer.inside
  | float _ real =>
    rcases real with ⟨signed, ⟨whole, fraction, _, exponent⟩⟩
    exact signed.inside.append
      (whole.inside.append (fraction.inside.append exponent.inside))

theorem NumberStands.inside {value : Json.Number} {text : List Char}
    (stands : NumberStands value text) : Inside text := by
  cases stands with
  | mk _ spelled =>
    intro c member
    by_cases underscore : c = '_'
    · subst underscore
      rfl
    · exact spelled.inside c (List.mem_filter.2 ⟨member, by simpa⟩)

end ModuleAtlas.Literal
