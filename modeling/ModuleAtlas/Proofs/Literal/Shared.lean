import ModuleAtlas.Json.Written
import ModuleAtlas.Proofs.Json.Tokens
import ModuleAtlas.Proofs.Literal.Numerals

/-!
# Strings and numbers of JSON, read as literals

The reader of literals takes the strings of a JSON document piece by piece, with
two exceptions.  It knows no escapes for a backspace and a form feed, and takes
their letters for themselves.  An escape for half of a surrogate pair is
refused, even where the other half follows.  Integers of 64 bits are read alike.
-/

namespace ModuleAtlas.Json

/-- A character of a JSON string as the reader of literals takes it.  Inside a
string, a backspace and a form feed can only come from their escapes. -/
def softChar (c : Char) : Char :=
  if c.toNat = 8 then 'b' else if c.toNat = 12 then 'f' else c

namespace Piece

/-- A piece as the reader of literals takes it. -/
def soften : Piece → Piece
  | .char c => .char (softChar c)
  | .unit code => .unit code

/-- Whether the reader of literals does not take a piece as JSON does. -/
def isForeign (piece : Piece) : Bool := piece.isHalf || piece.soften ≠ piece

end Piece

theorem exists_pieceChars? {pieces : List Piece}
    (whole : ∀ piece ∈ pieces, piece.isHalf = false) :
    ∃ chars, pieceChars? (pieces.map Piece.soften) = some chars := by
  induction pieces with
  | nil => exact ⟨[], rfl⟩
  | cons piece pieces step =>
    rw [List.forall_mem_cons] at whole
    rcases step whole.2 with ⟨chars, meaning⟩
    cases piece with
    | char c =>
      exact ⟨softChar c :: chars, by
        rw [List.map_cons, Piece.soften, pieceChars?_char, meaning,
          Option.map_some]⟩
    | unit code =>
      exact ⟨Char.ofNat code :: chars, by
        rw [List.map_cons, Piece.soften, pieceChars?_unit whole.1, meaning,
          Option.map_some]⟩

/-! ## Escapes -/

theorem shortEscape?_soft {letter c : Char}
    (known : shortEscape? letter = some c) :
    letter ≠ 'u' ∧ Literal.escaped letter = softChar c := by
  have letters : letter ∈ ['"', '\\', '/', 'b', 'f', 'n', 'r', 't'] := by
    by_contra other
    simp only [List.mem_cons, List.not_mem_nil, or_false, not_or] at other
    simp [shortEscape?, other] at known
  have every : ∀ letter ∈ ['"', '\\', '/', 'b', 'f', 'n', 'r', 't'],
      letter ≠ 'u' ∧ ((shortEscape? letter).map softChar =
        some (Literal.escaped letter)) :=
    List.all_iff_forall_prop.mp (by decide)
  obtain ⟨short, same⟩ := every letter letters
  rw [known, Option.map_some] at same
  exact ⟨short, (Option.some.inj same).symm⟩

theorem hexValue_lt (c : Char) : (Text.hexValue? c).getD 0 < 16 := by
  have code {low high : Char} (within : low ≤ c ∧ c ≤ high) :
      low.toNat ≤ c.toNat ∧ c.toNat ≤ high.toNat :=
    ⟨UInt32.le_iff_toNat_le.mp within.1, UInt32.le_iff_toNat_le.mp within.2⟩
  unfold Text.hexValue?
  split_ifs with digit lower upper
  · have bounds : 48 ≤ c.toNat ∧ c.toNat ≤ 57 := code digit
    have zero : '0'.toNat = 48 := rfl
    simp only [Option.getD_some]
    omega
  · have bounds : 97 ≤ c.toNat ∧ c.toNat ≤ 102 := code lower
    have letter : 'a'.toNat = 97 := rfl
    simp only [Option.getD_some]
    omega
  · have bounds : 65 ≤ c.toNat ∧ c.toNat ≤ 70 := code upper
    have letter : 'A'.toNat = 65 := rfl
    simp only [Option.getD_some]
    omega
  · simp

theorem hexQuad?_lt {a b c d : Char} {code : Nat}
    (known : hexQuad? a b c d = some code) : code < 65536 := by
  unfold hexQuad? at known
  split at known
  · obtain rfl := Option.some.inj known
    have first := hexValue_lt a
    have second := hexValue_lt b
    have third := hexValue_lt c
    have fourth := hexValue_lt d
    simp only [Text.numberOf, List.foldl_cons, List.foldl_nil]
    omega
  · exact absurd known (by simp)

theorem hexNumber?_quad {a b c d : Char} {code : Nat}
    (known : hexQuad? a b c d = some code) :
    Literal.hexNumber? [a, b, c, d] = some code := by
  unfold hexQuad? at known
  split at known
  · next digits =>
    have unsigned : a ≠ '+' := by
      rintro rfl
      exact absurd digits (by simp [show Text.isHexDigit '+' = false by decide])
    unfold Literal.hexNumber?
    split
    · next same => exact absurd (List.cons.inj same).1 unsigned
    · rw [if_pos digits, known]
  · exact absurd known (by simp)

/-- The character of a code unit, which halves of pairs do not have. -/
theorem scalar?_unit {code : Nat} (bound : code < 65536) :
    Text.scalar? code =
      if (Piece.unit code).isHalf then none else some (Char.ofNat code) := by
  have half : (Piece.unit code).isHalf = true ↔
      55296 ≤ code ∧ code ≤ 57343 := by
    simp only [Piece.isHalf, isLeading, isTrailing, Bool.or_eq_true,
      Bool.and_eq_true, decide_eq_true_eq]
    omega
  have valid : code.isValidChar ↔ ¬ (Piece.unit code).isHalf = true := by
    rw [half]
    unfold Nat.isValidChar
    omega
  unfold Text.scalar?
  by_cases scalar : code.isValidChar
  · have fits : code < UInt32.size := bound.trans (by decide)
    rw [dif_pos scalar, if_neg (valid.mp scalar), Char.ofNat, dif_pos scalar]
    exact congrArg some
      (Char.ext (UInt32.toNat_inj.mp (UInt32.toNat_ofNat_of_lt' fits)))
  · rw [dif_neg scalar, if_pos (not_not.mp (mt valid.mpr scalar))]

/-! ## Integers -/

namespace NumberText

/-- The integer that the digits before the point denote. -/
def integer (spelling : NumberText) : Int :=
  if spelling.negative then -digitsValue spelling.whole
  else digitsValue spelling.whole

/-- An integer of 64 bits without a point or an exponent, and not `-0`. -/
def isInteger (spelling : NumberText) : Bool :=
  spelling.fraction.isNone && spelling.exponent.isNone &&
    Decimal.fitsInt64 spelling.integer &&
    !(spelling.negative && spelling.integer = 0)

theorem value?_integer {spelling : NumberText}
    (integral : spelling.isInteger = true) :
    spelling.value? = some (.int spelling.integer) := by
  obtain ⟨negative, whole, fraction, exponent⟩ := spelling
  simp only [isInteger, integer, Bool.and_eq_true, Option.isNone_iff_eq_none]
    at integral
  obtain ⟨⟨⟨rfl, rfl⟩, fits⟩, nonzero⟩ := integral
  have bounds := fits
  simp only [Decimal.fitsInt64, Bool.and_eq_true, decide_eq_true_eq] at bounds
  cases negative with
  | true =>
    have apart : digitsValue whole ≠ 0 := by simpa using nonzero
    simp only [if_true] at bounds
    have small : digitsValue whole ≤ maxSignificand := by
      unfold maxSignificand
      omega
    have fits : 0 < digitsValue whole ∧
        digitsValue whole ≤ 9223372036854775808 := by omega
    simp [value?, integer, small, fits]
  | false =>
    simp only [Bool.false_eq_true, if_false] at bounds
    have small : digitsValue whole ≤ maxSignificand := by
      unfold maxSignificand
      omega
    simp [value?, integer, small]

end NumberText

end ModuleAtlas.Json

namespace ModuleAtlas.Literal

open Json (Piece Pieced NumberText signed mem_signed)

/-- The spelling of an integer is a run of characters of numbers. -/
theorem run_signed (negative : Bool) {whole rest : List Char}
    (digits : ∀ c ∈ whole, c.isDigit = true)
    (ends : ∀ c ∈ rest.head?, isNumberChar c = false) :
    Run isNumberChar (signed negative whole ++ rest) (signed negative whole)
      rest := by
  refine ⟨rfl, fun c member => ?_, ends⟩
  rcases mem_signed member with rfl | digit
  · rfl
  · simp [isNumberChar, digits c digit]

theorem filter_signed (negative : Bool) {whole : List Char}
    (digits : ∀ c ∈ whole, c.isDigit = true) :
    (signed negative whole).filter (· ≠ '_') = signed negative whole := by
  refine List.filter_eq_self.mpr fun c member => ?_
  rcases mem_signed member with rfl | digit
  · rfl
  · have apart : c ≠ '_' := by
      rintro rfl
      exact absurd (digits _ digit) (by decide)
    simp [apart]

theorem numberValue?_integer {negative : Bool} {whole : List Char}
    (nonempty : whole ≠ []) (digits : ∀ c ∈ whole, c.isDigit = true)
    (fits : Decimal.fitsInt64
      (NumberText.integer ⟨negative, whole, none, none⟩) = true) :
    numberValue? (signed negative whole) =
      some (.int (NumberText.integer ⟨negative, whole, none, none⟩)) := by
  have spelled : IsInteger
      (NumberText.integer ⟨negative, whole, none, none⟩)
      (signed negative whole) := by
    cases negative with
    | true => exact .mk .minus nonempty digits
    | false => exact .mk .none nonempty digits
  exact numberValue?_eq_some.2 (.int spelled (fitsInt64_iff.1 fits))

/-! ## Strings -/

/-- The pieces of a string without halves of pairs spell its characters. -/
theorem chars_of_pieced {text rest : List Char} {pieces : List Piece}
    (pieced : Pieced text pieces rest)
    (whole : ∀ piece ∈ pieces, piece.isHalf = false) :
    ∃ chars, Json.pieceChars? (pieces.map Piece.soften) = some chars ∧
      Chars '"' text chars rest := by
  induction pieced with
  | close rest => exact ⟨[], rfl, .close rest⟩
  | @unit digit₁ digit₂ digit₃ digit₄ code text rest pieces known _ step =>
    rw [List.forall_mem_cons] at whole
    rcases step whole.2 with ⟨chars, meaning, spelled⟩
    refine ⟨Char.ofNat code :: chars, ?_, .unicode ?_ spelled⟩
    · rw [List.map_cons, Piece.soften, Json.pieceChars?_unit whole.1, meaning,
        Option.map_some]
    · rw [Json.hexNumber?_quad known, Option.bind_some,
        Json.scalar?_unit (Json.hexQuad?_lt known), whole.1]
      rfl
  | @short letter c text rest pieces known _ step =>
    rw [List.forall_mem_cons] at whole
    rcases step whole.2 with ⟨chars, meaning, spelled⟩
    obtain ⟨short, same⟩ := Json.shortEscape?_soft known
    refine ⟨Json.softChar c :: chars, ?_, same ▸ .escape short spelled⟩
    rw [List.map_cons, Piece.soften, Json.pieceChars?_char, meaning,
      Option.map_some]
  | @plain c text rest pieces noQuote noEscape printable _ step =>
    rw [List.forall_mem_cons] at whole
    rcases step whole.2 with ⟨chars, meaning, spelled⟩
    have noNewline : c ≠ '\n' := by
      rintro rfl
      exact absurd printable (by decide)
    have plain : Json.softChar c = c := by
      rw [Json.softChar, if_neg (by omega), if_neg (by omega)]
    refine ⟨c :: chars, ?_, .plain noQuote noEscape noNewline spelled⟩
    rw [List.map_cons, Piece.soften, plain, Json.pieceChars?_char, meaning,
      Option.map_some]

/-- A reading is refused for an escape that names no character. -/
def Refused {α : Type} (reading : Reading α) : Prop :=
  ∃ digits, reading = .error (.invalidUnicode digits)

theorem Refused.map {α β : Type} {reading : Reading α}
    (refused : Refused reading) (change : α × Cursor → β × Cursor) :
    Refused (reading.map change) := by
  rcases refused with ⟨digits, rfl⟩
  exact ⟨digits, rfl⟩

/-- A string with an escape for half of a pair is refused. -/
theorem refused_of_pieced {text rest : List Char} {pieces : List Piece}
    (pieced : Pieced text pieces rest)
    (halved : ∃ piece ∈ pieces, piece.isHalf = true) (start offset : Nat) :
    Refused (stringBody '"' start offset text) := by
  induction pieced generalizing offset with
  | close => exact absurd halved (by simp)
  | @unit digit₁ digit₂ digit₃ digit₄ code text rest pieces known _ step =>
    rw [stringBody_unicode (by decide), Json.hexNumber?_quad known,
      Option.bind_some, Json.scalar?_unit (Json.hexQuad?_lt known)]
    rw [List.exists_mem_cons_iff] at halved
    by_cases half : (Piece.unit code).isHalf = true
    · rw [if_pos half]
      exact ⟨_, rfl⟩
    · rw [if_neg half]
      exact (step (halved.resolve_left half) _).map _
  | short known _ step =>
    obtain ⟨short, _⟩ := Json.shortEscape?_soft known
    rw [stringBody_escape (by decide) short]
    rw [List.exists_mem_cons_iff] at halved
    exact (step (halved.resolve_left (by simp [Piece.isHalf])) _).map _
  | plain noQuote noEscape printable _ step =>
    rw [List.exists_mem_cons_iff] at halved
    rw [stringBody_plain noQuote noEscape]
    · exact (step (halved.resolve_left (by simp [Piece.isHalf])) _).map _
    · rintro rfl
      exact absurd printable (by decide)

end ModuleAtlas.Literal
