import Mathlib.Data.List.TakeWhile
import ModuleAtlas.Json.Written

/-!
# The text behind tokens

A text that is cut into tokens consists of their spellings with gaps between
them.  What each spelling looks like is read off the scanners: fixed marks,
quoted pieces, and numbers.
-/

namespace ModuleAtlas.Json

/-! ## Pieces -/

/-- Whether a piece is half of a surrogate pair. -/
def Piece.isHalf : Piece → Bool
  | .char _ => false
  | .unit code => isLeading code || isTrailing code

theorem pieceChars?_char (c : Char) (pieces : List Piece) :
    pieceChars? (.char c :: pieces) = (pieceChars? pieces).map (c :: ·) := by
  rw [pieceChars?]

theorem pieceChars?_unit {code : Nat} (whole : (Piece.unit code).isHalf = false)
    (pieces : List Piece) :
    pieceChars? (.unit code :: pieces) =
      (pieceChars? pieces).map (Char.ofNat code :: ·) := by
  simp only [Piece.isHalf, Bool.or_eq_false_iff] at whole
  cases pieces with
  | nil => simp [pieceChars?, whole]
  | cons next rest => simp [pieceChars?, whole]

/-! ## Strings -/

/-- The pieces of a string, up to its closing quote. -/
inductive Pieced : List Char → List Piece → List Char → Prop where
  | close (rest : List Char) : Pieced ('"' :: rest) [] rest
  | unit {digit₁ digit₂ digit₃ digit₄ : Char} {code : Nat}
      {text rest : List Char} {pieces : List Piece} :
      hexQuad? digit₁ digit₂ digit₃ digit₄ = some code →
      Pieced text pieces rest →
      Pieced ('\\' :: 'u' :: digit₁ :: digit₂ :: digit₃ :: digit₄ :: text)
        (.unit code :: pieces) rest
  | short {letter c : Char} {text rest : List Char} {pieces : List Piece} :
      shortEscape? letter = some c → Pieced text pieces rest →
      Pieced ('\\' :: letter :: text) (.char c :: pieces) rest
  | plain {c : Char} {text rest : List Char} {pieces : List Piece} :
      c ≠ '"' → c ≠ '\\' → 32 ≤ c.toNat → Pieced text pieces rest →
      Pieced (c :: text) (.char c :: pieces) rest

theorem pieced_of_scan {text rest : List Char} {pieces : List Piece}
    (scanned : scanPieces text = some (pieces, rest)) :
    Pieced text pieces rest := by
  fun_induction scanPieces text generalizing pieces rest with
  | case1 => exact absurd scanned (by simp)
  | case2 text =>
    obtain ⟨rfl, rfl⟩ := Prod.mk.inj (Option.some.inj scanned)
    exact .close text
  | case3 a b c d text step =>
    simp only [Option.bind_eq_bind, Option.bind_eq_some_iff] at scanned
    rcases scanned with ⟨code, known, ⟨others, behind⟩, scanned, same⟩
    obtain ⟨rfl, rfl⟩ := Prod.mk.inj (Option.some.inj same)
    exact .unit known (step scanned)
  | case4 letter text apart step =>
    simp only [Option.bind_eq_bind, Option.bind_eq_some_iff] at scanned
    rcases scanned with ⟨c, known, ⟨others, behind⟩, scanned, same⟩
    obtain ⟨rfl, rfl⟩ := Prod.mk.inj (Option.some.inj same)
    exact .short known (step scanned)
  | case5 => exact absurd scanned (by simp)
  | case6 c text noQuote _ _ allowed step =>
    simp only [Option.bind_eq_bind, Option.bind_eq_some_iff] at scanned
    rcases scanned with ⟨⟨others, behind⟩, scanned, same⟩
    obtain ⟨rfl, rfl⟩ := Prod.mk.inj (Option.some.inj same)
    rw [not_or, Nat.not_lt] at allowed
    exact .plain noQuote allowed.1 allowed.2 (step scanned)

/-! ## Marks and numbers -/

/-- The spelling of a token that has only one. -/
def Token.mark? : Token → Option (List Char)
  | .openList => some ['[']
  | .closeList => some [']']
  | .openRecord => some ['{']
  | .closeRecord => some ['}']
  | .comma => some [',']
  | .colon => some [':']
  | .null => some "null".toList
  | .bool true => some "true".toList
  | .bool false => some "false".toList
  | .number _ | .text _ => none

/-- A token is spelled in front of a text. -/
inductive Shown : List Char → Token → List Char → Prop where
  | mark {token : Token} {mark text rest : List Char} :
      token.mark? = some mark → text = mark ++ rest → Shown text token rest
  | text {text rest : List Char} {pieces : List Piece} :
      Pieced text pieces rest → Shown ('"' :: text) (.text pieces) rest
  | number {text rest : List Char} {spelling : NumberText} :
      scanNumber text = some (spelling, rest) →
      Shown text (.number spelling) rest

theorem shown_of_scan {text rest : List Char} {token : Token}
    (scanned : scanToken text = some (token, rest)) :
    Shown text token rest := by
  unfold scanToken at scanned
  split at scanned
  case h_7 body =>
    rcases Option.map_eq_some_iff.mp scanned with
      ⟨⟨pieces, behind⟩, pieced, same⟩
    obtain ⟨rfl, rfl⟩ := Prod.mk.inj same
    exact .text (pieced_of_scan pieced)
  case h_11 =>
    rcases Option.map_eq_some_iff.mp scanned with
      ⟨⟨spelling, behind⟩, known, same⟩
    obtain ⟨rfl, rfl⟩ := Prod.mk.inj same
    exact .number known
  all_goals
    obtain ⟨rfl, rfl⟩ := Prod.mk.inj (Option.some.inj scanned)
    exact .mark rfl rfl

theorem Shown.of_mark {token : Token} {mark text rest : List Char}
    (shown : Shown text token rest) (marked : token.mark? = some mark) :
    text = mark ++ rest := by
  cases shown with
  | mark known same => exact Option.some.inj (known.symm.trans marked) ▸ same
  | text | number => exact absurd marked (by simp [Token.mark?])

theorem Shown.of_text {text rest : List Char} {pieces : List Piece}
    (shown : Shown text (.text pieces) rest) :
    ∃ body, text = '"' :: body ∧ Pieced body pieces rest := by
  cases shown with
  | mark known => exact absurd known (by simp [Token.mark?])
  | text pieced => exact ⟨_, rfl, pieced⟩

theorem Shown.of_number {text rest : List Char} {spelling : NumberText}
    (shown : Shown text (.number spelling) rest) :
    scanNumber text = some (spelling, rest) := by
  cases shown with
  | mark known => exact absurd known (by simp [Token.mark?])
  | number scanned => exact scanned

theorem scanWhole_split {text rest whole : List Char}
    (scanned : scanWhole text = some (whole, rest)) :
    text = whole ++ rest ∧ whole ≠ [] ∧ ∀ c ∈ whole, c.isDigit = true := by
  unfold scanWhole at scanned
  split at scanned
  · obtain ⟨rfl, rfl⟩ := Prod.mk.inj (Option.some.inj scanned)
    exact ⟨rfl, by simp, List.all_eq_true.mp rfl⟩
  · split at scanned
    · exact absurd scanned (by simp)
    · next digits behind nonempty split =>
      obtain ⟨rfl, rfl⟩ := Prod.mk.inj (Option.some.inj scanned)
      obtain ⟨taken, dropped⟩ := Prod.mk.inj split
      refine ⟨?_, ?_, fun c member => ?_⟩
      · rw [← taken, ← dropped, List.takeWhile_append_dropWhile]
      · rintro rfl
        exact nonempty rfl
      · rw [← taken] at member
        exact List.mem_takeWhile_imp member

theorem scanFraction_none {text rest : List Char}
    (scanned : scanFraction text = some (none, rest)) : rest = text := by
  unfold scanFraction at scanned
  split at scanned
  · split at scanned <;> exact absurd scanned (by simp)
  · exact (Prod.mk.inj (Option.some.inj scanned)).2.symm

theorem scanExponent_none {text rest : List Char}
    (scanned : scanExponent text = some (none, rest)) : rest = text := by
  unfold scanExponent at scanned
  split at scanned
  · split at scanned
    · dsimp only at scanned
      split at scanned <;> exact absurd scanned (by simp)
    · exact (Prod.mk.inj (Option.some.inj scanned)).2.symm
  · exact (Prod.mk.inj (Option.some.inj scanned)).2.symm

/-- The spelling of an integer: its digits, perhaps behind a minus. -/
def signed (negative : Bool) (whole : List Char) : List Char :=
  (if negative then ['-'] else []) ++ whole

theorem mem_signed {negative : Bool} {whole : List Char} {c : Char}
    (member : c ∈ signed negative whole) : c = '-' ∨ c ∈ whole := by
  rcases List.mem_append.mp member with sign | digit
  · cases negative with
    | true => exact .inl (List.mem_singleton.mp sign)
    | false => exact absurd sign (by simp)
  · exact .inr digit

/-- The digits of a number without a point or an exponent. -/
theorem scanNumber_whole {text rest whole : List Char} {negative : Bool}
    (scanned : scanNumber text = some (⟨negative, whole, none, none⟩, rest)) :
    text = signed negative whole ++ rest ∧
      whole ≠ [] ∧ ∀ c ∈ whole, c.isDigit = true := by
  simp only [scanNumber, Option.bind_eq_bind, Option.bind_eq_some_iff]
    at scanned
  rcases scanned with ⟨⟨digits, afterWhole⟩, wholeScanned,
    ⟨fraction, afterFraction⟩, fractionScanned,
    ⟨exponent, afterExponent⟩, exponentScanned, same⟩
  obtain ⟨spelled, rfl⟩ := Prod.mk.inj (Option.some.inj same)
  obtain ⟨rfl, rfl, rfl, rfl⟩ := NumberText.mk.inj spelled
  obtain rfl := scanFraction_none fractionScanned
  obtain rfl := scanExponent_none exponentScanned
  obtain ⟨parted, nonempty, allDigits⟩ := scanWhole_split wholeScanned
  refine ⟨?_, nonempty, allDigits⟩
  rw [signed, List.append_assoc, ← parted]
  split <;> rfl

/-! ## Texts -/

/-- A text is cut into tokens. -/
inductive Cuts : List Char → List Token → Prop where
  | done : Cuts [] []
  | gap {c : Char} {text : List Char} {tokens : List Token} :
      isGap c = true → Cuts text tokens → Cuts (c :: text) tokens
  | token {text rest : List Char} {token : Token} {tokens : List Token} :
      Shown text token rest → Cuts rest tokens → Cuts text (token :: tokens)

theorem cuts_of_tokensWithin {steps : Nat} {text : List Char}
    {tokens : List Token} (cut : tokensWithin steps text = some tokens) :
    Cuts text tokens := by
  fun_induction tokensWithin steps text generalizing tokens with
  | case1 => exact Option.some.inj cut ▸ .done
  | case2 => exact absurd cut (by simp)
  | case3 steps c rest gap step => exact .gap gap (step cut)
  | case4 steps c rest gap step =>
    simp only [Option.bind_eq_bind, Option.bind_eq_some_iff] at cut
    rcases cut with ⟨⟨token, behind⟩, scanned, others, cut, same⟩
    exact Option.some.inj same ▸
      .token (shown_of_scan scanned) (step behind cut)

theorem cuts_of_tokens? {text : List Char} {tokens : List Token}
    (cut : tokens? text = some tokens) : Cuts text tokens :=
  cuts_of_tokensWithin cut

end ModuleAtlas.Json
