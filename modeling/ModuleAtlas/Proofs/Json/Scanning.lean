import ModuleAtlas.Proofs.Json.Tokens

/-!
# Scanning finds every cut

A text has one way to be cut into tokens, and the scanner finds it: the first
character of a token tells it from the gaps and from the other tokens, and
every token takes at least one character.
-/

namespace ModuleAtlas.Json

/-! ## Strings -/

theorem shortEscape?_unit : shortEscape? 'u' = none := rfl

theorem scanPieces_of_pieced {text rest : List Char} {pieces : List Piece}
    (pieced : Pieced text pieces rest) :
    scanPieces text = some (pieces, rest) := by
  induction pieced with
  | close rest => rw [scanPieces]
  | unit known _ step =>
    rw [scanPieces, known, step]
    rfl
  | @short letter c text rest pieces known _ step =>
    have other : letter ≠ 'u' := by
      rintro rfl
      rw [shortEscape?_unit] at known
      exact absurd known (by simp)
    rw [scanPieces, known, step]
    · rfl
    · rintro a b c d text rfl
      exact absurd rfl other
  | plain noQuote noEscape printable _ step =>
    rw [scanPieces, if_neg, step]
    · rfl
    · rw [not_or, Nat.not_lt]
      exact ⟨noEscape, printable⟩
    · exact noQuote
    · exact fun _ _ _ _ _ same _ => noEscape same
    · exact fun _ _ same _ => noEscape same

theorem length_lt_of_pieced {text rest : List Char} {pieces : List Piece}
    (pieced : Pieced text pieces rest) : rest.length < text.length := by
  induction pieced with
  | close rest => exact Nat.lt_succ_self _
  | unit _ _ step => simp only [List.length_cons]; omega
  | short _ _ step => simp only [List.length_cons]; omega
  | plain _ _ _ _ step => simp only [List.length_cons]; omega

/-! ## Numbers -/

theorem length_dropDigits_le (text : List Char) :
    (scanDigits text).2.length ≤ text.length :=
  (List.dropWhile_suffix _).length_le

theorem length_scanWhole_lt {text rest whole : List Char}
    (scanned : scanWhole text = some (whole, rest)) :
    rest.length < text.length := by
  obtain ⟨rfl, nonempty, _⟩ := scanWhole_split scanned
  have := List.length_pos_iff.2 nonempty
  rw [List.length_append]
  omega

theorem length_scanFraction_le {text rest : List Char}
    {fraction : Option (List Char)}
    (scanned : scanFraction text = some (fraction, rest)) :
    rest.length ≤ text.length := by
  unfold scanFraction at scanned
  split at scanned
  · next behind =>
    have shorter := length_dropDigits_le behind
    split at scanned
    · exact absurd scanned (by simp)
    · next digits after split =>
      obtain ⟨_, rfl⟩ := Prod.mk.inj (Option.some.inj scanned)
      rw [split] at shorter
      exact shorter.trans (Nat.le_succ _)
  · exact (Prod.mk.inj (Option.some.inj scanned)).2 ▸ le_rfl

theorem length_scanSign_le (text : List Char) :
    (scanSign text).2.length ≤ text.length := by
  unfold scanSign
  split <;> simp

theorem length_scanExponent_le {text rest : List Char}
    {exponent : Option (Bool × List Char)}
    (scanned : scanExponent text = some (exponent, rest)) :
    rest.length ≤ text.length := by
  unfold scanExponent at scanned
  split at scanned
  · next mark behind =>
    split at scanned
    · have shorter := (length_dropDigits_le (scanSign behind).2).trans
        (length_scanSign_le behind)
      dsimp only at scanned
      split at scanned
      · exact absurd scanned (by simp)
      · next digits after split =>
        obtain ⟨_, rfl⟩ := Prod.mk.inj (Option.some.inj scanned)
        rw [split] at shorter
        exact shorter.trans (Nat.le_succ _)
    · exact (Prod.mk.inj (Option.some.inj scanned)).2 ▸ le_rfl
  · exact (Prod.mk.inj (Option.some.inj scanned)).2 ▸ le_rfl

/-- A number begins with a minus or a digit, and takes that character. -/
theorem begins_of_scanNumber {text rest : List Char} {spelling : NumberText}
    (scanned : scanNumber text = some (spelling, rest)) :
    ∃ c tail, text = c :: tail ∧ (c = '-' ∨ c.isDigit = true) ∧
      rest.length ≤ tail.length := by
  simp only [scanNumber, Option.bind_eq_bind, Option.bind_eq_some_iff]
    at scanned
  rcases scanned with ⟨⟨whole, afterWhole⟩, wholeScanned,
    ⟨fraction, afterFraction⟩, fractionScanned,
    ⟨exponent, afterExponent⟩, exponentScanned, same⟩
  obtain ⟨-, rfl⟩ := Prod.mk.inj (Option.some.inj same)
  have point := length_scanFraction_le fractionScanned
  have power := length_scanExponent_le exponentScanned
  dsimp only at point power ⊢
  split at wholeScanned
  · next tail =>
    have shorter := length_scanWhole_lt wholeScanned
    dsimp only at shorter
    exact ⟨'-', tail, rfl, .inl rfl, by omega⟩
  · obtain ⟨rfl, nonempty, digits⟩ := scanWhole_split wholeScanned
    cases whole with
    | nil => exact absurd rfl nonempty
    | cons c others =>
      refine ⟨c, others ++ afterWhole, rfl,
        .inr (digits c List.mem_cons_self), ?_⟩
      rw [List.length_append]
      omega

/-! ## Tokens -/

/-- A token begins with a character that is no gap, and takes it. -/
theorem begins_of_shown {text rest : List Char} {token : Token}
    (shown : Shown text token rest) :
    ∃ c tail, text = c :: tail ∧ isGap c = false ∧
      rest.length ≤ tail.length := by
  cases shown with
  | mark marked same =>
    subst same
    have solid : ∀ mark, token.mark? = some mark →
        ∃ c others, mark = c :: others ∧ isGap c = false := by
      intro mark marked
      cases token with
      | number | text => exact absurd marked (by simp [Token.mark?])
      | bool value =>
        cases value <;> obtain rfl := Option.some.inj marked <;>
          exact ⟨_, _, rfl, rfl⟩
      | _ =>
        obtain rfl := Option.some.inj marked
        exact ⟨_, _, rfl, rfl⟩
    rcases solid _ marked with ⟨c, others, rfl, gap⟩
    exact ⟨c, others ++ rest, rfl, gap, by rw [List.length_append]; omega⟩
  | text pieced =>
    exact ⟨'"', _, rfl, rfl, (length_lt_of_pieced pieced).le⟩
  | number scanned =>
    rcases begins_of_scanNumber scanned with ⟨c, tail, rfl, first, shorter⟩
    refine ⟨c, tail, rfl, ?_, shorter⟩
    rcases first with rfl | digit
    · rfl
    · rw [Bool.eq_false_iff]
      intro gap
      simp only [isGap, Bool.or_eq_true, decide_eq_true_eq] at gap
      rcases gap with ((rfl | rfl) | rfl) | rfl <;>
        exact absurd digit (by decide)

theorem scanToken_of_shown {text rest : List Char} {token : Token}
    (shown : Shown text token rest) :
    scanToken text = some (token, rest) := by
  cases shown with
  | mark marked same =>
    subst same
    cases token with
    | number | text => exact absurd marked (by simp [Token.mark?])
    | bool value =>
      cases value <;> obtain rfl := Option.some.inj marked <;> rfl
    | _ =>
      obtain rfl := Option.some.inj marked
      rfl
  | text pieced => rw [scanToken, scanPieces_of_pieced pieced]; rfl
  | number scanned =>
    rcases begins_of_scanNumber scanned with ⟨c, tail, rfl, first, _⟩
    unfold scanToken
    split
    case h_11 => rw [scanned]; rfl
    all_goals
      next same =>
        obtain ⟨rfl, _⟩ := List.cons.inj same
        exact absurd first (by decide)

theorem tokensWithin_of_cuts {text : List Char} {tokens : List Token}
    (cuts : Cuts text tokens) {steps : Nat} (enough : text.length ≤ steps) :
    tokensWithin steps text = some tokens := by
  induction cuts generalizing steps with
  | done => rw [tokensWithin]
  | @gap c text tokens gap _ step =>
    cases steps with
    | zero => simp at enough
    | succ steps =>
      rw [tokensWithin, if_pos gap]
      exact step (by simpa using enough)
  | @token text rest token tokens shown _ step =>
    have scanned := scanToken_of_shown shown
    rcases begins_of_shown shown with ⟨c, tail, rfl, solid, shorter⟩
    cases steps with
    | zero => simp at enough
    | succ steps =>
      rw [List.length_cons] at enough
      have behind : tokensWithin steps rest = some tokens := step (by omega)
      simp [tokensWithin, solid, scanned, behind]

/-- A text is cut into tokens in one way at most. -/
theorem tokens?_eq_some_iff {text : List Char} {tokens : List Token} :
    tokens? text = some tokens ↔ Cuts text tokens :=
  ⟨cuts_of_tokens?, fun cuts => tokensWithin_of_cuts cuts le_rfl⟩

end ModuleAtlas.Json
