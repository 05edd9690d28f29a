import ModuleAtlas.Decimal.Layout

/-!
# Numbers of JSON documents

A number is an integer of 64 bits or a finite double.  It is written with the
shortest digits that read back the same; a double always shows a point or an
exponent, so that it is never mistaken for an integer.

Reading keeps at most the leading digits that fit 64 bits as the significand
and scales it by one power of ten, which can be one unit off the nearest
double when the significand is long.
-/

namespace ModuleAtlas.Json

/-- A number of a JSON document. -/
inductive Number where
  | int (value : Int)
  | float (value : Float)
deriving Repr, Inhabited

/-- A number as it is spelled: its digits before the point, after it, and in
the exponent. -/
structure NumberText where
  negative : Bool
  whole : List Char
  fraction : Option (List Char)
  exponent : Option (Bool × List Char)
deriving DecidableEq, Repr

/-- The spelling, character by character. -/
def NumberText.chars (spelling : NumberText) : List Char :=
  (if spelling.negative then ['-'] else []) ++ spelling.whole
    ++ (match spelling.fraction with
      | none => []
      | some digits => '.' :: digits)
    ++ (match spelling.exponent with
      | none => []
      | some (negative, digits) =>
        'e' :: (if negative then '-' else '+') :: digits)

/-- The spelling of a positive double: without an exponent from `1e-5` up to
but not including `1e16`, otherwise with one digit before the point. -/
def magnitudeSpelling (negative : Bool) (number : Decimal.Digits) :
    NumberText :=
  let leading := number.leadingExponent
  if -5 ≤ leading ∧ leading < 16 then
    let (whole, fraction) := number.positional
    ⟨negative, whole, some (if fraction.isEmpty then ['0'] else fraction),
      none⟩
  else
    let digits := Decimal.natDigits number.digits
    let fraction := digits.drop 1
    ⟨negative, digits.take 1,
      if fraction.isEmpty then none else some fraction,
      some (decide (leading < 0), Decimal.natDigits leading.natAbs)⟩

/-- The spelling of a finite double.  Documents hold no other doubles; one
that is not finite would be spelled as zero. -/
def floatSpelling (value : Float) : NumberText :=
  match Decimal.Parts.ofDouble value with
  | .finite negative magnitude =>
    magnitudeSpelling negative (magnitude.shortest .even)
  | .zero negative => ⟨negative, ['0'], some ['0'], none⟩
  | .notANumber | .infinite _ => ⟨false, ['0'], some ['0'], none⟩

/-- The spelling of a number. -/
def Number.spelling : Number → NumberText
  | .int value =>
    ⟨decide (value < 0), Decimal.natDigits value.natAbs, none, none⟩
  | .float value => floatSpelling value

/-- Split off the leading ASCII digits. -/
def scanDigits (text : List Char) : List Char × List Char :=
  (text.takeWhile Char.isDigit, text.dropWhile Char.isDigit)

/-- Split off the digits before the point: a single zero, or digits that do
not start with one. -/
def scanWhole : List Char → Option (List Char × List Char)
  | '0' :: rest => some (['0'], rest)
  | text =>
    match scanDigits text with
    | ([], _) => none
    | (digits, rest) => some (digits, rest)

/-- Split off a point with its digits, if there is a point. -/
def scanFraction : List Char → Option (Option (List Char) × List Char)
  | '.' :: rest =>
    match scanDigits rest with
    | ([], _) => none
    | (digits, rest) => some (some digits, rest)
  | text => some (none, text)

/-- Split off the sign of an exponent; none means plus. -/
def scanSign : List Char → Bool × List Char
  | '-' :: rest => (true, rest)
  | '+' :: rest => (false, rest)
  | text => (false, text)

/-- Split off an exponent, if there is one. -/
def scanExponent (text : List Char) :
    Option (Option (Bool × List Char) × List Char) :=
  match text with
  | mark :: rest =>
    if mark = 'e' ∨ mark = 'E' then
      let (negative, rest) := scanSign rest
      match scanDigits rest with
      | ([], _) => none
      | (digits, rest) => some (some (negative, digits), rest)
    else some (none, text)
  | [] => some (none, [])

/-- Split off the spelling of a number. -/
def scanNumber (text : List Char) : Option (NumberText × List Char) := do
  let (negative, text) := match text with
    | '-' :: rest => (true, rest)
    | _ => (false, text)
  let (whole, text) ← scanWhole text
  let (fraction, text) ← scanFraction text
  let (exponent, text) ← scanExponent text
  some (⟨negative, whole, fraction, exponent⟩, text)

/-- The value of an ASCII digit. -/
def digitValue (digit : Char) : Nat := digit.toNat - '0'.toNat

/-- The value of a run of digits. -/
def digitsValue (digits : List Char) : Nat :=
  digits.foldl (fun value digit => value * 10 + digitValue digit) 0

def maxSignificand : Nat := 18446744073709551615

/-- Append digits to a significand while it fits; answers the significand and
the digits that did not fit. -/
def growSignificand : Nat → List Char → Nat × List Char
  | significand, [] => (significand, [])
  | significand, digit :: rest =>
    let next := significand * 10 + digitValue digit
    if next ≤ maxSignificand then growSignificand next rest
    else (significand, digit :: rest)

/-- Scale by a power of ten: one multiplication or division when the power is
itself a double, preceded by divisions by `1e308` when it is too small. -/
def scale : Nat → Float → Int → Option Float
  | 0, _, _ => none
  | rounds + 1, value, exponent =>
    if exponent.natAbs ≤ 308 then
      let power := Float.ofScientific 1 false exponent.natAbs
      if 0 ≤ exponent then
        let scaled := value * power
        if scaled.isInf then none else some scaled
      else some (value / power)
    else if value == 0.0 then some value
    else if 0 ≤ exponent then none
    else scale rounds (value / Float.ofScientific 1 false 308) (exponent + 308)

/-- The largest exponent that is read digit by digit. -/
def maxExponent : Nat := 2147483647

/-- Exponents beyond 32 bits stay at the end of the range. -/
def clampExponent (exponent : Int) : Int :=
  max (-2147483648) (min 2147483647 exponent)

/-- The magnitude of a number with a point or an exponent, or with more digits
than fit 64 bits. -/
def NumberText.magnitude? (spelling : NumberText) : Option Float :=
  let (leading, cut) := growSignificand 0 spelling.whole
  let dropped := cut.length
  let (significand, rest) :=
    growSignificand leading (spelling.fraction.getD [])
  let taken := (spelling.fraction.getD []).length - rest.length
  let base : Int := dropped - taken
  let rounds (exponent : Int) : Nat := exponent.natAbs / 308 + 2
  match spelling.exponent with
  | none => scale (rounds base) (Float.ofNat significand) base
  | some (negative, digits) =>
    let written := digitsValue digits
    if maxExponent < written then
      if significand ≠ 0 ∧ negative = false then none else some 0.0
    else
      let exponent := clampExponent
        (if negative then base - written else base + written)
      scale (rounds exponent) (Float.ofNat significand) exponent

/-- The number that a spelling denotes; none when it overflows. -/
def NumberText.value? (spelling : NumberText) : Option Number :=
  let integral := spelling.fraction.isNone && spelling.exponent.isNone
  let whole := digitsValue spelling.whole
  if integral && whole ≤ maxSignificand then
    if spelling.negative then
      if 0 < whole ∧ whole ≤ 9223372036854775808 then
        some (.int (-whole))
      else some (.float (-(Float.ofNat whole)))
    else some (.int whole)
  else
    spelling.magnitude?.map fun magnitude =>
      .float (if spelling.negative then -magnitude else magnitude)

end ModuleAtlas.Json
