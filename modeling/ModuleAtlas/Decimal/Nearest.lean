/-!
# Reading decimal numerals

A numeral has a sign, digits around an optional point, of which at least one
side must be there, and an optional exponent.  It denotes the nearest double.
-/

namespace ModuleAtlas.Decimal

/-- The value of a run of ASCII digits. -/
def digitsValue (digits : List Char) : Nat :=
  digits.foldl (fun value c => value * 10 + (c.toNat - '0'.toNat)) 0

/-- Split off a sign; answers whether it is a minus. -/
def splitSign : List Char → Bool × List Char
  | '-' :: rest => (true, rest)
  | '+' :: rest => (false, rest)
  | text => (false, text)

/-- The value of an exponent with its mark; zero for an empty text. -/
def exponent? : List Char → Option Int
  | [] => some 0
  | mark :: rest =>
    let (negative, digits) := splitSign rest
    if (mark = 'e' ∨ mark = 'E') ∧ digits ≠ [] ∧ digits.all Char.isDigit then
      let value : Int := digitsValue digits
      some (if negative then -value else value)
    else none

/-- The nearest double of `digits * 10 ^ power`.  The exponent is checked
first, so that powers far out of range are never computed. -/
def nearest (digits : List Char) (power : Int) : Float :=
  let value := digitsValue digits
  let reach := (digits.length : Int) + power
  if value = 0 ∨ reach < -400 then 0.0
  else if 400 < power then 1.0 / 0.0
  else
    Float.ofScientific value (decide (power < 0)) power.natAbs

/-- The double that an unsigned numeral denotes. -/
def magnitude? (text : List Char) : Option Float := do
  let whole := text.takeWhile Char.isDigit
  let rest := text.dropWhile Char.isDigit
  let (fraction, rest) := match rest with
    | '.' :: rest => (rest.takeWhile Char.isDigit, rest.dropWhile Char.isDigit)
    | _ => ([], rest)
  if whole.isEmpty && fraction.isEmpty then none
  else
    let exponent ← exponent? rest
    some (nearest (whole ++ fraction) (exponent - fraction.length))

/-- The double that a numeral denotes; it is infinite when it overflows. -/
def double? (text : List Char) : Option Float :=
  let (negative, text) := splitSign text
  (magnitude? text).map fun value => if negative then -value else value

/-- The integer that an optional sign and digits denote. -/
def integer? (text : List Char) : Option Int :=
  let (negative, digits) := splitSign text
  if digits ≠ [] ∧ digits.all Char.isDigit then
    let value : Int := digitsValue digits
    some (if negative then -value else value)
  else none

/-- Whether an integer fits 64 bits with a sign. -/
def fitsInt64 (value : Int) : Bool :=
  -9223372036854775808 ≤ value && value ≤ 9223372036854775807

/-- The integer of 64 bits that an optional sign and digits denote. -/
def int64? (text : List Char) : Option Int :=
  (integer? text).filter fitsInt64

end ModuleAtlas.Decimal
