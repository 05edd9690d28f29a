import ModuleAtlas.Decimal.Shortest

/-!
# Layouts of decimal numbers

The digits of a decimal number are placed around a point, padded with zeros
where they do not reach it.
-/

namespace ModuleAtlas.Decimal

/-- The decimal digits of a natural number. -/
def natDigits (value : Nat) : List Char := Nat.toDigits 10 value

namespace Digits

/-- The digits before and after the point, written without an exponent; the
fraction of an integral number is empty. -/
def positional (number : Digits) : List Char × List Char :=
  let digits := natDigits number.digits
  let whole := (digits.length : Int) + number.power
  if 0 ≤ number.power then
    (digits ++ List.replicate number.power.toNat '0', [])
  else if 0 < whole then
    (digits.take whole.toNat, digits.drop whole.toNat)
  else
    (['0'], List.replicate (-whole).toNat '0' ++ digits)

/-- The exponent of the leading digit. -/
def leadingExponent (number : Digits) : Int :=
  (natDigits number.digits).length + number.power - 1

end Digits

/-- A minus sign in front of a negative number. -/
def signed (negative : Bool) (text : List Char) : List Char :=
  if negative then '-' :: text else text

/-- A fraction behind its point; nothing for an integral number. -/
def pointed : List Char → List Char
  | [] => []
  | fraction => '.' :: fraction

/-- The shortest text of a floating-point number without an exponent and, for
an integral number, without a point. -/
def Parts.plain : Parts → List Char
  | .notANumber => "NaN".toList
  | .infinite negative => signed negative "inf".toList
  | .zero negative => signed negative ['0']
  | .finite negative magnitude =>
    let (whole, fraction) := (magnitude.shortest .outward).positional
    signed negative (whole ++ pointed fraction)

end ModuleAtlas.Decimal
