/-!
# The shortest decimal of a binary number

A finite binary number is `significand * 2 ^ exponent`.  The reals that round
to it form an interval whose ends belong to it when the significand is even.
Its shortest decimal is the point of the coarsest decimal grid that lies in
this interval; of two such points the nearer one, and of two equally near ones
the one that a format prefers.  All comparisons are exact, in natural numbers.
-/

namespace ModuleAtlas.Decimal

/-- A positive number `significand * 2 ^ exponent`; `narrowBelow` says that
its lower neighbour is only half as far away as its upper one. -/
structure Binary where
  significand : Nat
  exponent : Int
  narrowBelow : Bool
deriving DecidableEq, Repr

/-- A decimal number `digits * 10 ^ power`. -/
structure Digits where
  digits : Nat
  power : Int
deriving DecidableEq, Repr

/-- Which of two equally near decimals a format prefers. -/
inductive Tie where
  /-- The one with an even last digit. -/
  | even
  /-- The one that is farther from zero. -/
  | outward
deriving DecidableEq, Repr

namespace Binary

/-- The factors `(up, down)` with
`4 * 10 ^ power / 2 ^ exponent = up / down`. -/
def gridScale (number : Binary) (power : Int) : Nat × Nat :=
  (4 * Nat.pow 10 power.toNat * Nat.pow 2 (-number.exponent).toNat,
    Nat.pow 10 (-power).toNat * Nat.pow 2 number.exponent.toNat)

/-- Whether `digits * 10 ^ power` rounds to the number. -/
def covers (number : Binary) (power : Int) (digits : Nat) : Bool :=
  let (up, down) := number.gridScale power
  let low := 4 * number.significand - (if number.narrowBelow then 1 else 2)
  let high := 4 * number.significand + 2
  if number.significand % 2 = 0 then
    low * down ≤ digits * up && digits * up ≤ high * down
  else
    low * down < digits * up && digits * up < high * down

/-- The point of one decimal grid that rounds to the number, if any. -/
def onGrid (number : Binary) (tie : Tie) (power : Int) : Option Digits :=
  let (up, down) := number.gridScale power
  let exact := 4 * number.significand * down
  let below := exact / up
  let above := below + 1
  match number.covers power below, number.covers power above with
  | false, false => none
  | true, false => some ⟨below, power⟩
  | false, true => some ⟨above, power⟩
  | true, true =>
    let downward := exact - below * up
    let upward := above * up - exact
    if downward < upward then some ⟨below, power⟩
    else if upward < downward then some ⟨above, power⟩
    else if tie = .even ∧ below % 2 = 0 then some ⟨below, power⟩
    else some ⟨above, power⟩

/-- Try grids from `10 ^ power` down, each ten times as fine as the last. -/
def searchGrids (number : Binary) (tie : Tie) : Nat → Int → Digits
  | 0, power => ⟨0, power⟩
  | grids + 1, power =>
    match number.onGrid tie power with
    | some found => found
    | none => searchGrids number tie grids (power - 1)

/-- The shortest decimal that rounds to the number.  The grids from
`10 ^ 310` to `10 ^ (-345)` hold one for every double. -/
def shortest (number : Binary) (tie : Tie) : Digits :=
  number.searchGrids tie 656 310

end Binary

/-- A floating-point number taken apart. -/
inductive Parts where
  | notANumber
  | infinite (negative : Bool)
  | zero (negative : Bool)
  | finite (negative : Bool) (magnitude : Binary)
deriving DecidableEq, Repr

/-- Take apart a number stored with `fractionBits` bits of fraction and
`exponentBits` bits of exponent. -/
def Parts.ofBits (fractionBits exponentBits bits : Nat) : Parts :=
  let fractions := Nat.pow 2 fractionBits
  let fields := Nat.pow 2 exponentBits
  let fraction := bits % fractions
  let field := bits / fractions % fields
  let negative := decide (bits / fractions / fields % 2 = 1)
  let offset : Int := fields / 2 - 2 + fractionBits
  if field = fields - 1 then
    if fraction = 0 then .infinite negative else .notANumber
  else if field = 0 then
    if fraction = 0 then .zero negative
    else .finite negative ⟨fraction, -offset, false⟩
  else
    .finite negative
      ⟨fractions + fraction, field - 1 - offset,
        decide (fraction = 0 ∧ field ≠ 1)⟩

/-- The parts of a double. -/
def Parts.ofDouble (value : Float) : Parts :=
  .ofBits 52 11 value.toBits.toNat

/-- The parts of a single. -/
def Parts.ofSingle (value : Float32) : Parts :=
  .ofBits 23 8 value.toBits.toNat

end ModuleAtlas.Decimal
