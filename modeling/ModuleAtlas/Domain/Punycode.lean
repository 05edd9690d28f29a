import ModuleAtlas.Text.Codes

/-!
# Labels in ASCII

A label with other characters is written in ASCII as its ASCII characters, a
hyphen behind them if there are any, and one number for each other character.
The numbers come in the order of the code points: each says how far on it is
to the next place where a character is inserted, when all places for one code
point are counted before those for the next.  They are written in
digits to the base 36, the lowest first; a digit below a threshold is the last
one, and the thresholds adapt to the numbers seen so far.
-/

namespace ModuleAtlas.Domain.Punycode

/-- The number of digits. -/
def base : Nat := 36

/-- The first code point that is written as a number. -/
def firstCode : Nat := 0x80

/-- The bias of the first number. -/
def firstBias : Nat := 72

/-- The digit with a value: letters and then decimal digits. -/
def digit (value : Nat) : Char :=
  if value < 26 then Char.ofNat ('a'.toNat + value)
  else Char.ofNat ('0'.toNat + (value - 26))

/-- The value of a digit. -/
def digitValue? (c : Char) : Option Nat :=
  if 'a' ≤ c ∧ c ≤ 'z' then some (c.toNat - 'a'.toNat)
  else if 'A' ≤ c ∧ c ≤ 'Z' then some (c.toNat - 'A'.toNat)
  else if '0' ≤ c ∧ c ≤ '9' then some (c.toNat - '0'.toNat + 26)
  else none

/-- The threshold of a digit at a position, which is counted in multiples of
the base. -/
def threshold (bias position : Nat) : Nat :=
  max 1 (min 26 (position - bias))

theorem threshold_pos (bias position : Nat) :
    0 < threshold bias position := by
  unfold threshold; omega

/-- The bias that follows from a number which is made smaller until it fits
two digits. -/
def biasOf (delta offset : Nat) : Nat :=
  if 455 < delta then biasOf (delta / 35) (offset + base)
  else offset + base * delta / (delta + 38)
termination_by delta

/-- The bias for the next number. -/
def nextBias (delta count : Nat) (isFirst : Bool) : Nat :=
  let damped := if isFirst then delta / 700 else delta / 2
  biasOf (damped + damped / count) 0

/-! ## Writing -/

/-- The digits of a number, from a position on. -/
def numberDigits (bias position number : Nat) : List Char :=
  let limit := threshold bias position
  if number < limit then [digit number]
  else
    digit (limit + (number - limit) % (base - limit))
      :: numberDigits bias (position + base)
        ((number - limit) / (base - limit))
termination_by number
decreasing_by
  have positive := threshold_pos bias position
  exact Nat.lt_of_le_of_lt (Nat.div_le_self _ _) (by omega)

/-- A label that is being written. -/
structure Writing where
  digits : List Char := []
  /-- The places passed since the last character. -/
  delta : Nat := 0
  bias : Nat := firstBias
  /-- The characters that are written. -/
  count : Nat
  isFirst : Bool := true

/-- Pass a character while those with a code are written. -/
def Writing.pass (code : Nat) (state : Writing) (c : Char) : Writing :=
  if c.toNat < code then { state with delta := state.delta + 1 }
  else if c.toNat = code then
    { digits :=
        state.digits ++ numberDigits state.bias base state.delta
      delta := 0
      bias := nextBias state.delta (state.count + 1) state.isFirst
      count := state.count + 1
      isFirst := false }
  else state

/-- Write the characters of ascending codes, all of which are at least
`start`. -/
def writeCodes (label : List Char) (start : Nat) :
    List Nat → Writing → List Char
  | [], state => state.digits
  | code :: codes, state =>
    let passed := state.delta + (code - start) * (state.count + 1)
    let state := label.foldl (Writing.pass code) { state with delta := passed }
    writeCodes label (code + 1) codes { state with delta := state.delta + 1 }

/-- Write a label. -/
def encode (label : List Char) : List Char :=
  let plain := label.filter (·.toNat < firstCode)
  let codes := (label.map Char.toNat).filter (firstCode ≤ ·)
  let ascending := (codes.mergeSort (· ≤ ·)).eraseDups
  plain ++ (if plain.isEmpty then [] else ['-'])
    ++ writeCodes label firstCode ascending { count := plain.length }

/-! ## Reading -/

/-- A label that is being read. -/
structure Reading where
  chars : List Char
  code : Nat := firstCode
  /-- The place where the last character was inserted, and the number that is
  being added to it. -/
  place : Nat := 0
  bias : Nat := firstBias
  /-- The place before the number at hand. -/
  start : Nat := 0
  /-- The weight of the next digit. -/
  weight : Nat := 1
  /-- The position of the next digit. -/
  position : Nat := base

/-- The first number that does not fit 32 bits. -/
def numberLimit : Nat := 0x100000000

/-- Insert the character that a finished number stands for. -/
def Reading.insert? (state : Reading) : Option Reading := do
  let count := state.chars.length + 1
  let code := state.code + state.place / count
  let place := state.place % count
  let c ← Text.scalar? code
  some {
    chars := state.chars.take place ++ c :: state.chars.drop place
    code
    place := place + 1
    bias := nextBias (state.place - state.start) count (state.start = 0)
    start := place + 1 }

def Reading.digit? (state : Reading) (c : Char) : Option Reading := do
  let value ← digitValue? c
  let bound := threshold state.bias state.position
  let moved := { state with place := state.place + value * state.weight }
  let weight := state.weight * (base - bound)
  if numberLimit ≤ moved.place then none
  else if value < bound then moved.insert?
  else if numberLimit ≤ weight then none
  else some { moved with weight := weight, position := state.position + base }

/-- Read a label. -/
def decode? (text : List Char) : Option (List Char) := do
  let last := (text.reverse.takeWhile (· ≠ '-')).reverse
  let plain := text.take (text.length - last.length - 1)
  let digits := if plain.isEmpty then text else last
  let state ← digits.foldlM Reading.digit? { chars := plain }
  if state.position = base then some state.chars else none

end ModuleAtlas.Domain.Punycode
