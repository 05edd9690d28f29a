import ModuleAtlas.Text.Digits
import ModuleAtlas.Text.Search

/-!
# Code points and tables over them

A table is a list of rows.  A row covers code points at equal distances, and
gives targets for them: a single target moves along with the code point, so
that an alphabet is a single row.  In its text a row is written with
hexadecimal numbers, as `first-last/step=target.target`; the last code point,
the step and the targets may be missing.
-/

namespace ModuleAtlas.Text

/-- The character with a number; halves of surrogate pairs are none. -/
def scalar? (value : Nat) : Option Char :=
  if h : value.isValidChar then some ⟨value.toUInt32, by
    have bound : value < 2 ^ 32 := by
      unfold Nat.isValidChar at h; omega
    show value.toUInt32.toNat.isValidChar
    rw [show value.toUInt32.toNat = value from UInt32.toNat_ofNat_of_lt' bound]
    exact h⟩
  else none

/-- A row of a table. -/
structure CodeRow where
  first : Nat
  last : Nat
  step : Nat
  targets : List Nat
deriving DecidableEq, Repr

namespace CodeRow

/-- Whether a row covers a code point. -/
def covers (row : CodeRow) (code : Nat) : Bool :=
  row.first ≤ code && code ≤ row.last && (code - row.first) % row.step = 0

/-- The targets of a covered code point. -/
def image (row : CodeRow) (code : Nat) : List Nat :=
  match row.targets with
  | [target] => [target + (code - row.first)]
  | targets => targets

def ofText (text : List Char) : CodeRow :=
  let (codes, targets) := cut '=' text
  let (first, others) := cut '-' codes
  let (last, step) := cut '/' others
  { first := numberOf 16 first
    last := numberOf 16 (if last.isEmpty then first else last)
    step := if step.isEmpty then 1 else numberOf 16 step
    targets :=
      if targets.isEmpty then []
      else (pieces '.' targets).map (numberOf 16) }

end CodeRow

/-- A table over code points; the first row that covers one counts. -/
abbrev CodeTable := List CodeRow

namespace CodeTable

/-- Read lines of rows between blanks. -/
def ofLines (lines : List String) : CodeTable :=
  lines.flatMap fun line => (pieces ' ' line.toList).map CodeRow.ofText

/-- The row of a code point. -/
def row? (table : CodeTable) (code : Nat) : Option CodeRow :=
  table.find? (·.covers code)

/-- The targets of a code point. -/
def image? (table : CodeTable) (code : Nat) : Option (List Nat) :=
  (table.row? code).map (·.image code)

/-- What all code points of a row have in common; zero outside all rows. -/
def value (table : CodeTable) (code : Nat) : Nat :=
  ((table.row? code).bind (·.targets.head?)).getD 0

/-- The code point with these targets. -/
def source? (table : CodeTable) (targets : List Nat) : Option Nat :=
  (table.find? (·.targets = targets)).map (·.first)

end CodeTable

end ModuleAtlas.Text
