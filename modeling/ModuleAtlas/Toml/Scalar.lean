import ModuleAtlas.Decimal.Nearest
import ModuleAtlas.Text.Codes
import ModuleAtlas.Toml.Value

/-!
# TOML strings, numbers and moments

A scanner splits off what it reads and answers the rest of the text.
-/

namespace ModuleAtlas.Toml

/-- Reads one thing from the front of a text. -/
abbrev Scan (α : Type) := List Char → Option (α × List Char)

/-- Blanks within a line. -/
def isGap (c : Char) : Bool := c = ' ' || c = '\t'

/-- Characters that may stand raw in comments and strings. -/
def isPlain (c : Char) : Bool :=
  c = '\t' || (32 ≤ c.toNat && c.toNat ≠ 127)

/-- What a one-letter escape stands for. -/
def escape? (c : Char) : Option Char :=
  if c = 'b' then some (Char.ofNat 8)
  else if c = 't' then some '\t'
  else if c = 'n' then some '\n'
  else if c = 'f' then some (Char.ofNat 12)
  else if c = 'r' then some '\r'
  else if c = '"' then some '"'
  else if c = '\\' then some '\\'
  else none

/-- The character that hexadecimal digits name. -/
def hexChar? (digits : List Char) : Option Char :=
  if digits.all Text.isHexDigit then Text.scalar? (Text.numberOf 16 digits)
  else none

/-- Put a character in front of what was scanned. -/
def withChar (c : Char) (scanned : Option (List Char × List Char)) :
    Option (List Char × List Char) :=
  scanned.map fun (chars, rest) => (c :: chars, rest)

/-- A string in double quotes, from behind the opening one. -/
def scanBasic : Scan (List Char)
  | [] => none
  | '"' :: rest => some ([], rest)
  | '\\' :: 'u' :: a :: b :: c :: d :: rest => do
    withChar (← hexChar? [a, b, c, d]) (scanBasic rest)
  | '\\' :: 'U' :: a :: b :: c :: d :: e :: f :: g :: h :: rest => do
    withChar (← hexChar? [a, b, c, d, e, f, g, h]) (scanBasic rest)
  | '\\' :: letter :: rest => do
    withChar (← escape? letter) (scanBasic rest)
  | c :: rest =>
    if c ≠ '\\' ∧ isPlain c then withChar c (scanBasic rest) else none

/-- A string in single quotes, from behind the opening one. -/
def scanLiteral : Scan (List Char)
  | [] => none
  | '\'' :: rest => some ([], rest)
  | c :: rest => if isPlain c then withChar c (scanLiteral rest) else none

/-- Whether only blanks stand before the end of the line. -/
def endsLine (text : List Char) : Bool :=
  match text.dropWhile isGap with
  | '\n' :: _ => true
  | '\r' :: '\n' :: _ => true
  | _ => false

/-- A string of several lines in triple double quotes.  While `trimming`,
blanks and line ends are skipped. -/
def scanBasicLines (trimming : Bool) : Scan (List Char)
  | [] => none
  | '"' :: '"' :: '"' :: '"' :: '"' :: rest => some (['"', '"'], rest)
  | '"' :: '"' :: '"' :: '"' :: rest => some (['"'], rest)
  | '"' :: '"' :: '"' :: rest => some ([], rest)
  | '\r' :: '\n' :: rest =>
    if trimming then scanBasicLines true rest
    else withChar '\n' (scanBasicLines false rest)
  | '\n' :: rest =>
    if trimming then scanBasicLines true rest
    else withChar '\n' (scanBasicLines false rest)
  | '\\' :: 'u' :: a :: b :: c :: d :: rest => do
    withChar (← hexChar? [a, b, c, d]) (scanBasicLines false rest)
  | '\\' :: 'U' :: a :: b :: c :: d :: e :: f :: g :: h :: rest => do
    withChar (← hexChar? [a, b, c, d, e, f, g, h]) (scanBasicLines false rest)
  | '\\' :: letter :: rest =>
    if endsLine (letter :: rest) then
      scanBasicLines true (letter :: rest)
    else do withChar (← escape? letter) (scanBasicLines false rest)
  | c :: rest =>
    if trimming ∧ isGap c then scanBasicLines true rest
    else if c ≠ '\\' ∧ isPlain c then withChar c (scanBasicLines false rest)
    else none

/-- A string of several lines in triple single quotes. -/
def scanLiteralLines : Scan (List Char)
  | [] => none
  | '\'' :: '\'' :: '\'' :: '\'' :: '\'' :: rest =>
    some (['\'', '\''], rest)
  | '\'' :: '\'' :: '\'' :: '\'' :: rest => some (['\''], rest)
  | '\'' :: '\'' :: '\'' :: rest => some ([], rest)
  | '\r' :: '\n' :: rest => withChar '\n' (scanLiteralLines rest)
  | c :: rest =>
    if c = '\n' ∨ isPlain c then withChar c (scanLiteralLines rest)
    else none

def afterLineEnd : List Char → List Char
  | '\n' :: rest => rest
  | '\r' :: '\n' :: rest => rest
  | text => text

/-- A string of any kind. -/
def scanString : Scan String := fun text =>
  let chars := match text with
    | '"' :: '"' :: '"' :: rest => scanBasicLines false (afterLineEnd rest)
    | '\'' :: '\'' :: '\'' :: rest => scanLiteralLines (afterLineEnd rest)
    | '"' :: rest => scanBasic rest
    | '\'' :: rest => scanLiteral rest
    | _ => none
  chars.map fun (chars, rest) => (String.ofList chars, rest)

/-- Digits of a base with single underscores between them. -/
def groupedDigits? (isDigit : Char → Bool) : List Char → Option (List Char)
  | [] => none
  | [c] => if isDigit c then some [c] else none
  | c :: '_' :: rest =>
    if isDigit c then (groupedDigits? isDigit rest).map (c :: ·) else none
  | c :: rest =>
    if isDigit c then (groupedDigits? isDigit rest).map (c :: ·) else none

/-- The integers of 64 bits. -/
def int64? (value : Int) : Option Int :=
  if Decimal.fitsInt64 value then some value else none

/-- Whether digits start with an idle zero. -/
def hasLeadingZero : List Char → Bool
  | '0' :: _ :: _ => true
  | _ => false

/-- A decimal integer with an optional sign. -/
def decimal? (text : List Char) : Option Int := do
  let (negative, digits) := Decimal.splitSign text
  let digits ← groupedDigits? Char.isDigit digits
  if hasLeadingZero digits then none
  else
    let value : Int := Text.numberOf 10 digits
    int64? (if negative then -value else value)

def integer? : List Char → Option Int
  | '0' :: 'x' :: digits => do
    let digits ← groupedDigits? Text.isHexDigit digits
    int64? (Text.numberOf 16 digits)
  | '0' :: 'o' :: digits => do
    let digits ← groupedDigits? (fun c => '0' ≤ c ∧ c ≤ '7') digits
    int64? (Text.numberOf 8 digits)
  | '0' :: 'b' :: digits => do
    let digits ← groupedDigits? (fun c => c = '0' ∨ c = '1') digits
    int64? (Text.numberOf 2 digits)
  | text => decimal? text

/-- The digits of a fraction behind its point; none of a missing one. -/
def fraction? : List Char → Option (List Char)
  | [] => some []
  | '.' :: digits => groupedDigits? Char.isDigit digits
  | _ => none

/-- An exponent behind its mark; empty when it is missing. -/
def exponent? : List Char → Option (List Char)
  | [] => some []
  | mark :: rest => do
    let (negative, digits) := Decimal.splitSign rest
    let digits ← groupedDigits? Char.isDigit digits
    if mark = 'e' ∨ mark = 'E' then
      some ('e' :: (if negative then '-' else '+') :: digits)
    else none

/-- Infinity and the value that is no number, without their sign. -/
def special? (text : List Char) : Option Float :=
  if text = "inf".toList then some (1.0 / 0.0)
  else if text = "nan".toList then some (0.0 / 0.0)
  else none

/-- A number with a point or an exponent, or a special one. -/
def float? (text : List Char) : Option Float := do
  let (negative, unsigned) := Decimal.splitSign text
  match special? unsigned with
  | some value => some (if negative then -value else value)
  | none =>
    let whole := unsigned.takeWhile fun c => c.isDigit || c = '_'
    let rest := unsigned.drop whole.length
    let point := rest.takeWhile fun c => c ≠ 'e' && c ≠ 'E'
    let whole ← groupedDigits? Char.isDigit whole
    let fraction ← fraction? point
    let exponent ← exponent? (rest.drop point.length)
    if hasLeadingZero whole || rest.isEmpty then none
    else
      let digits := if fraction.isEmpty then whole
        else whole ++ '.' :: fraction
      let value ← Decimal.double? (digits ++ exponent)
      if value.isInf && !negative then none
      else some (if negative then -value else value)

/-- The number that so many digits denote, when it lies in a range. -/
def digitsIn? (count low high : Nat) (digits : List Char) : Option Nat :=
  let value := Decimal.digitsValue digits
  if digits.length = count ∧ digits.all Char.isDigit
      ∧ low ≤ value ∧ value ≤ high then some value
  else none

/-- The number of days of a month. -/
def daysOf (year month : Nat) : Nat :=
  if month = 2 then
    if year % 400 = 0 ∨ (year % 4 = 0 ∧ year % 100 ≠ 0) then 29 else 28
  else if month = 4 ∨ month = 6 ∨ month = 9 ∨ month = 11 then 30
  else 31

/-- Whether a text is a date. -/
def isDate (text : List Char) : Bool :=
  match text with
  | [a, b, c, d, '-', e, f, '-', g, h] =>
    match digitsIn? 4 0 9999 [a, b, c, d], digitsIn? 2 1 12 [e, f] with
    | some year, some month =>
      (digitsIn? 2 1 (daysOf year month) [g, h]).isSome
    | _, _ => false
  | _ => false

/-- Whether a text is a time of day. -/
def isTime (text : List Char) : Bool :=
  match text with
  | a :: b :: ':' :: c :: d :: ':' :: e :: f :: rest =>
    (digitsIn? 2 0 23 [a, b]).isSome && (digitsIn? 2 0 59 [c, d]).isSome
      && (digitsIn? 2 0 60 [e, f]).isSome
      && (match rest with
        | [] => true
        | '.' :: fraction => !fraction.isEmpty && fraction.all Char.isDigit
        | _ => false)
  | _ => false

/-- Whether a text is an offset from universal time. -/
def isOffset (text : List Char) : Bool :=
  match text with
  | [] | ['Z'] | ['z'] => true
  | [sign, a, b, ':', c, d] =>
    (sign = '+' || sign = '-') && (digitsIn? 2 0 23 [a, b]).isSome
      && (digitsIn? 2 0 59 [c, d]).isSome
  | _ => false

/-- Whether a text is a date, a time of day, or both with an optional
offset. -/
def isMoment (text : List Char) : Bool :=
  let date := text.take 10
  let rest := text.drop 10
  if isDate date then
    match rest with
    | [] => true
    | mark :: rest =>
      let time := rest.takeWhile fun c => c.isDigit || c = ':' || c = '.'
      (mark = 'T' || mark = 't' || mark = ' ') && isTime time
        && isOffset (rest.drop time.length)
  else isTime text

/-- Characters of numbers, moments and words. -/
def isBareValueChar (c : Char) : Bool :=
  c.isAlphanum || c = '+' || c = '-' || c = '.' || c = '_' || c = ':'

/-- The text of a value without quotes and brackets; a blank may stand between
a date and a time. -/
def bareText (text : List Char) : List Char :=
  let first := text.takeWhile isBareValueChar
  match text.drop first.length with
  | ' ' :: rest =>
    let second := rest.takeWhile isBareValueChar
    if isDate first && isMoment (first ++ ' ' :: second) then
      first ++ ' ' :: second
    else first
  | _ => first

/-- A value without quotes and brackets. -/
def bareValue? (text : List Char) : Option Value :=
  if text = "true".toList then some (.bool true)
  else if text = "false".toList then some (.bool false)
  else if isMoment text then some (.moment (String.ofList text))
  else
    match integer? text with
    | some value => some (.int value)
    | none => (float? text).map .float

/-- Scan a value without quotes and brackets. -/
def scanBare : Scan Value := fun text =>
  let bare := bareText text
  (bareValue? bare).map fun value => (value, text.drop bare.length)

end ModuleAtlas.Toml
