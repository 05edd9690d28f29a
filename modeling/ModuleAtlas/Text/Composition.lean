import ModuleAtlas.Text.Composition.Table

/-!
# Composed form of texts

Texts that look alike may be spelled with composite characters or with
letters and marks behind them.  The composed form takes all composites apart,
puts the marks behind each letter in the order of their combining classes,
and composes what can be composed.
-/

namespace ModuleAtlas.Text

/-- The combining class of a character; letters have class zero. -/
def combiningClass (c : Char) : Nat := combiningTable.value c.toNat

/-! ## Korean syllables

A syllable has a leading consonant, a vowel and possibly a trailing
consonant; syllables are numbered in this order. -/

/-- The first leading consonant. -/
def leadingBase : Nat := 0x1100

def vowelBase : Nat := 0x1161

/-- The code point before the first trailing consonant. -/
def trailingBase : Nat := 0x11A7

/-- The first syllable. -/
def syllableBase : Nat := 0xAC00

/-- The number of leading consonants. -/
def leadingCount : Nat := 19

def vowelCount : Nat := 21

/-- The number of endings of a syllable, no consonant among them. -/
def endingCount : Nat := 28

/-- The letters of a syllable. -/
def syllableLetters? (code : Nat) : Option (List Nat) :=
  let number := code - syllableBase
  if code < syllableBase
    || leadingCount * vowelCount * endingCount ≤ number then none
  else
    let ending := number % endingCount
    some ([leadingBase + number / (vowelCount * endingCount),
      vowelBase + number / endingCount % vowelCount]
      ++ if ending = 0 then [] else [trailingBase + ending])

/-- The syllable of a leading consonant and a vowel, or of a syllable that
still lacks a trailing consonant and that consonant. -/
def syllable? (first second : Nat) : Option Nat :=
  let leading := first - leadingBase
  let vowel := second - vowelBase
  let number := first - syllableBase
  let ending := second - trailingBase
  if leadingBase ≤ first && leading < leadingCount
    && vowelBase ≤ second && vowel < vowelCount then
    some (syllableBase + (leading * vowelCount + vowel) * endingCount)
  else if syllableBase ≤ first
    && number < leadingCount * vowelCount * endingCount
    && number % endingCount = 0
    && trailingBase < second && ending < endingCount then
    some (first + ending)
  else none

/-! ## Composites -/

/-- Take a code point apart; `depth` bounds how often parts are composites
themselves. -/
def codeParts (depth : Nat) (code : Nat) : List Nat :=
  match depth with
  | 0 => [code]
  | depth + 1 =>
    match syllableLetters? code with
    | some letters => letters
    | none =>
      match compositeTable.image? code with
      | some parts => parts.flatMap (codeParts depth)
      | none => [code]

/-- How deep composites are nested. -/
def compositeDepth : Nat := 2

/-- The characters that a character is composed of. -/
def parts (c : Char) : List Char :=
  if c.toNat < 0x80 then [c]
  else (codeParts compositeDepth c.toNat).map Char.ofNat

/-- The composite of two characters. -/
def composite? (first second : Char) : Option Char :=
  ((syllable? first.toNat second.toNat).or
    (compositeTable.source? [first.toNat, second.toNat])).map Char.ofNat

/-- Put a mark in front of ordered marks: behind those of lower classes. -/
def insertMark (c : Char) : List Char → List Char
  | [] => [c]
  | d :: rest =>
    if 0 < combiningClass d && combiningClass d < combiningClass c then
      d :: insertMark c rest
    else c :: d :: rest

/-- Put the marks behind each letter in the order of their classes. -/
def orderMarks (text : List Char) : List Char := text.foldr insertMark []

/-- A text that is being composed.  The latest characters come first. -/
structure Composing where
  settled : List Char := []
  /-- The latest letter. -/
  letter : Option Char := none
  /-- The marks behind it that it could not take up. -/
  marks : List Char := []

namespace Composing

/-- Whether the letter is in reach of a character: a mark between them is of
a lower class. -/
def reaches (state : Composing) (c : Char) : Bool :=
  match state.marks with
  | [] => true
  | mark :: _ => combiningClass mark < combiningClass c

/-- The letter with a character taken up. -/
def grown? (state : Composing) (c : Char) : Option Char :=
  if state.reaches c then state.letter.bind (composite? · c) else none

/-- Everything so far, the latest first. -/
def all (state : Composing) : List Char :=
  state.marks ++ state.letter.toList ++ state.settled

def add (state : Composing) (c : Char) : Composing :=
  match state.grown? c with
  | some letter => { state with letter := some letter }
  | none =>
    if combiningClass c = 0 then
      { settled := state.all, letter := some c }
    else { state with marks := c :: state.marks }

end Composing

/-- The composed form of a text. -/
def composed (text : List Char) : List Char :=
  ((orderMarks (text.flatMap parts)).foldl Composing.add {}).all.reverse

end ModuleAtlas.Text
