/-!
# Options of commands

A command line is read word by word.  An option takes its value from the same
word or from the next one; a value is only looked at when the next option
begins or the words end, so that an unknown word is reported first.
-/

namespace ModuleAtlas

/-- Why a command line is refused, or why nothing is to be run. -/
inductive UsageError where
  | displayHelp
  | displayVersion
  /-- Nothing at all was asked for. -/
  | displayHelpOnMissing
  | missingCommand
  | unknownCommand
  | unknownArgument
  /-- A value is missing or empty. -/
  | invalidValue
  /-- A value has the wrong form. -/
  | valueValidation
  /-- A flag was given a value. -/
  | tooManyValues
  /-- An option was given twice. -/
  | argumentConflict
  | missingRequired
deriving DecidableEq, Repr

/-- The standard name of a refusal. -/
def UsageError.name : UsageError → String
  | .displayHelp => "DisplayHelp"
  | .displayVersion => "DisplayVersion"
  | .displayHelpOnMissing => "DisplayHelpOnMissingArgumentOrSubcommand"
  | .missingCommand => "MissingSubcommand"
  | .unknownCommand => "InvalidSubcommand"
  | .unknownArgument => "UnknownArgument"
  | .invalidValue => "InvalidValue"
  | .valueValidation => "ValueValidation"
  | .tooManyValues => "TooManyValues"
  | .argumentConflict => "ArgumentConflict"
  | .missingRequired => "MissingRequiredArgument"

namespace Command

/-- What an option takes. -/
inductive OptionKind where
  | text
  /-- A text that is not empty. -/
  | path
  /-- An integer of 64 bits without a minus. -/
  | count
  | flag
  /-- Nothing; it asks for help. -/
  | help
  /-- Nothing; it asks for the version. -/
  | version
deriving DecidableEq, Repr

/-- An option, named by its long name. -/
structure OptionSpec where
  long : String
  short : Option Char
  kind : OptionKind
deriving DecidableEq, Repr

namespace OptionSpec

/-- Whether an option takes a value. -/
def takesValue (spec : OptionSpec) : Bool :=
  spec.kind = .text || spec.kind = .path || spec.kind = .count

end OptionSpec

/-- An unsigned integer of 64 bits, with an optional plus. -/
def readCount? (text : String) : Option UInt64 :=
  let digits := match text.toList with
    | '+' :: rest => rest
    | digits => digits
  let value := digits.foldl
    (fun value c => value * 10 + (c.toNat - '0'.toNat)) 0
  if digits.isEmpty || !digits.all Char.isDigit || UInt64.size ≤ value then
    none
  else some value.toUInt64

/-- What is wrong with the value of an option. -/
def valueFault? (kind : OptionKind) (value : String) : Option UsageError :=
  match kind with
  | .path => if value = "" then some .invalidValue else none
  | .count =>
    if (readCount? value).isNone then some .valueValidation else none
  | _ => none

/-- An option that was seen last, with its value if there is one yet. -/
structure Pending where
  spec : OptionSpec
  value : Option String
deriving DecidableEq, Repr

/-- What was read of a command line. -/
structure Progress where
  /-- The long names of options with their values, in order. -/
  given : List (String × String) := []
  pending : Option Pending := none
deriving DecidableEq, Repr

namespace Progress

/-- Take an option with its value. -/
def accept (progress : Progress) (spec : OptionSpec) (value : String) :
    Except UsageError Progress :=
  if progress.given.any fun row => row.1 = spec.long then
    .error .argumentConflict
  else
    match valueFault? spec.kind value with
    | some fault => .error fault
    | none =>
      .ok { progress with given := progress.given ++ [(spec.long, value)] }

/-- Look at the value of the option that was seen last. -/
def settle (progress : Progress) : Except UsageError Progress :=
  match progress.pending with
  | none => .ok progress
  | some ⟨_, none⟩ => .error .invalidValue
  | some ⟨spec, some value⟩ => { progress with pending := none }.accept spec value

/-- Whether the option that was seen last waits for a value. -/
def isWaiting (progress : Progress) : Bool :=
  match progress.pending with
  | some ⟨_, none⟩ => true
  | _ => false

/-- Take an option without a value. -/
def acceptFlag (progress : Progress) (spec : OptionSpec) :
    Except UsageError Progress := do
  let progress ← progress.settle
  match spec.kind with
  | .help => .error .displayHelp
  | .version => .error .displayVersion
  | _ => progress.accept spec "true"

/-- Take an option that needs a value, with the one from its own word. -/
def acceptValued (progress : Progress) (spec : OptionSpec) :
    Option String → Except UsageError Progress
  | some value => do (← progress.settle).accept spec value
  | none => do
    let progress ← progress.settle
    .ok { progress with pending := some ⟨spec, none⟩ }

/-- Take a word as the value that is waited for. -/
def acceptWaiting (progress : Progress) (word : String) : Progress :=
  { progress with
    pending := progress.pending.map fun pending =>
      { pending with value := some word } }

end Progress

/-- Split a long option into its name and the value behind an equals sign. -/
def splitLong (chars : List Char) : String × Option String :=
  let name := chars.takeWhile (· ≠ '=')
  (String.ofList name,
    match chars.drop name.length with
    | [] => none
    | _ :: value => some (String.ofList value))

/-- Read the letters of a word of short options. -/
def readShort (specs : List OptionSpec) :
    List Char → Progress → Except UsageError Progress
  | [], progress => .ok progress
  | letter :: rest, progress =>
    match specs.find? fun spec => spec.short = some letter with
    | none => .error .unknownArgument
    | some spec =>
      if spec.takesValue then
        progress.acceptValued spec (match rest with
          | [] => none
          | '=' :: value => some (String.ofList value)
          | value => some (String.ofList value))
      else
        match progress.acceptFlag spec with
        | .error refusal => .error refusal
        | .ok progress => readShort specs rest progress

/-- Read a long option without its dashes. -/
def readLong (specs : List OptionSpec) (chars : List Char)
    (progress : Progress) : Except UsageError Progress :=
  let (name, value) := splitLong chars
  match specs.find? fun spec => spec.long = name with
  | none => .error .unknownArgument
  | some spec =>
    if spec.takesValue then progress.acceptValued spec value
    else if value.isSome then .error .tooManyValues
    else progress.acceptFlag spec

/-- How far words were read: to their end, or to the name of a command. -/
structure Reading where
  progress : Progress
  command : Option (String × List String) := none

/-- Read words.  `commands` are the names of commands; once a command is
named, the words behind it are its own. -/
def readWords (specs : List OptionSpec) (commands : List String) :
    List String → Progress → Except UsageError Reading
  | [], progress => .ok { progress }
  | word :: rest, progress =>
    if !progress.isWaiting && commands.contains word then
      .ok { progress, command := some (word, rest) }
    else
      match word.toList with
      | ['-', '-'] =>
        match rest with
        | [] => .ok { progress }
        | next :: _ =>
          if commands.isEmpty || commands.contains next then
            .error .unknownArgument
          else .error .unknownCommand
      | '-' :: '-' :: chars =>
        match readLong specs chars progress with
        | .error refusal => .error refusal
        | .ok progress => readWords specs commands rest progress
      | '-' :: c :: chars =>
        match readShort specs (c :: chars) progress with
        | .error refusal => .error refusal
        | .ok progress => readWords specs commands rest progress
      | _ =>
        if progress.isWaiting then
          readWords specs commands rest (progress.acceptWaiting word)
        else if commands.isEmpty then .error .unknownArgument
        else .error .unknownCommand

end Command

end ModuleAtlas
