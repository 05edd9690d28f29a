import ModuleAtlas.Command.Options

/-!
# Command lines

The commands with their options, and how a command line names one of them.
-/

namespace ModuleAtlas

/-- What is to be done. -/
inductive Command where
  /-- Write default settings. -/
  | init (path : Option String)
  /-- Build the graph and write its snapshot. -/
  | graph (analysis : String) (repositoryName : Option String)
  /-- Show the dependency-first order. -/
  | order (analysis : String) (limit : Option UInt64) (depthFirst : Bool)
  /-- Cluster leaf components into a module tree. -/
  | cluster (analysis : String) (repositoryName : Option String)
      (fresh : Bool)
deriving DecidableEq, Repr

/-- A command with the options that hold for all commands. -/
structure Invocation where
  settings : Option String
  verbose : Bool
  command : Command
deriving DecidableEq, Repr

namespace Command

/-- The option that asks for help. -/
def helpOption : OptionSpec := ⟨"help", some 'h', .help⟩

/-- The options in front of a command. -/
def commonOptions : List OptionSpec := [
  ⟨"config", some 'c', .path⟩,
  ⟨"verbose", some 'v', .flag⟩,
  helpOption,
  ⟨"version", some 'V', .version⟩]

/-- The option that names the analyzer document. -/
def analysisOption : OptionSpec := ⟨"analysis", some 'a', .path⟩

/-- The option that names the repository. -/
def repositoryOption : OptionSpec := ⟨"repo-name", none, .text⟩

/-- The options of every command. -/
def options : List (String × List OptionSpec) := [
  ("init", [⟨"path", some 'p', .path⟩, helpOption]),
  ("graph", [analysisOption, repositoryOption, helpOption]),
  ("order", [analysisOption, ⟨"limit", some 'l', .count⟩,
    ⟨"depth-first", none, .flag⟩, helpOption]),
  ("cluster", [analysisOption, repositoryOption,
    ⟨"fresh", none, .flag⟩, helpOption])]

/-- The names of all commands. -/
def names : List String := options.map (·.1) ++ ["help"]

/-- The value of an option. -/
def value? (given : List (String × String)) (name : String) :
    Option String :=
  given.lookup name

/-- Put a command together from its options. -/
def assemble (name : String) (given : List (String × String)) :
    Except UsageError Command :=
  if name = "init" then .ok (.init (value? given "path"))
  else
    match value? given "analysis" with
    | none => .error .missingRequired
    | some analysis =>
      if name = "graph" then .ok (.graph analysis (value? given "repo-name"))
      else if name = "order" then
        .ok (.order analysis ((value? given "limit").bind readCount?)
          (value? given "depth-first").isSome)
      else
        .ok (.cluster analysis (value? given "repo-name")
          (value? given "fresh").isSome)

/-- Read the words behind the name of a command. -/
def readCommand (name : String) (words : List String) :
    Except UsageError Command := do
  let specs := (options.lookup name).getD []
  let reading ← readWords specs [] words {}
  let progress ← reading.progress.settle
  assemble name progress.given

/-- What asking for help about some words shows. -/
def helpAbout : List String → UsageError
  | [] => .displayHelp
  | [name] =>
    if names.contains name then .displayHelp else .unknownCommand
  | _ :: _ :: _ => .unknownCommand

end Command

def Invocation.read (words : List String) : Except UsageError Invocation := do
  let reading ← Command.readWords Command.commonOptions Command.names words {}
  match reading.command with
  | some ("help", topics) => .error (Command.helpAbout topics)
  | some (name, rest) =>
    let command ← Command.readCommand name rest
    let progress ← reading.progress.settle
    .ok {
      settings := Command.value? progress.given "config"
      verbose := (Command.value? progress.given "verbose").isSome
      command }
  | none =>
    let progress ← reading.progress.settle
    if progress.given.isEmpty then .error .displayHelpOnMissing
    else .error .missingCommand

end ModuleAtlas
