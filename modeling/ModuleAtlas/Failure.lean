import ModuleAtlas.Completion.Error

/-!
# Failures of commands

Everything that can end a command early, by its cause.
-/

namespace ModuleAtlas

/-- What is wrong with the settings. -/
inductive SettingsError where
  /-- The text is not a settings document. -/
  | unreadable
  | zeroBudget
  | noConcurrency
  | blankBaseUrl
  /-- The tokenizer definition is missing or not supported. -/
  | tokenizer
deriving DecidableEq, Repr

/-- The wording of a violated rule; other causes are worded elsewhere. -/
def SettingsError.rule? : SettingsError → Option String
  | .unreadable | .tokenizer => none
  | .zeroBudget =>
    some "clustering.max_tokens_per_module must be greater than zero"
  | .noConcurrency =>
    some "clustering.max_concurrent_requests must be at least 1"
  | .blankBaseUrl => some "llm.base_url must not be empty"

/-- Why a command failed. -/
inductive Failure where
  | settings (cause : SettingsError)
  /-- A settings file cannot be read or written. -/
  | settingsFile
  | serialization
  | fileSystem (path : String)
  | analysis
  | completion (cause : CompletionError)
  /-- A target directory cannot be made. -/
  | targetDirectory (path : String)
deriving DecidableEq, Repr

/-- The full wording, where there is one. -/
def Failure.message? : Failure → Option String
  | .settings cause => cause.rule?.map ("Configuration error: " ++ ·)
  | .completion cause => some ("Oracle request failed: " ++ cause.message)
  | _ => none

end ModuleAtlas
