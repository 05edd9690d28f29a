import ModuleAtlas.Files.Basic
import ModuleAtlas.Settings.Basic
import ModuleAtlas.Toml.Reader
import ModuleAtlas.Toml.Writer

/-!
# Settings documents

Settings are kept in a TOML document with one table per group.  What is
missing takes its default, and unknown names are skipped.  An array may stand
in place of a table, with the values in the order of the fields; a date may
stand there too, and leaves every setting at its default.
-/

namespace ModuleAtlas

namespace Toml

/-- Reads a setting from its value. -/
abbrev Setting (α : Type) := Value → Option α

def Setting.text : Setting String
  | .text value => some value
  | _ => none

def Setting.texts : Setting (List String)
  | .list items => items.mapM Setting.text
  | _ => none

/-- An integer that is not negative. -/
def Setting.count64 : Setting UInt64
  | .int value => if 0 ≤ value then some value.toNat.toUInt64 else none
  | _ => none

/-- An integer that is not negative and fits 32 bits. -/
def Setting.count32 : Setting UInt32
  | .int value =>
    if 0 ≤ value ∧ value.toNat < UInt32.size then
      some value.toNat.toUInt32
    else none
  | _ => none

/-- A number, rounded to single precision. -/
def Setting.single : Setting Float32
  | .float value => some value.toFloat32
  | .int value =>
    some (if value < 0 then -(Float32.ofNat value.natAbs)
      else Float32.ofNat value.natAbs)
  | _ => none

/-- The values of a group of settings by name.  A date in place of a table
names no setting. -/
def fields? (names : List String) : Value → Option (List (String × Value))
  | .table entries => some entries
  | .moment _ => some []
  | .list items => some (names.zip items)
  | _ => none

/-- The setting with a name, or its default. -/
def setting {α : Type} (fields : List (String × Value)) (name : String)
    (fallback : α) (read : Setting α) : Option α :=
  match find? name fields with
  | none => some fallback
  | some value => read value

end Toml

open Toml (Setting setting)

/-- Read the settings of results. -/
def OutputSettings.read : Setting OutputSettings := fun value => do
  let fields ← Toml.fields?
    ["output_dir", "dependency_graph_dir", "docs_dir"] value
  let usual : OutputSettings := {}
  let outputDir ← setting fields "output_dir" usual.outputDir Setting.text
  let graphDir ←
    setting fields "dependency_graph_dir" usual.graphDir Setting.text
  let docsDir ← setting fields "docs_dir" usual.docsDir Setting.text
  some { outputDir, graphDir, docsDir }

/-- Read the settings of clustering. -/
def ClusteringSettings.read : Setting ClusteringSettings := fun value => do
  let fields ← Toml.fields?
    ["max_tokens_per_module", "max_tokens_per_leaf_module",
      "seed_component_types", "max_concurrent_requests",
      "response_excerpt_chars", "tokenizer_path"] value
  let usual : ClusteringSettings := {}
  let maxTokensPerModule ← setting fields "max_tokens_per_module"
    usual.maxTokensPerModule Setting.count64
  let maxTokensPerLeafModule ← setting fields "max_tokens_per_leaf_module"
    usual.maxTokensPerLeafModule Setting.count64
  let seedKinds ← setting fields "seed_component_types"
    usual.seedKinds Setting.texts
  let maxConcurrentRequests ← setting fields "max_concurrent_requests"
    usual.maxConcurrentRequests Setting.count64
  let excerptChars ← setting fields "response_excerpt_chars"
    usual.excerptChars Setting.count64
  let tokenizerPath ← setting fields "tokenizer_path"
    usual.tokenizerPath fun value => (Setting.text value).map some
  some {
    maxTokensPerModule, maxTokensPerLeafModule, seedKinds
    maxConcurrentRequests, excerptChars, tokenizerPath }

/-- Read the settings of the service. -/
def ServiceSettings.read : Setting ServiceSettings := fun value => do
  let fields ← Toml.fields?
    ["base_url", "api_key", "main_model", "cluster_model", "fallback_model",
      "temperature", "max_tokens", "max_retries",
      "request_timeout_secs"] value
  let usual : ServiceSettings := {}
  let given : Setting (Option String) := fun value =>
    (Setting.text value).map some
  let baseUrl ← setting fields "base_url" usual.baseUrl Setting.text
  let apiKey ← setting fields "api_key" usual.apiKey given
  let mainModel ← setting fields "main_model" usual.mainModel Setting.text
  let clusterModel ←
    setting fields "cluster_model" usual.clusterModel given
  let fallbackModel ←
    setting fields "fallback_model" usual.fallbackModel given
  let temperature ←
    setting fields "temperature" usual.temperature Setting.single
  let maxTokens ← setting fields "max_tokens" usual.maxTokens Setting.count32
  let maxRetries ←
    setting fields "max_retries" usual.maxRetries Setting.count32
  let requestTimeoutSecs ← setting fields "request_timeout_secs"
    usual.requestTimeoutSecs Setting.count64
  some {
    baseUrl, apiKey, mainModel, clusterModel, fallbackModel, temperature
    maxTokens, maxRetries, requestTimeoutSecs }

namespace Settings

/-- Read settings that may violate rules. -/
def ofDocument? (text : String) : Option Settings := do
  let fields ← Toml.read? text
  let usual : Settings := {}
  let output ← setting fields "project" usual.output OutputSettings.read
  let clustering ←
    setting fields "clustering" usual.clustering ClusteringSettings.read
  let service ← setting fields "llm" usual.service ServiceSettings.read
  some { output, clustering, service }

/-- Read settings and check them. -/
def ofText (text : String) : Except SettingsError Settings :=
  match ofDocument? text with
  | none => .error .unreadable
  | some settings =>
    match settings.violation? with
    | some violation => .error violation
    | none => .ok settings

/-- The line of a text that may be missing. -/
def optionalLine (name : String) : Option String → List String
  | none => []
  | some value => [Toml.entryLine name (Toml.stringText value)]

def toText (settings : Settings) : String :=
  let text (name value : String) : String :=
    Toml.entryLine name (Toml.stringText value)
  let count (name : String) (value : Nat) : String :=
    Toml.entryLine name (toString value)
  let output := settings.output
  let clustering := settings.clustering
  let service := settings.service
  "\n".intercalate [
    Toml.tableText "project" [
      text "output_dir" output.outputDir,
      text "dependency_graph_dir" output.graphDir,
      text "docs_dir" output.docsDir],
    Toml.tableText "clustering" ([
      count "max_tokens_per_module" clustering.maxTokensPerModule.toNat,
      count "max_tokens_per_leaf_module"
        clustering.maxTokensPerLeafModule.toNat,
      Toml.entryLine "seed_component_types"
        (Toml.arrayText clustering.seedKinds),
      count "max_concurrent_requests"
        clustering.maxConcurrentRequests.toNat,
      count "response_excerpt_chars" clustering.excerptChars.toNat]
      ++ optionalLine "tokenizer_path" clustering.tokenizerPath),
    Toml.tableText "llm" ([text "base_url" service.baseUrl]
      ++ optionalLine "api_key" service.apiKey
      ++ [text "main_model" service.mainModel]
      ++ optionalLine "cluster_model" service.clusterModel
      ++ optionalLine "fallback_model" service.fallbackModel
      ++ [
        Toml.entryLine "temperature"
          (Toml.floatText service.temperature.toFloat),
        count "max_tokens" service.maxTokens.toNat,
        count "max_retries" service.maxRetries.toNat,
        count "request_timeout_secs" service.requestTimeoutSecs.toNat])]

/-- The file that is written for a new project. -/
def usualFile : String := "Codeweave.toml"

/-- The files that are looked for when none is named, in order. -/
def usualFiles : List String :=
  ["Codeweave.toml", "codeweave.toml", ".codeweave.toml"]

variable {m : Type → Type} [Monad m] [MonadFiles m]

/-- Read settings from a file. -/
def load (path : String) : ExceptT Failure m Settings := do
  match ← MonadFiles.readText path with
  | none => throw .settingsFile
  | some text =>
    match ofText text with
    | .ok settings => return settings
    | .error cause => throw (.settings cause)

/-- Read settings from the first of some files that exists. -/
def loadFirst : List String → ExceptT Failure m Settings
  | [] => return {}
  | path :: rest => do
    if ← MonadFiles.isPresent path then load path else loadFirst rest

/-- Read settings from a file, or from the first usual one when none is named.
Without any such file the defaults hold. -/
def find (path : Option String) : ExceptT Failure m Settings :=
  loadFirst (match path with
    | some path => [path]
    | none => usualFiles)

/-- Write settings to a file. -/
def save (settings : Settings) (path : String) : ExceptT Failure m Unit := do
  if !(← MonadFiles.writeText path settings.toText) then throw .settingsFile

end Settings

end ModuleAtlas
