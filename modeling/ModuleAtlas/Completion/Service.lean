import ModuleAtlas.Completion.Client
import ModuleAtlas.Settings.Basic

/-!
# The configured completion service

The settings name a service, a model and possibly a second model that stands
in for the first.
-/

namespace ModuleAtlas.ServiceSettings

/-- A text without the slashes at its end. -/
def withoutFinalSlashes (text : String) : String :=
  String.ofList ((text.toList.reverse.dropWhile (· = '/')).reverse)

/-- The URL that completions are requested from. -/
def completionsUrl (settings : ServiceSettings) : String :=
  withoutFinalSlashes settings.baseUrl ++ "/chat/completions"

/-- How a model of the service is asked. -/
def endpoint (settings : ServiceSettings) (environment : Option String)
    (model : String) : Http.Endpoint where
  url := settings.completionsUrl
  apiKey := settings.keyUsed environment
  model
  temperature := settings.temperature
  maxTokens := settings.maxTokens

/-- The models to ask, in order: the wanted one, and the one that stands in
for it if that is another one. -/
def models (settings : ServiceSettings) (model : String) : List String :=
  match settings.fallbackModel with
  | some fallback => if fallback = model then [model] else [model, fallback]
  | none => [model]

/-- The chain of models that completes prompts. -/
def chain {m : Type → Type} [Monad m] (settings : ServiceSettings)
    (environment : Option String) (transport : Transport m)
    (model : String) (library : HttpLibrary := .standard) :
    Except SettingsError (Chain m) :=
  if Text.isBlankText settings.baseUrl then .error .blankBaseUrl
  else
    .ok {
      providers := (settings.models model).map fun model =>
        Http.provider library transport (settings.endpoint environment model)
      retries := settings.maxRetries.toNat }

end ModuleAtlas.ServiceSettings
