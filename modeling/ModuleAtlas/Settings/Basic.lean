import ModuleAtlas.Failure
import ModuleAtlas.Files.Path
import ModuleAtlas.Text.Blank

/-!
# Settings

Where results go, how components are clustered, and which service is asked.
-/

namespace ModuleAtlas

/-- Where results go. -/
structure OutputSettings where
  /-- The directory of everything that is written. -/
  outputDir : String := "output"
  /-- The directory of graph snapshots, below the first one. -/
  graphDir : String := "dependency_graphs"
  /-- The directory of module trees, below the first one. -/
  docsDir : String := "docs"
deriving DecidableEq, Repr, Inhabited

/-- How components are clustered. -/
structure ClusteringSettings where
  /-- The number of tokens above which a set of components is divided. -/
  maxTokensPerModule : UInt64 := 36369
  /-- A figure that is only recorded, for later use of the tree. -/
  maxTokensPerLeafModule : UInt64 := 16000
  /-- The kinds of components that are clustered. -/
  seedKinds : List String := ["class", "interface", "struct"]
  maxConcurrentRequests : UInt64 := 4
  /-- How much of a rejected reply is reported. -/
  excerptChars : UInt64 := 200
  /-- The tokenizer definition; without one, tokens are estimated. -/
  tokenizerPath : Option String := none
deriving DecidableEq, Repr, Inhabited

/-- Which service is asked. -/
structure ServiceSettings where
  baseUrl : String := "http://0.0.0.0:4000/"
  apiKey : Option String := none
  mainModel : String := "claude-sonnet-4"
  clusterModel : Option String := none
  fallbackModel : Option String := some "glm-4p5"
  temperature : Float32 := 0
  maxTokens : UInt32 := 32768
  maxRetries : UInt32 := 2
  requestTimeoutSecs : UInt64 := 300
deriving Inhabited

structure Settings where
  output : OutputSettings := {}
  clustering : ClusteringSettings := {}
  service : ServiceSettings := {}
deriving Inhabited

namespace OutputSettings

/-- The directory of graph snapshots. -/
def graphPath (settings : OutputSettings) : String :=
  Path.join settings.outputDir settings.graphDir

/-- The directory of module trees. -/
def docsPath (settings : OutputSettings) : String :=
  Path.join settings.outputDir settings.docsDir

end OutputSettings

namespace ServiceSettings

/-- The model that is asked to group components. -/
def groupingModel (settings : ServiceSettings) : String :=
  settings.clusterModel.getD settings.mainModel

/-- The key that is sent: the one of the settings, or the one of the
environment when the settings have none.  A blank key is not sent. -/
def keyUsed (settings : ServiceSettings) (environment : Option String) :
    Option String :=
  (settings.apiKey <|> environment).filter fun key => !Text.isBlankText key

end ServiceSettings

namespace Settings

/-- The first rule that settings violate. -/
def violation? (settings : Settings) : Option SettingsError :=
  if settings.clustering.maxTokensPerModule = 0 then some .zeroBudget
  else if settings.clustering.maxConcurrentRequests = 0 then
    some .noConcurrency
  else none

end Settings

end ModuleAtlas
