import ModuleAtlas.Clustering.Run
import ModuleAtlas.Command.Line
import ModuleAtlas.Completion.Service
import ModuleAtlas.Graph.Build
import ModuleAtlas.Graph.Order
import ModuleAtlas.Graph.Seeds
import ModuleAtlas.Graph.Snapshot
import ModuleAtlas.Graph.Walk
import ModuleAtlas.Module.Store
import ModuleAtlas.Settings.Document
import ModuleAtlas.Tokens

/-!
# Running commands

Every command reads and writes files and answers with the lines that it
shows.  A failure ends a command; files written before stay.
-/

namespace ModuleAtlas

/-- What a command finds around it. -/
structure Surroundings (m : Type → Type) where
  /-- The key of the environment. -/
  apiKey : Option String
  /-- The time of the run. -/
  timestamp : String
  /-- How services are reached. -/
  transport : Transport m
  /-- How their answers are worded. -/
  library : HttpLibrary := .standard

namespace Command

/-- The version that is recorded with a run. -/
def generatorVersion : String := "0.1.0"

/-- Take an ending off a text as often as it is there, at most so many
times. -/
def dropEndings (ending : List Char) : Nat → List Char → List Char
  | 0, text => text
  | times + 1, text =>
    match Text.beforeEnd? ending text with
    | some front => dropEndings ending times front
    | none => text

/-- The name of a repository after its analyzer document: the name of the file
without extension and without `_analysis` at its end. -/
def repositoryName (analysis : String) : String :=
  match Path.fileName? analysis with
  | none => "repository"
  | some file =>
    let stem := (Path.stem file).toList
    let name := dropEndings "_analysis".toList stem.length stem
    if name.isEmpty then "repository" else String.ofList name

/-- A number at the right end of six columns. -/
def column (value : Nat) : String :=
  let digits := toString value
  String.ofList (List.replicate (6 - digits.length) ' ') ++ digits

/-- The figures of a graph. -/
def graphLines (name : String) (graph : DependencyGraph) : List String :=
  let line (label : String) (value : Nat) : String :=
    label ++ toString value
  [ "Repository:      " ++ name,
    line "Components:      " graph.components.size,
    line "Modules:         " graph.modules.size,
    line "Edges:           " graph.edgeCount,
    line "Leaf nodes:      " graph.leaves.size,
    line "Cycles:          " graph.condense.cycles.length,
    line "Skipped records: " graph.report.skippedComponents,
    line "Skipped edges:   " graph.report.skippedEdges,
    line "Ambiguous edges: " graph.report.ambiguous.length]

/-- Numbered lines, from one. -/
def numbered (ids : List String) : List String :=
  ids.zipIdx.map fun (id, index) => column (index + 1) ++ "  " ++ id

/-- The cycles of a graph. -/
def cycleLines (cycles : List (List String)) : List String :=
  if cycles.isEmpty then []
  else
    ["", "Cycles (" ++ toString cycles.length ++ "):"]
      ++ cycles.map fun members => "  " ++ " <-> ".intercalate members

/-- The beginning of an order, and the cycles. -/
def orderLines (graph : DependencyGraph) (limit : Option UInt64)
    (depthFirst : Bool) : List String :=
  let condensation := graph.condense
  let order :=
    if depthFirst then Walk.all condensation else graph.dependencyOrder
  let size := graph.components.size
  let shown := match limit with
    | some limit => min limit.toNat size
    | none => size
  numbered (order.take shown)
    ++ (if shown < size then ["... " ++ toString (size - shown) ++ " more"]
      else [])
    ++ cycleLines condensation.cycles

variable {m : Type → Type} [Monad m] [MonadFiles m]

/-- Write default settings into a directory, unless it has settings. -/
def runInit (path : Option String) : ExceptT Failure m (List String) := do
  let directory := path.getD ""
  if !(← MonadFiles.makeDirectories directory) then
    throw (.targetDirectory directory)
  let file := Path.join directory Settings.usualFile
  if !(← MonadFiles.isPresent file) then
    Settings.save {} file
  return []

/-- Read an analyzer document and build its graph. -/
def readGraph (analysis : String) : ExceptT Failure m DependencyGraph := do
  match AnalysisDocument.ofText? (← Documents.read analysis) with
  | some document => return .ofAnalysis document.decode
  | none => throw .analysis

/-- Write the snapshot of a graph. -/
def writeSnapshot (settings : Settings) (name : String)
    (graph : DependencyGraph) : ExceptT Failure m Unit :=
  Snapshot.save graph (Snapshot.path settings.output.graphPath name)

/-- Build a graph, write its snapshot and show its figures. -/
def runGraph (settings : Settings) (analysis : String)
    (name : Option String) : ExceptT Failure m (List String) := do
  let name := name.getD (repositoryName analysis)
  let graph ← readGraph analysis
  writeSnapshot settings name graph
  return graphLines name graph

/-- Show the order of a graph. -/
def runOrder (analysis : String) (limit : Option UInt64)
    (depthFirst : Bool) : ExceptT Failure m (List String) := do
  return orderLines (← readGraph analysis) limit depthFirst

/-- How texts are measured. -/
def readCounter (settings : ClusteringSettings) :
    ExceptT Failure m (String → Nat) := do
  match settings.tokenizerPath with
  | none => return estimateTokens defaultCharsPerToken
  | some path =>
    let text ← MonadFiles.readText path
    match text.bind WordTokenizer.ofText? with
    | some tokenizer => return tokenizer.count
    | none => throw (.settings .tokenizer)

/-- The record of a run. -/
def runRecord (settings : Settings) (timestamp name : String)
    (graph : DependencyGraph) (seeds : List String) (tree : ModuleTree) :
    RunRecord where
  timestamp
  mainModel := settings.service.mainModel
  clusterModel := settings.service.groupingModel
  generatorVersion
  repositoryName := name
  totalComponents := graph.components.size.toUInt64
  leafNodes := graph.leaves.size.toUInt64
  clusterSeeds := seeds.length.toUInt64
  modules := tree.moduleCount.toUInt64
  leafModules := tree.leafModules.length.toUInt64
  maxTokensPerModule := settings.clustering.maxTokensPerModule
  maxTokensPerLeafModule := settings.clustering.maxTokensPerLeafModule

/-- The rules of a run. -/
def clusterRules (settings : ClusteringSettings)
    (components : Keyed Component) (count : String → Nat) :
    ClusterRules where
  components
  count
  budget := settings.maxTokensPerModule.toNat
  excerptChars := settings.excerptChars.toNat

/-- Build a graph, cluster its seeds and write the module tree. -/
def runCluster (surroundings : Surroundings m) (settings : Settings)
    (analysis : String) (name : Option String) (fresh : Bool) :
    ExceptT Failure m (List String) := do
  let name := name.getD (repositoryName analysis)
  let graph ← readGraph analysis
  writeSnapshot settings name graph
  let seeds := graph.seeds graph.leaves settings.clustering.seedKinds
  let store : ModuleStore := ⟨settings.output.docsPath⟩
  let resume ← if fresh then pure none else store.loadFirst
  let service := settings.service
  let chain ← match service.chain surroundings.apiKey
      surroundings.transport service.groupingModel surroundings.library with
    | .ok chain => pure chain
    | .error cause => throw (.settings cause)
  let count ← readCounter settings.clustering
  let rules := clusterRules settings.clustering graph.components count
  let oracle := fun question =>
    ExceptT.lift (chain.provider.oracle question)
  let final ← Clustering.run rules oracle store.checkpoint seeds resume
  let tree := final.tree
  store.saveFinal tree
  store.saveRecord
    (runRecord settings surroundings.timestamp name graph seeds tree)
  return [
    "Modules:      " ++ toString tree.moduleCount,
    "Leaf modules: " ++ toString tree.leafModules.length,
    "Oracle calls: " ++ toString final.stats.oracleCalls]

end Command

/-- Run a command line that was read; answers the lines that it shows. -/
def Invocation.run {m : Type → Type} [Monad m] [MonadFiles m]
    (invocation : Invocation) (surroundings : Surroundings m) :
    ExceptT Failure m (List String) := do
  let settings ← Settings.find invocation.settings
  match invocation.command with
  | .init path => Command.runInit path
  | .graph analysis name => Command.runGraph settings analysis name
  | .order analysis limit depthFirst =>
    Command.runOrder analysis limit depthFirst
  | .cluster analysis name fresh =>
    Command.runCluster surroundings settings analysis name fresh

end ModuleAtlas
