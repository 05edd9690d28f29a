import ModuleAtlas.Files.Documents
import ModuleAtlas.Module.Tree

/-!
# The store of module trees

A store is a directory with three files: the clustering result, which a later
run resumes from, a working copy of it, and a record of the run.
-/

namespace ModuleAtlas

/-- The figures of a clustering run and where they come from. -/
structure RunRecord where
  timestamp : String
  mainModel : String
  clusterModel : String
  generatorVersion : String
  repositoryName : String
  totalComponents : UInt64
  leafNodes : UInt64
  clusterSeeds : UInt64
  modules : UInt64
  leafModules : UInt64
  maxTokensPerModule : UInt64
  maxTokensPerLeafModule : UInt64
deriving DecidableEq, Repr

/-- The directory of a store. -/
structure ModuleStore where
  directory : String
deriving DecidableEq, Repr

namespace ModuleStore

/-- The file name of the clustering result. -/
def firstTreeName : String := "first_module_tree.json"

/-- The file name of the working copy. -/
def workingTreeName : String := "module_tree.json"

/-- The file name of the record of a run. -/
def recordName : String := "metadata.json"

/-- The path of the clustering result. -/
def firstTreePath (store : ModuleStore) : String :=
  Path.join store.directory firstTreeName

/-- The path of the working copy. -/
def workingTreePath (store : ModuleStore) : String :=
  Path.join store.directory workingTreeName

/-- The path of the record of a run. -/
def recordPath (store : ModuleStore) : String :=
  Path.join store.directory recordName

end ModuleStore

/-- A record of a run as JSON. -/
def RunRecord.toJson (record : RunRecord) : Json :=
  let count (value : UInt64) : Json := .ofNat value.toNat
  .record [
    ("generation_info", .record [
      ("timestamp", .text record.timestamp),
      ("main_model", .text record.mainModel),
      ("cluster_model", .text record.clusterModel),
      ("generator_version", .text record.generatorVersion),
      ("repo_name", .text record.repositoryName)]),
    ("statistics", .record [
      ("total_components", count record.totalComponents),
      ("leaf_nodes", count record.leafNodes),
      ("cluster_seeds", count record.clusterSeeds),
      ("modules", count record.modules),
      ("leaf_modules", count record.leafModules),
      ("max_tokens_per_module", count record.maxTokensPerModule),
      ("max_tokens_per_leaf_module",
        count record.maxTokensPerLeafModule)]),
    ("files_generated", .ofTexts
      [ModuleStore.firstTreeName, ModuleStore.workingTreeName])]

namespace ModuleStore

variable {m : Type → Type} [Monad m] [MonadFiles m]

/-- Read a tree from a file; none when there is nothing at its path. -/
def loadFrom (path : String) : ExceptT Failure m (Option ModuleTree) := do
  if !(← MonadFiles.isPresent path) then return none
  match ModuleTree.ofText? (← Documents.read path) with
  | some tree => return some tree
  | none => throw (.fileSystem path)

def loadFirst (store : ModuleStore) : ExceptT Failure m (Option ModuleTree) :=
  loadFrom store.firstTreePath

def loadWorking (store : ModuleStore) :
    ExceptT Failure m (Option ModuleTree) :=
  loadFrom store.workingTreePath

/-- Write a tree as the clustering result so far. -/
def checkpoint (store : ModuleStore) (tree : ModuleTree) :
    ExceptT Failure m Unit :=
  Documents.write store.firstTreePath tree.toText

/-- Write a tree as the clustering result and as the working copy. -/
def saveFinal (store : ModuleStore) (tree : ModuleTree) :
    ExceptT Failure m Unit := do
  store.checkpoint tree
  Documents.write store.workingTreePath tree.toText

/-- Write the record of a run. -/
def saveRecord (store : ModuleStore) (record : RunRecord) :
    ExceptT Failure m Unit :=
  Documents.write store.recordPath record.toJson.pretty

end ModuleStore

end ModuleAtlas
