import ModuleAtlas.Files.Documents
import ModuleAtlas.Graph.Basic
import ModuleAtlas.Text.Letters

/-!
# Graph snapshots

A snapshot is the components of a graph as a record by id.  Reading one gives
a graph with the same components and edges.
-/

namespace ModuleAtlas.Snapshot

/-- A repository name that is safe in a file name: letters and digits stay,
everything else becomes an underscore. -/
def safeName (name : String) : String :=
  String.ofList (name.toList.map fun c =>
    if Text.isAlphanumeric c then c else '_')

/-- The path of a repository's snapshot. -/
def path (directory name : String) : String :=
  Path.join directory (safeName name ++ "_dependency_graph.json")

/-- The snapshot of a graph. -/
def toJson (graph : DependencyGraph) : Json :=
  .record (graph.components.entries.map fun (id, component) =>
    (id, component.toJson))

/-- The text of a snapshot. -/
def toText (graph : DependencyGraph) : String := (toJson graph).pretty

/-- The components of a snapshot by their ids, which win over the names they
are stored under. -/
def byId (stored : Keyed Component) : Keyed Component :=
  .ofList (stored.values.map fun component => (component.id, component))

def ofText? (text : String) : Option DependencyGraph :=
  (Json.decodeText? (Json.Decoder.mapping Component.decode) text).map
    fun stored => .ofComponents (byId stored)

variable {m : Type → Type} [Monad m] [MonadFiles m]

/-- Write the snapshot of a graph. -/
def save (graph : DependencyGraph) (path : String) :
    ExceptT Failure m Unit :=
  Documents.write path (toText graph)

/-- Read a snapshot from its file. -/
def load (path : String) : ExceptT Failure m DependencyGraph := do
  match ofText? (← Documents.read path) with
  | some graph => return graph
  | none => throw .serialization

end ModuleAtlas.Snapshot
