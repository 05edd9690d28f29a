import ModuleAtlas.Graph.Basic
import ModuleAtlas.Text.Search

/-!
# Choosing what to cluster

Clustering starts from leaves: components that depend on nothing.  Ids that
look like error messages of an analyzer are left out, and so are components of
other kinds than the wanted ones, unless that would leave nothing.
-/

namespace ModuleAtlas

/-- Words that analyzers leave in an id when they fail. -/
def errorMarkers : List String := ["error", "exception", "failed", "invalid"]

/-- Whether an id looks like an error message, in any case of its letters. -/
def looksBroken (id : String) : Bool :=
  let folded := id.toList.map Char.toLower
  Text.isBlankText id
    || errorMarkers.any fun marker => Text.occursIn marker.toList folded

namespace DependencyGraph

/-- The ids of the components that depend on nothing. -/
def leaves (graph : DependencyGraph) : NameSet :=
  .ofList (graph.components.values.filter Component.isLeaf |>.map
    Component.id)

/-- Whether a component has one of some kinds, given by their names. -/
def hasKind (graph : DependencyGraph) (kinds : List String) (id : String) :
    Bool :=
  match graph.components.find? id with
  | some component => kinds.contains component.kind.name
  | none => false

/-- The leaves to cluster: the well-formed ones of the wanted kinds, or all
well-formed ones when none has a wanted kind. -/
def seeds (graph : DependencyGraph) (leaves : NameSet)
    (kinds : List String) : List String :=
  let wellFormed := leaves.names.filter fun id =>
    !looksBroken id && graph.components.contains id
  let wanted := wellFormed.filter (graph.hasKind kinds)
  if wanted.isEmpty then wellFormed else wanted

end DependencyGraph

end ModuleAtlas
