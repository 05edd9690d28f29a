import ModuleAtlas.Component.Basic

/-!
# Listings of components

A listing shows a set of components by file, files and ids in ascending order:
once with ids only, and once with the source text under each id.  Unknown ids
are left out, so that equal sets of known components have equal listings.
-/

namespace ModuleAtlas

structure Listing where
  /-- The listed ids, in order. -/
  ids : List String
  /-- The text with ids only. -/
  summary : String
  /-- The text with the source of every component. -/
  withCode : String
deriving DecidableEq, Repr

namespace Listing

/-- The known components among some ids, by file and id. -/
def byFile (components : Keyed Component) (candidates : List String) :
    Keyed NameSet :=
  candidates.foldl
    (fun files id =>
      match components.find? id with
      | none => files
      | some component =>
        let file := component.relativePath
        let members := (files.find? file).getD .empty
        files.insert file (members.insert id))
    .empty

/-- The line above the components of a file. -/
def fileLine (file : String) : String := "# " ++ file ++ "\n"

/-- The line of a component. -/
def idLine (id : String) : String := "\t" ++ id ++ "\n"

/-- The source of a component, on lines of its own. -/
def codeLines (components : Keyed Component) (id : String) : String :=
  match components.find? id with
  | none => "\n"
  | some component => component.sourceCode ++ "\n"

/-- The listing of the known components among some ids. -/
def ofCandidates (components : Keyed Component)
    (candidates : List String) : Listing :=
  let files := (byFile components candidates).entries
  { ids := files.flatMap fun (_, members) => members.names
    summary := String.join (files.map fun (file, members) =>
      fileLine file ++ String.join (members.names.map idLine))
    withCode := String.join (files.map fun (file, members) =>
      fileLine file ++ String.join (members.names.map fun id =>
        idLine id ++ codeLines components id)) }

end Listing

end ModuleAtlas
