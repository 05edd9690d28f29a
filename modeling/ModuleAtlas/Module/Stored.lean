import ModuleAtlas.Json.Decode
import ModuleAtlas.Module.Forest

/-!
# Stored modules

The stored form of a module tree is a record of modules by name; each module
is a record of its description, its components and its children.  All three
may be absent.
-/

namespace ModuleAtlas

/-- What is stored of a module besides its name and children. -/
structure StoredModule where
  description : String
  components : List String
deriving DecidableEq, Repr, Inhabited

/-- A module tree as stored. -/
abbrev StoredTree := Forest StoredModule

namespace StoredTree

/-- The modules of one level as fields of a record. -/
def toFields : StoredTree → List (String × Json)
  | .nil => []
  | .node name value children rest =>
    (name, .record [
      ("description", .text value.description),
      ("components", .ofTexts value.components),
      ("children", .record (toFields children))]) :: toFields rest

/-- The stored form as JSON. -/
def toJson (tree : StoredTree) : Json := .record (toFields tree)

open Json (Decoder Written) in
/-- Read the modules of one level. -/
def decode : Json.Decoder StoredTree
  | 1, .record [] => some .nil
  | levels + 2, .record fields =>
    fields.foldlM (fun tree (name, written) => do
      let name ← Json.pieceText? name
      let fields ← Json.Fields.decode
        ["description", "components", "children"] (levels + 1) written
      let description ← fields.optional "description" "" Decoder.text
      let components ← fields.optional "components" [] Decoder.text.list
      let children ← match fields.get? "children" with
        | none => some .nil
        | some written => decode levels written
      some (tree.insert name ⟨description, components⟩ children)) .nil
  | _, _ => none

/-- Read a stored tree from its text. -/
def ofText? (text : String) : Option StoredTree :=
  Json.decodeText? decode text

end StoredTree

end ModuleAtlas
