import ModuleAtlas.Component.Kind

/-!
# Code components

A component is a function, class or the like, found at some place of a
repository, together with the ids of the components it depends on.  This
module also holds the stored form of a component, whose fields stand in the
order of `Component.fieldNames`.
-/

namespace ModuleAtlas

/-- A code component. -/
structure Component where
  /-- The dotted id, such as `pkg.sub.Widget.render`. -/
  id : String
  name : String
  displayName : String
  kind : Kind
  filePath : String
  /-- The path of the file below the root of the repository. -/
  relativePath : String
  startLine : UInt64
  endLine : UInt64
  sourceCode : String
  hasDocstring : Bool
  docstring : String
  parameters : List String
  baseClasses : Option (List String)
  className : Option String
  /-- The ids of the components it refers to. -/
  dependsOn : NameSet
deriving DecidableEq

/-- The text before the last point of a text that has one. -/
def beforeLastPoint? (text : List Char) : Option (List Char) :=
  match text.reverse.dropWhile (· ≠ '.') with
  | [] => none
  | _ :: front => some front.reverse

namespace Component

/-- The module of a component: its id without the last segment. -/
def modulePath? (component : Component) : Option String :=
  match beforeLastPoint? component.id.toList with
  | none | some [] => none
  | some path => some (String.ofList path)

/-- The key by which older analyzers name a component: its file and name. -/
def legacyId (component : Component) : String :=
  component.filePath ++ ":" ++ component.name

/-- A component that depends on nothing. -/
def isLeaf (component : Component) : Bool := component.dependsOn.isEmpty

/-- The stored form of a component. -/
def toJson (component : Component) : Json :=
  .record [
    ("id", .text component.id),
    ("name", .text component.name),
    ("display_name", .text component.displayName),
    ("component_type", .text component.kind.name),
    ("file_path", .text component.filePath),
    ("relative_path", .text component.relativePath),
    ("start_line", .ofNat component.startLine.toNat),
    ("end_line", .ofNat component.endLine.toNat),
    ("source_code", .text component.sourceCode),
    ("has_docstring", .bool component.hasDocstring),
    ("docstring", .text component.docstring),
    ("parameters", .ofTexts component.parameters),
    ("base_classes", .ofOption .ofTexts component.baseClasses),
    ("class_name", .ofOption .text component.className),
    ("depends_on", .ofTexts component.dependsOn.names)]

/-- The fields of the stored form, in order. -/
def fieldNames : List String :=
  ["id", "name", "display_name", "component_type", "file_path",
    "relative_path", "start_line", "end_line", "source_code",
    "has_docstring", "docstring", "parameters", "base_classes",
    "class_name", "depends_on"]

open Json (Decoder) in
/-- Read the stored form.  The last three fields may be absent. -/
def decode : Json.Decoder Component := fun levels written => do
  let fields ← Json.Fields.decode fieldNames levels written
  let id ← fields.required "id" Decoder.text
  let name ← fields.required "name" Decoder.text
  let displayName ← fields.required "display_name" Decoder.text
  let kind ← fields.required "component_type" Kind.decode
  let filePath ← fields.required "file_path" Decoder.text
  let relativePath ← fields.required "relative_path" Decoder.text
  let startLine ← fields.required "start_line" Decoder.count
  let endLine ← fields.required "end_line" Decoder.count
  let sourceCode ← fields.required "source_code" Decoder.text
  let hasDocstring ← fields.required "has_docstring" Decoder.flag
  let docstring ← fields.required "docstring" Decoder.text
  let parameters ← fields.required "parameters" Decoder.text.list
  let baseClasses ← fields.absentable "base_classes" Decoder.text.list
  let className ← fields.absentable "class_name" Decoder.text
  let dependsOn ← fields.optional "depends_on" [] Decoder.text.list
  some {
    id, name, displayName, kind, filePath, relativePath, startLine, endLine,
    sourceCode, hasDocstring, docstring, parameters, baseClasses, className
    dependsOn := .ofList dependsOn }

end Component

end ModuleAtlas
