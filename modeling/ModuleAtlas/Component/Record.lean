import ModuleAtlas.Component.Basic

/-!
# Analyzer documents

An analyzer reports component records and calls.  Its document is read record
by record, so that a record of a wrong shape is counted and left out while the
others are kept.
-/

namespace ModuleAtlas

/-- A component as an analyzer reports it; every field may be missing. -/
structure ComponentRecord where
  id : Option String := none
  name : Option String := none
  componentType : Option String := none
  nodeType : Option String := none
  filePath : Option String := none
  relativePath : Option String := none
  sourceCode : Option String := none
  codeSnippet : Option String := none
  startLine : Option UInt64 := none
  endLine : Option UInt64 := none
  hasDocstring : Option Bool := none
  docstring : Option String := none
  parameters : Option (List Json) := none
  baseClasses : Option (List String) := none
  className : Option String := none
  displayName : Option String := none
deriving Inhabited

namespace ComponentRecord

/-- The label of the component's kind. -/
def typeLabel (record : ComponentRecord) : String :=
  (record.componentType <|> record.nodeType).getD "function"

def source (record : ComponentRecord) : String :=
  (record.sourceCode <|> record.codeSnippet).getD ""

/-- A parameter as shown: a text as it is, a record by its textual `name`,
anything else as compact JSON. -/
def parameterText : Json → String
  | .text value => value
  | .record fields =>
    match lookupRow "name" fields with
    | some (.text name) => name
    | _ => (Json.record fields).compact
  | other => other.compact

/-- The parameters as shown. -/
def parameterNames (record : ComponentRecord) : List String :=
  (record.parameters.getD []).map parameterText

/-- The fields of a record, in order. -/
def fieldNames : List String :=
  ["id", "name", "component_type", "node_type", "file_path", "relative_path",
    "source_code", "code_snippet", "start_line", "end_line", "has_docstring",
    "docstring", "parameters", "base_classes", "class_name", "display_name"]

open Json (Decoder) in
def decode : Json.Decoder ComponentRecord := fun levels written => do
  let fields ← Json.Fields.decode fieldNames levels written
  let text := fun name => fields.optional name none Decoder.text.nullable
  let count := fun name => fields.optional name none Decoder.count.nullable
  let id ← text "id"
  let name ← text "name"
  let componentType ← text "component_type"
  let nodeType ← text "node_type"
  let filePath ← text "file_path"
  let relativePath ← text "relative_path"
  let sourceCode ← text "source_code"
  let codeSnippet ← text "code_snippet"
  let startLine ← count "start_line"
  let endLine ← count "end_line"
  let hasDocstring ←
    fields.optional "has_docstring" none Decoder.flag.nullable
  let docstring ← text "docstring"
  let parameters ←
    fields.optional "parameters" none Decoder.value.list.nullable
  let baseClasses ←
    fields.optional "base_classes" none Decoder.text.list.nullable
  let className ← text "class_name"
  let displayName ← text "display_name"
  some {
    id, name, componentType, nodeType, filePath, relativePath, sourceCode,
    codeSnippet, startLine, endLine, hasDocstring, docstring, parameters,
    baseClasses, className, displayName }

end ComponentRecord

/-- A call as an analyzer reports it. -/
structure CallRecord where
  caller : Option String := none
  callee : Option String := none
  line : Option UInt64 := none
  isResolved : Bool := false
deriving DecidableEq, Inhabited

namespace CallRecord

open Json (Decoder) in
def decode : Json.Decoder CallRecord := fun levels written => do
  let fields ← Json.Fields.decode
    ["caller", "callee", "call_line", "is_resolved"] levels written
  let caller ← fields.optional "caller" none Decoder.text.nullable
  let callee ← fields.optional "callee" none Decoder.text.nullable
  let line ← fields.optional "call_line" none Decoder.count.nullable
  let isResolved ← fields.optional "is_resolved" false Decoder.flag
  some { caller, callee, line, isResolved }

end CallRecord

/-- An analyzer document whose records are not decoded yet. -/
structure AnalysisDocument where
  functions : List Json
  relationships : List Json

/-- The decoded records of an analyzer document. -/
structure Analysis where
  functions : List ComponentRecord
  relationships : List CallRecord
  /-- How many records could not be decoded. -/
  malformed : Nat
deriving Inhabited

namespace AnalysisDocument

open Json (Decoder) in
/-- Read the outer shape of an analyzer document. -/
def ofText? (text : String) : Option AnalysisDocument :=
  text |> Json.decodeText? fun levels written => do
    let fields ← Json.Fields.decode ["functions", "relationships"]
      levels written
    let functions ← fields.optional "functions" [] Decoder.value.list
    let relationships ← fields.optional "relationships" [] Decoder.value.list
    some { functions, relationships }

/-- Decode every record, counting the ones that do not fit. -/
def decode (document : AnalysisDocument) : Analysis :=
  let functions :=
    document.functions.filterMap (Json.decode? ComponentRecord.decode)
  let relationships :=
    document.relationships.filterMap (Json.decode? CallRecord.decode)
  { functions, relationships
    malformed :=
      (document.functions.length - functions.length)
        + (document.relationships.length - relationships.length) }

end AnalysisDocument

end ModuleAtlas
