import ModuleAtlas.Json.Decode
import ModuleAtlas.Text.Blank

/-!
# Kinds of code components

Analyzers label components freely; a label is read leniently, and anything
unknown counts as a function.  Stored documents name kinds strictly.
-/

namespace ModuleAtlas

/-- The kind of a code component. -/
inductive Kind where
  | function
  | method
  | concreteClass
  | interface
  | struct
  | enum
  | record
  | abstractClass
  | annotationType
  | delegate
deriving DecidableEq, Repr, Inhabited

namespace Kind

/-- The stored name. -/
def name : Kind → String
  | .function => "function"
  | .method => "method"
  | .concreteClass => "class"
  | .interface => "interface"
  | .struct => "struct"
  | .enum => "enum"
  | .record => "record"
  | .abstractClass => "abstract_class"
  | .annotationType => "annotation"
  | .delegate => "delegate"

def all : List Kind :=
  [.function, .method, .concreteClass, .interface, .struct, .enum, .record,
    .abstractClass, .annotationType, .delegate]

/-- The kind with a stored name. -/
def ofName? (name : String) : Option Kind :=
  all.find? fun kind => kind.name = name

/-- A label in its comparable form: trimmed, in ASCII lower case, and with
underscores in place of spaces. -/
def normalLabel (label : String) : String :=
  String.ofList ((Text.trimList label.toList).map fun c =>
    if c = ' ' then '_' else c.toLower)

/-- The kind that an analyzer's label names. -/
def ofLabel (label : String) : Kind :=
  (ofName? (normalLabel label)).getD .function

/-- The kind with a name used in stored documents, which also know
`abstract class`. -/
def ofStoredName? (name : String) : Option Kind :=
  if name = "abstract class" then some .abstractClass else ofName? name

/-- A kind in a stored document: its name, or a record with the name as its
only field and null as its value. -/
def decode : Json.Decoder Kind
  | _, .text pieces => (Json.pieceText? pieces).bind ofStoredName?
  | _ + 1, .record [(name, .null)] => (Json.pieceText? name).bind ofStoredName?
  | _, _ => none

end Kind

end ModuleAtlas
