/-!
# Grouping requests

The text that asks a completion service to group listed components, for a
whole repository or for one module of the tree built so far.
-/

namespace ModuleAtlas.Prompt

/-- A text that may be missing; an empty one counts as missing. -/
def given? (text : Option String) : Option String :=
  text.filter (· ≠ "")

/-- What is to be organised: a module by name, or the repository. -/
def subject (moduleName : Option String) : String :=
  match given? moduleName with
  | some name => "module `" ++ name ++ "`"
  | none => "repository"

/-- The first line of a request. -/
def opening (moduleName : Option String) : String :=
  "You are an expert software architect. Group the following code "
    ++ "components into cohesive modules that reflect how the "
    ++ subject moduleName ++ " is organised.\n"

/-- The part that shows the tree built so far. -/
def treePart (tree moduleName : Option String) : String :=
  match given? tree with
  | none => ""
  | some tree =>
    "\nThe module tree built so far is shown below. Only subdivide the "
      ++ "module `" ++ moduleName.getD ""
      ++ "`; do not repeat or rename other modules.\n"
      ++ "\n<MODULE_TREE>\n" ++ tree ++ "\n</MODULE_TREE>\n"

/-- The part that shows the components. -/
def listingPart (listing : String) : String :=
  "\nComponents, grouped by file:\n\n<POTENTIAL_CORE_COMPONENTS>\n"
    ++ listing ++ "</POTENTIAL_CORE_COMPONENTS>\n"

/-- What a useful grouping looks like. -/
def rules : List String := [
  "",
  "Rules:",
  "- Propose at least two modules; a single module is not a useful split.",
  "- Every component id must be copied exactly as listed above.",
  "- A component may appear in more than one module only if it truly belongs "
    ++ "to both.",
  "- Module names should be short and lowercase, using underscores instead of "
    ++ "spaces."]

/-- The shape of the reply. -/
def replyShape : List String := [
  "",
  "Reply with a mapping literal between the markers, in exactly this shape:",
  "",
  "<GROUPED_COMPONENTS>",
  "\x7b",
  "    \"module_name\": \x7b",
  "        \"description\": \"what this module is responsible for\",",
  "        \"path\": [\"parent_module\", \"module_name\"],",
  "        \"components\": [\"component.id.One\", \"component.id.Two\"]",
  "    \x7d",
  "\x7d",
  "</GROUPED_COMPONENTS>"]

/-- Lines, each with its end. -/
def lines (texts : List String) : String :=
  String.join (texts.map (· ++ "\n"))

/-- The request for a listing, with the tree and the module it concerns. -/
def render (listing : String) (tree moduleName : Option String) : String :=
  opening moduleName ++ treePart tree moduleName ++ listingPart listing
    ++ lines rules ++ lines replyShape

end ModuleAtlas.Prompt
