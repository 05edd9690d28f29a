import ModuleAtlas.Component.Basic

/-!
# Resolving references to components

Calls name their ends in several ways: by id, by the legacy key of file and
name, or, for a callee, by bare name.  The index answers each of them.  An id
always means its own component; a legacy key or a bare name means the first
component that was registered with it.
-/

namespace ModuleAtlas

/-- The spellings by which components can be named. -/
structure ComponentIndex where
  /-- Ids and legacy keys, with the id that each stands for. -/
  ids : Keyed String
  /-- Bare names, with the ids that bear them, in order of registration. -/
  named : Keyed (List String)

/-- How a callee was matched. -/
inductive Match where
  /-- By id or legacy key. -/
  | byId (id : String)
  /-- By a bare name that so many components bear. -/
  | byName (id : String) (candidates : Nat)
deriving DecidableEq, Repr

/-- The component that was matched. -/
def Match.target : Match → String
  | .byId id => id
  | .byName id _ => id

namespace ComponentIndex

def empty : ComponentIndex := ⟨.empty, .empty⟩

instance : Inhabited ComponentIndex := ⟨empty⟩

def register (index : ComponentIndex) (component : Component) :
    ComponentIndex :=
  let ids := index.ids.insert component.id component.id
  let ids :=
    if component.legacyId = component.id then ids
    else ids.insertNew component.legacyId component.id
  let name := Text.trim component.name
  let named :=
    if name = "" then index.named
    else
      let bearers := (index.named.find? name).getD []
      index.named.insert name (bearers ++ [component.id])
  { ids, named }

/-- Resolve an id or a legacy key. -/
def resolve? (index : ComponentIndex) (key : String) : Option String :=
  index.ids.find? key

/-- Resolve a callee, by bare name when nothing else matches. -/
def resolveCallee? (index : ComponentIndex) (key : String) : Option Match :=
  let key := Text.trim key
  if key = "" then none
  else
    match index.resolve? key with
    | some id => some (.byId id)
    | none =>
      match index.named.find? key with
      | some (first :: others) => some (.byName first (others.length + 1))
      | _ => none

end ComponentIndex

end ModuleAtlas
