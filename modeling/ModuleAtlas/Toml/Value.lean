/-!
# TOML documents

Values, and the items that a document is put together from.  An item remembers
how its table came about, because that decides whether it may be extended.
-/

namespace ModuleAtlas.Toml

inductive Value where
  | text (value : String)
  | int (value : Int)
  | float (value : Float)
  | bool (value : Bool)
  /-- A date, a time or both, as written. -/
  | moment (text : String)
  | list (items : List Value)
  | table (entries : List (String × Value))
deriving Inhabited

/-- How a table came about. -/
inductive Origin where
  /-- As part of the path of another table. -/
  | implied
  /-- By a header. -/
  | header
  /-- As part of a dotted key. -/
  | dotted
deriving DecidableEq, Repr

/-- An item of a document under construction. -/
inductive Item where
  | value (value : Value)
  | table (origin : Origin) (entries : List (String × Item))
  /-- Tables that share a header, the latest first. -/
  | tables (tables : List (List (String × Item)))
deriving Inhabited

/-- The items of a table, in order of appearance. -/
abbrev Items := List (String × Item)

/-- The item with a name. -/
def find? {α : Type} (name : String) : List (String × α) → Option α
  | [] => none
  | (key, item) :: rest => if key = name then some item else find? name rest

/-- Put an item in place of the one with its name, or at the end. -/
def put {α : Type} (name : String) (item : α) :
    List (String × α) → List (String × α)
  | [] => [(name, item)]
  | (key, old) :: rest =>
    if key = name then (key, item) :: rest
    else (key, old) :: put name item rest

mutual

/-- The value of a finished item. -/
def Item.toValue : Item → Value
  | .value value => value
  | .table _ entries => .table (entryValues entries)
  | .tables tables => .list (tableValues tables).reverse

/-- The values of finished entries. -/
def entryValues : List (String × Item) → List (String × Value)
  | [] => []
  | (name, item) :: rest => (name, item.toValue) :: entryValues rest

/-- The values of finished tables. -/
def tableValues : List (List (String × Item)) → List Value
  | [] => []
  | entries :: rest => .table (entryValues entries) :: tableValues rest

end

/-- Change the table that a path leads to, making tables of one origin on the
way.  A dotted key does not lead into tables with headers. -/
def changeAt (origin : Origin) (change : Option Origin → Items → Option Items)
    (here : Option Origin) : List String → Items → Option Items
  | [], items => change here items
  | name :: path, items =>
    match find? name items with
    | none =>
      (changeAt origin change (some origin) path []).map fun inside =>
        put name (.table origin inside) items
    | some (.value _) => none
    | some (.tables []) => none
    | some (.tables (latest :: earlier)) =>
      (changeAt origin change (some .header) path latest).map fun inside =>
        put name (.tables (inside :: earlier)) items
    | some (.table kind inside) =>
      if origin = .dotted ∧ kind = .header then none
      else
        (changeAt origin change (some kind) path inside).map fun inside =>
          put name (.table kind inside) items

/-- Set the value of a dotted key in a table.  The key must be new, and the
table that holds it must have come about by such keys exactly when there are
points. -/
def setValue (path : List String) (name : String) (value : Value)
    (items : Items) : Option Items :=
  let place (here : Option Origin) (items : Items) : Option Items :=
    if decide (here = some .dotted) = path.isEmpty
        || (find? name items).isSome then none
    else some (items ++ [(name, .value value)])
  changeAt .dotted place none path items

/-- Open the table of a header.  It may exist only as part of other paths. -/
def openTable (path : List String) (name : String) (items : Items) :
    Option Items :=
  let place (_ : Option Origin) (items : Items) : Option Items :=
    match find? name items with
    | none => some (items ++ [(name, .table .header [])])
    | some (.table .implied inside) =>
      some (put name (.table .header inside) items)
    | some _ => none
  changeAt .implied place none path items

/-- Open one more table under a repeatable header. -/
def openNext (path : List String) (name : String) (items : Items) :
    Option Items :=
  let place (_ : Option Origin) (items : Items) : Option Items :=
    match find? name items with
    | none => some (items ++ [(name, .tables [[]])])
    | some (.tables tables) => some (put name (.tables ([] :: tables)) items)
    | some _ => none
  changeAt .implied place none path items

/-- Change the table of a header that was opened. -/
def changeOpen (change : Items → Option Items) (path : List String)
    (items : Items) : Option Items :=
  changeAt .implied (fun _ items => change items) none path items

end ModuleAtlas.Toml
