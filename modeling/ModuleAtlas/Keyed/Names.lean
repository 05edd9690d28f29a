import ModuleAtlas.Keyed.Basic

/-!
# Sets of names

A `NameSet` lists distinct names in ascending order, so that sets with the
same members are equal.
-/

namespace ModuleAtlas

/-- Put a name into an ascending list of names, once. -/
def insertName (name : String) : List String → List String
  | [] => [name]
  | head :: rest =>
    if name < head then name :: head :: rest
    else if head = name then head :: rest
    else head :: insertName name rest

@[simp]
theorem mem_insertName {name other : String} {names : List String} :
    other ∈ insertName name names ↔ other = name ∨ other ∈ names := by
  induction names with
  | nil => simp [insertName]
  | cons head rest step =>
    unfold insertName
    split
    · simp
    · split
      · next same => subst same; simp
      · simp only [List.mem_cons, step]
        constructor
        · rintro (first | second | third)
          · exact Or.inr (Or.inl first)
          · exact Or.inl second
          · exact Or.inr (Or.inr third)
        · rintro (first | second | third)
          · exact Or.inr (Or.inl first)
          · exact Or.inl second
          · exact Or.inr (Or.inr third)

theorem pairwise_insertName {name : String} {names : List String}
    (ordered : names.Pairwise (· < ·)) :
    (insertName name names).Pairwise (· < ·) := by
  induction names with
  | nil => simp [insertName]
  | cons head rest step =>
    obtain ⟨above, below⟩ := List.pairwise_cons.1 ordered
    unfold insertName
    split
    · next before =>
      refine List.pairwise_cons.2 ⟨?_, ordered⟩
      intro other member
      rcases List.mem_cons.1 member with same | inside
      · exact same ▸ before
      · exact String.lt_trans before (above other inside)
    · next notBefore =>
      split
      · exact ordered
      · next different =>
        have after : head < name := by
          refine Std.not_le.1 fun reverse => different ?_
          exact Std.le_antisymm (Std.not_lt.1 notBefore) reverse
        refine List.pairwise_cons.2 ⟨?_, step below⟩
        intro other member
        rcases mem_insertName.1 member with same | inside
        · exact same ▸ after
        · exact above other inside

/-- A set of names, listed in ascending order. -/
structure NameSet where
  names : List String
  ascending : names.Pairwise (· < ·)
deriving DecidableEq

namespace NameSet

def empty : NameSet := ⟨[], List.Pairwise.nil⟩

instance : Inhabited NameSet := ⟨empty⟩

instance : Membership String NameSet where
  mem names name := name ∈ names.names

instance (name : String) (names : NameSet) : Decidable (name ∈ names) :=
  inferInstanceAs (Decidable (name ∈ names.names))

def insert (names : NameSet) (name : String) : NameSet :=
  ⟨insertName name names.names, pairwise_insertName names.ascending⟩

/-- The set of the names of a list. -/
def ofList (names : List String) : NameSet :=
  names.foldl insert empty

/-- The members that pass a test. -/
def filter (names : NameSet) (test : String → Bool) : NameSet :=
  ⟨names.names.filter test, names.ascending.filter _⟩

/-- Whether a name is a member. -/
def contains (names : NameSet) (name : String) : Bool :=
  decide (name ∈ names)

def size (names : NameSet) : Nat := names.names.length

/-- Whether there is no member. -/
def isEmpty (names : NameSet) : Bool := names.names.isEmpty

@[simp]
theorem not_mem_empty (name : String) : name ∉ empty :=
  fun member => List.not_mem_nil member

@[simp]
theorem mem_insert {names : NameSet} {name other : String} :
    other ∈ names.insert name ↔ other = name ∨ other ∈ names :=
  mem_insertName

@[simp]
theorem mem_filter {names : NameSet} {test : String → Bool} {name : String} :
    name ∈ names.filter test ↔ name ∈ names ∧ test name = true :=
  List.mem_filter

theorem mem_foldl_insert {name : String} (added : List String)
    (names : NameSet) :
    name ∈ added.foldl insert names ↔ name ∈ added ∨ name ∈ names := by
  induction added generalizing names with
  | nil => simp
  | cons head rest step =>
    simp only [List.foldl_cons, step, mem_insert, List.mem_cons]
    constructor
    · rintro (inside | same | old)
      · exact Or.inl (Or.inr inside)
      · exact Or.inl (Or.inl same)
      · exact Or.inr old
    · rintro ((same | inside) | old)
      · exact Or.inr (Or.inl same)
      · exact Or.inl inside
      · exact Or.inr (Or.inr old)

@[simp]
theorem mem_ofList {names : List String} {name : String} :
    name ∈ ofList names ↔ name ∈ names := by
  simp [ofList, mem_foldl_insert]

/-- Ascending lists with the same members are equal. -/
theorem names_ext :
    ∀ {left right : List String},
      left.Pairwise (· < ·) → right.Pairwise (· < ·) →
      (∀ name, name ∈ left ↔ name ∈ right) → left = right
  | [], [], _, _, _ => rfl
  | [], head :: rest, _, _, agree => by simpa using agree head
  | head :: rest, [], _, _, agree => by simpa using agree head
  | head :: rest, head' :: rest', left, right, agree => by
    obtain ⟨above, below⟩ := List.pairwise_cons.1 left
    obtain ⟨above', below'⟩ := List.pairwise_cons.1 right
    have heads : head = head' := by
      rcases List.mem_cons.1 ((agree head).1 List.mem_cons_self)
        with same | inside
      · exact same
      · rcases List.mem_cons.1 ((agree head').2 List.mem_cons_self)
          with same | inside'
        · exact same.symm
        · exact absurd
            (String.lt_trans (above' _ inside) (above _ inside'))
            Std.lt_irrefl
    subst heads
    refine congrArg _ (names_ext below below' fun name => ?_)
    constructor
    · intro member
      rcases List.mem_cons.1 ((agree name).1 (List.mem_cons_of_mem _ member))
        with same | inside
      · exact absurd (same ▸ above name member) Std.lt_irrefl
      · exact inside
    · intro member
      rcases List.mem_cons.1 ((agree name).2 (List.mem_cons_of_mem _ member))
        with same | inside
      · exact absurd (same ▸ above' name member) Std.lt_irrefl
      · exact inside

theorem ext {left right : NameSet}
    (agree : ∀ name, name ∈ left ↔ name ∈ right) : left = right := by
  have same := names_ext left.ascending right.ascending agree
  cases left; cases right; simp_all

theorem names_inj {left right : NameSet} :
    left.names = right.names ↔ left = right := by
  cases left; cases right; simp

end NameSet

end ModuleAtlas
