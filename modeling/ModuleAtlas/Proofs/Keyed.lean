import Mathlib.Algebra.GroupWithZero.Nat
import Mathlib.Data.List.Induction
import Mathlib.Data.List.Nodup
import Mathlib.Data.List.Perm.Subperm
import ModuleAtlas.Keyed.Names

/-!
# Mappings and sets of names as lists

The rows of a mapping and the members of a set stand in one fixed order, so
that lists of rows or names are compared with them up to permutation.
-/

namespace ModuleAtlas

universe u v

theorem lookupRow_map {α : Type u} {β : Type v} (change : α → β)
    (name : String) (rows : List (String × α)) :
    lookupRow name (rows.map fun row => (row.1, change row.2)) =
      (lookupRow name rows).map change := by
  induction rows with
  | nil => rfl
  | cons head rest step =>
    by_cases same : head.1 = name
    · simp [lookupRow, same]
    · simp [lookupRow, same, step]

theorem mem_of_lookupRow {α : Type u} {name : String} {value : α}
    {rows : List (String × α)} (found : lookupRow name rows = some value) :
    (name, value) ∈ rows := by
  induction rows with
  | nil => exact absurd found (by simp [lookupRow])
  | cons head rest step =>
    by_cases same : head.1 = name
    · rw [lookupRow, if_pos same] at found
      obtain rfl := Option.some.inj found
      exact List.mem_cons.2 (.inl (Prod.ext same.symm rfl))
    · rw [lookupRow, if_neg same] at found
      exact List.mem_cons_of_mem _ (step found)

theorem lookupRow_of_mem {α : Type u} {name : String} {value : α}
    {rows : List (String × α)} (distinct : (rows.map Prod.fst).Nodup)
    (member : (name, value) ∈ rows) : lookupRow name rows = some value := by
  induction rows with
  | nil => exact absurd member List.not_mem_nil
  | cons head rest step =>
    rw [List.map_cons, List.nodup_cons] at distinct
    rcases List.mem_cons.1 member with rfl | inside
    · rw [lookupRow, if_pos rfl]
    · have apart : head.1 ≠ name := fun same =>
        distinct.1 (same ▸ List.mem_map_of_mem inside)
      rw [lookupRow, if_neg apart]
      exact step distinct.2 inside

namespace Keyed

variable {α : Type u} {β : Type v}

theorem names_pairwise (mapping : Keyed α) :
    mapping.names.Pairwise (· < ·) :=
  List.pairwise_map.2 mapping.ascending

theorem names_nodup (mapping : Keyed α) : mapping.names.Nodup :=
  mapping.names_pairwise.imp String.ne_of_lt

theorem entries_nodup (mapping : Keyed α) : mapping.entries.Nodup :=
  List.Nodup.of_map _ mapping.names_nodup

theorem mem_names {mapping : Keyed α} {name : String} :
    name ∈ mapping.names ↔ ∃ value, mapping.find? name = some value := by
  simp only [names, List.mem_map, find?_eq_some_iff]
  constructor
  · rintro ⟨⟨key, value⟩, member, rfl⟩
    exact ⟨value, member⟩
  · rintro ⟨value, member⟩
    exact ⟨(name, value), member, rfl⟩

theorem mem_values {mapping : Keyed α} {value : α} :
    value ∈ mapping.values ↔ ∃ name, mapping.find? name = some value := by
  simp only [values, List.mem_map, find?_eq_some_iff]
  constructor
  · rintro ⟨⟨name, value⟩, member, rfl⟩
    exact ⟨name, member⟩
  · rintro ⟨name, member⟩
    exact ⟨(name, value), member, rfl⟩

theorem contains_iff {mapping : Keyed α} {name : String} :
    mapping.contains name = true ↔ name ∈ mapping.names := by
  rw [mem_names, contains, Option.isSome_iff_exists]

theorem find?_foldl_insert {name : String} {value : α}
    (rows : List (String × α)) :
    ∀ mapping : Keyed α, (rows.map Prod.fst).Nodup →
      ((rows.foldl (fun mapping row => mapping.insert row.1 row.2)
          mapping).find? name = some value ↔
        (name, value) ∈ rows ∨
          name ∉ rows.map Prod.fst ∧ mapping.find? name = some value) := by
  induction rows with
  | nil => simp
  | cons row rest step =>
    intro mapping distinct
    rcases row with ⟨key, item⟩
    simp only [List.map_cons, List.nodup_cons] at distinct
    rw [List.foldl_cons, step _ distinct.2, find?_insert]
    by_cases same : key = name
    · subst same
      have absent : (key, value) ∉ rest := fun member =>
        distinct.1 (List.mem_map_of_mem member)
      simp [absent, distinct.1, eq_comm]
    · simp [same, Ne.symm same]

/-- Of the rows with one name, the last is the one in the mapping. -/
theorem find?_ofList_eq_lookupRow (name : String) (rows : List (String × α)) :
    (ofList rows).find? name = lookupRow name rows.reverse := by
  induction rows using List.reverseRecOn with
  | nil => rfl
  | append_singleton rows row step =>
    have last : ofList (rows ++ [row]) =
        (ofList rows).insert row.1 row.2 := by
      rw [ofList, List.foldl_append]
      rfl
    rw [last, find?_insert, step, List.reverse_append]
    rfl

/-- Rows with distinct names are looked up in the mapping made of them. -/
theorem find?_ofList {rows : List (String × α)}
    (distinct : (rows.map Prod.fst).Nodup) {name : String} {value : α} :
    (ofList rows).find? name = some value ↔ (name, value) ∈ rows := by
  rw [ofList, find?_foldl_insert rows empty distinct]
  simp

/-- Rows with distinct names are the rows of the mapping made of them. -/
theorem entries_ofList_perm {rows : List (String × α)}
    (distinct : (rows.map Prod.fst).Nodup) :
    (ofList rows).entries.Perm rows := by
  refine (List.perm_ext_iff_of_nodup (entries_nodup _)
    (List.Nodup.of_map _ distinct)).2 fun row => ?_
  rw [← find?_eq_some_iff, find?_ofList distinct]

theorem ofList_entries (mapping : Keyed α) :
    ofList mapping.entries = mapping := by
  apply ext
  intro name
  apply Option.ext
  intro value
  rw [find?_ofList mapping.names_nodup, find?_eq_some_iff]

theorem values_map (change : String → α → β) (mapping : Keyed α) :
    (mapping.map change).values =
      mapping.entries.map fun row => change row.1 row.2 := by
  simp [values, map]

/-- The sum over all values, after a value was put in place of another. -/
theorem sum_insert (weight : α → Nat) (mapping : Keyed α) (name : String)
    (value : α) :
    ((mapping.insert name value).values.map weight).sum
        + ((mapping.find? name).map weight).getD 0 =
      (mapping.values.map weight).sum + weight value := by
  rcases mapping with ⟨rows, ordered⟩
  simp only [insert, values, find?]
  induction rows with
  | nil => simp [setRow, lookupRow]
  | cons head rest step =>
    obtain ⟨above, below⟩ := List.pairwise_cons.1 ordered
    unfold setRow
    split
    · next before =>
      have absent : lookupRow name (head :: rest) = none := by
        apply lookupRow_eq_none_of_below
        intro row member
        rcases List.mem_cons.1 member with same | inside
        · exact same ▸ before
        · exact String.lt_trans before (above row inside)
      simp only [absent, List.map_cons, List.sum_cons, Option.map_none,
        Option.getD_none]
      omega
    · split
      · next same =>
        simp only [lookupRow, same, if_true, List.map_cons, List.sum_cons,
          Option.map_some, Option.getD_some]
        omega
      · next different =>
        have inner := step below
        simp only [lookupRow, different, if_false, List.map_cons,
          List.sum_cons] at inner ⊢
        omega

/-- One more name makes one more row. -/
theorem size_insert {mapping : Keyed α} {name : String}
    (fresh : mapping.contains name = false) (value : α) :
    (mapping.insert name value).size = mapping.size + 1 := by
  have absent : mapping.find? name = none := by
    simpa [contains] using fresh
  simpa [absent, values, size, Function.comp_def] using
    mapping.sum_insert (fun _ => 1) name value

end Keyed

namespace NameSet

theorem names_nodup (set : NameSet) : set.names.Nodup :=
  set.ascending.imp String.ne_of_lt

theorem mem_names {set : NameSet} {name : String} :
    name ∈ set.names ↔ name ∈ set :=
  Iff.rfl

/-- Distinct names are the members of the set made of them. -/
theorem names_ofList_perm {names : List String} (distinct : names.Nodup) :
    (ofList names).names.Perm names :=
  (List.perm_ext_iff_of_nodup (names_nodup _) distinct).2 fun _ =>
    mem_ofList

theorem insert_of_mem {set : NameSet} {name : String} (member : name ∈ set) :
    set.insert name = set := by
  apply ext
  intro other
  rw [mem_insert]
  exact or_iff_right_of_imp fun same => same ▸ member

theorem size_insert {set : NameSet} {name : String} (fresh : name ∉ set) :
    (set.insert name).size = set.size + 1 := by
  have perm : (set.insert name).names.Perm (name :: set.names) := by
    refine (List.perm_ext_iff_of_nodup (names_nodup _)
      (List.nodup_cons.2 ⟨fresh, names_nodup set⟩)).2 fun other => ?_
    rw [List.mem_cons]
    exact mem_insert
  simpa [size] using perm.length_eq

theorem size_filter_le (set : NameSet) (test : String → Bool) :
    (set.filter test).size ≤ set.size :=
  List.length_filter_le _ _

theorem size_ofList_le (names : List String) :
    (ofList names).size ≤ names.length := by
  apply List.Subperm.length_le
  apply (names_nodup (ofList names)).subperm
  intro name member
  exact mem_ofList.1 member

end NameSet

end ModuleAtlas
