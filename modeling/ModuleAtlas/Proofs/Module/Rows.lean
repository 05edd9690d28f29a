import Mathlib.Algebra.Order.Group.Multiset
import ModuleAtlas.Proofs.Module.Location

/-!
# Rows of a forest

The rows of a forest are its nodes with their full paths, without an order.
Ordered forests with the same rows are equal, so that forests may be compared
by counting rows.  What grows at a location without children is added to the
rows, and takes the place of that location among the rows without children.
-/

namespace ModuleAtlas

universe u v

namespace Forest

variable {α : Type u} {β : Type v}

/-! ## Rows -/

/-- The nodes with their full paths. -/
def rows (above : List String) : Forest α → Multiset (List String × α)
  | nil => 0
  | node name value children rest =>
    (above ++ [name], value)
      ::ₘ (rows (above ++ [name]) children + rows above rest)

/-- The nodes without children, with their full paths. -/
def leaves (above : List String) : Forest α → Multiset (List String × α)
  | nil => 0
  | node name value children rest =>
    (if children.isEmpty then {(above ++ [name], value)}
      else leaves (above ++ [name]) children) + leaves above rest

@[simp]
theorem isEmpty_iff {forest : Forest α} :
    forest.isEmpty = true ↔ forest = nil := by
  cases forest <;> simp [isEmpty]

/-- A change below a location takes the rows of that level for new ones. -/
theorem rows_changeBelow_add (change : Forest α → Forest α)
    (above : List String) {path : List String} {forest inner : Forest α}
    (located : level? path forest = some inner) :
    rows above (changeBelow change path forest) + rows (above ++ path) inner =
      rows above forest + rows (above ++ path) (change inner) := by
  induction forest generalizing path above with
  | nil =>
    cases path with
    | nil => simp [← Option.some.inj located, rows]
    | cons first path => simp at located
  | node name value children rest below beside =>
    cases path with
    | nil =>
      rw [level?_root, Option.some.injEq] at located
      subst located
      simp [add_comm]
    | cons first path =>
      rw [level?_node] at located
      rw [changeBelow_node]
      split at located
      · next same =>
        subst same
        have step := below (above ++ [name]) located
        simp only [List.append_assoc, List.cons_append, List.nil_append]
          at step
        rw [if_pos rfl, rows, rows, Multiset.cons_add, Multiset.cons_add,
          add_right_comm, step, add_right_comm]
      · next different =>
        rw [if_neg different, rows, rows, Multiset.cons_add,
          Multiset.cons_add, add_assoc, beside _ located, add_assoc]

theorem rows_changeBelow (change : Forest α → Forest α)
    (above : List String) {path : List String} {forest : Forest α}
    (childless : level? path forest = some nil) :
    rows above (changeBelow change path forest) =
      rows above forest + rows (above ++ path) (change nil) := by
  simpa [rows] using rows_changeBelow_add change above childless

theorem rows_level? {path : List String} {forest inner : Forest α}
    (located : level? path forest = some inner) (above : List String)
    {row : List String × α} (member : row ∈ rows (above ++ path) inner) :
    row ∈ rows above forest := by
  induction forest generalizing path above with
  | nil =>
    cases path with
    | nil => simpa [← Option.some.inj located] using member
    | cons first path => simp at located
  | node name value children rest below beside =>
    cases path with
    | nil =>
      rw [level?_root, Option.some.injEq] at located
      simpa [located] using member
    | cons first path =>
      rw [level?_node] at located
      rw [rows, Multiset.mem_cons, Multiset.mem_add]
      split at located
      · next same =>
        subst same
        exact Or.inr (Or.inl (below located _ (by simpa using member)))
      · exact Or.inr (Or.inr (beside located above member))

/-- A row of a changed forest was there before, or comes from the changed
level. -/
theorem mem_rows_changeBelow {change : Forest α → Forest α}
    {path : List String} {forest : Forest α} {above : List String}
    {row : List String × α}
    (member : row ∈ rows above (changeBelow change path forest)) :
    row ∈ rows above forest ∨ ∃ inner, level? path forest = some inner ∧
      row ∈ rows (above ++ path) (change inner) := by
  induction forest generalizing path above with
  | nil =>
    cases path with
    | nil => exact Or.inr ⟨nil, rfl, by simpa using member⟩
    | cons first path => exact Or.inl member
  | node name value children rest below beside =>
    cases path with
    | nil => exact Or.inr ⟨_, rfl, by simpa using member⟩
    | cons first path =>
      rw [changeBelow_node] at member
      rw [rows, Multiset.mem_cons, Multiset.mem_add, level?_node]
      split at member
      · next same =>
        subst same
        rw [if_pos rfl]
        rw [rows, Multiset.mem_cons, Multiset.mem_add] at member
        rcases member with here | inside | inside
        · exact Or.inl (Or.inl here)
        · refine (below inside).imp (fun old => Or.inr (Or.inl old)) ?_
          rintro ⟨inner, located, new⟩
          exact ⟨inner, located, by simpa using new⟩
        · exact Or.inl (Or.inr (Or.inr inside))
      · next different =>
        rw [if_neg different]
        rw [rows, Multiset.mem_cons, Multiset.mem_add] at member
        rcases member with here | inside | inside
        · exact Or.inl (Or.inl here)
        · exact Or.inl (Or.inr (Or.inl inside))
        · exact (beside inside).imp (fun old => Or.inr (Or.inr old)) id

theorem mem_rows_insert {above : List String} {name : String} {value : α}
    {forest : Forest α} {row : List String × α}
    (member : row ∈ rows above (forest.insert name value nil)) :
    row = (above ++ [name], value) ∨ row ∈ rows above forest := by
  induction forest with
  | nil => simpa [insert, rows] using member
  | node head headValue headChildren rest _ beside =>
    unfold insert at member
    split at member
    · simpa [rows] using member
    · split at member
      · simp only [rows, zero_add, Multiset.mem_cons, Multiset.mem_add]
          at member ⊢
        exact member.imp id fun inside => Or.inr (Or.inr inside)
      · simp only [rows, Multiset.mem_cons, Multiset.mem_add] at member ⊢
        rcases member with here | inside | inside
        · exact Or.inr (Or.inl here)
        · exact Or.inr (Or.inr (Or.inl inside))
        · exact (beside inside).imp id fun old => Or.inr (Or.inr old)

theorem leaves_changeBelow (change : Forest α → Forest α)
    (grown : change nil ≠ nil) (above : List String) {path : List String}
    {forest : Forest α} {value : α}
    (childless : find? path forest = some (value, nil)) :
    (above ++ path, value) ::ₘ leaves above (changeBelow change path forest) =
      leaves above forest + leaves (above ++ path) (change nil) := by
  induction forest generalizing path above with
  | nil => simp at childless
  | node name item children rest below beside =>
    cases path with
    | nil => simp at childless
    | cons first path =>
      rw [find?_node] at childless
      rw [changeBelow_node]
      split at childless
      · next same =>
        subst same
        rw [if_pos rfl, leaves, leaves]
        split at childless
        · next last =>
          subst last
          obtain ⟨rfl, rfl⟩ : item = value ∧ children = nil := by
            simpa using childless
          rw [changeBelow_root, if_neg (by simpa using grown),
            if_pos (isEmpty_iff.2 rfl)]
          simp [add_comm]
        · next more =>
          have inner : children ≠ nil := by
            rintro rfl
            simp at childless
          have inner' : changeBelow change path children ≠ nil := by
            cases children with
            | nil => exact absurd rfl inner
            | node head headValue headChildren others =>
              cases path with
              | nil => exact absurd rfl more
              | cons next path =>
                rw [changeBelow_node]
                split <;> simp
          have step := below (above ++ [name]) childless
          simp only [List.append_assoc, List.cons_append,
            List.nil_append] at step
          rw [if_neg (by simpa using inner'), if_neg (by simpa using inner),
            ← Multiset.cons_add, step, add_right_comm]
      · next different =>
        rw [if_neg different, leaves, leaves, ← Multiset.add_cons,
          beside above childless, add_assoc]

theorem rows_insert (above : List String) {name : String} (value : α)
    {forest : Forest α} (fresh : name ∉ forest.roots.map Prod.fst) :
    rows above (forest.insert name value nil) =
      (above ++ [name], value) ::ₘ rows above forest := by
  induction forest with
  | nil => simp [insert, rows]
  | node head headValue headChildren rest _ beside =>
    simp only [roots, List.map_cons, List.mem_cons, not_or] at fresh
    unfold insert
    split
    · simp [rows]
    · rw [if_neg (Ne.symm fresh.1), rows, rows, beside fresh.2]
      rw [Multiset.add_cons, Multiset.cons_swap]

/-- A node that takes the place of another one takes away what was below it. -/
theorem rows_insert_taken (above : List String) {name : String}
    (value : α) {forest : Forest α} (ordered : forest.Ordered)
    {old : α} {children : Forest α}
    (taken : find? [name] forest = some (old, children)) :
    rows above (forest.insert name value nil)
        + (above ++ [name], old) ::ₘ rows (above ++ [name]) children =
      (above ++ [name], value) ::ₘ rows above forest := by
  induction forest with
  | nil => simp at taken
  | node head headValue headChildren rest _ beside =>
    rw [find?_node] at taken
    unfold insert
    split
    · next before =>
      rw [if_neg (String.ne_of_lt before).symm,
        find?_eq_none_of_below] at taken
      · exact absurd taken (by simp)
      · intro root member
        exact String.lt_trans before (ordered.1 root member)
    · split at taken
      · next same =>
        subst same
        simp only [↓reduceIte, Option.some.injEq, Prod.mk.injEq] at taken
        rw [if_pos rfl, taken.1, taken.2]
        simp [rows, add_comm, Multiset.cons_swap]
      · next different =>
        rw [if_neg different, rows, rows, Multiset.cons_add, add_assoc,
          beside ordered.2.2 taken, Multiset.add_cons, Multiset.cons_swap]

theorem leaves_insert (above : List String) {name : String} (value : α)
    {forest : Forest α} (fresh : name ∉ forest.roots.map Prod.fst) :
    leaves above (forest.insert name value nil) =
      (above ++ [name], value) ::ₘ leaves above forest := by
  induction forest with
  | nil => simp [insert, leaves, isEmpty]
  | node head headValue headChildren rest _ beside =>
    simp only [roots, List.map_cons, List.mem_cons, not_or] at fresh
    unfold insert
    split
    · simp [leaves, isEmpty]
    · rw [if_neg (Ne.symm fresh.1), leaves, leaves, beside fresh.2,
        Multiset.add_cons]

theorem leaves_map (change : α → β) (above : List String)
    (forest : Forest α) :
    leaves above (forest.map change) =
      (leaves above forest).map fun row => (row.1, change row.2) := by
  induction forest generalizing above with
  | nil => rfl
  | node name value children rest below beside =>
    rw [map, leaves, leaves, Multiset.map_add, beside, below]
    cases children with
    | nil => simp [map, isEmpty]
    | node head headValue headChildren others => simp [map, isEmpty]

/-! ## Rows of ordered forests -/

theorem mem_rows {forest : Forest α} (ordered : forest.Ordered)
    {above full : List String} {value : α} :
    (full, value) ∈ rows above forest ↔
      ∃ path, full = above ++ path ∧ valueAt? path forest = some value := by
  induction forest generalizing above with
  | nil => simp [rows, valueAt?]
  | node name item children rest below beside =>
    simp only [rows, Multiset.mem_cons, Multiset.mem_add, Prod.mk.injEq,
      below ordered.2.1, beside ordered.2.2]
    constructor
    · rintro (⟨rfl, rfl⟩ | ⟨path, rfl, met⟩ | ⟨path, rfl, met⟩)
      · exact ⟨[name], rfl, by simp [valueAt?, find?_node]⟩
      · refine ⟨name :: path, by simp, ?_⟩
        have more : path ≠ [] := by
          rintro rfl
          simp [valueAt?] at met
        simpa [valueAt?, find?_node, more] using met
      · refine ⟨path, rfl, ?_⟩
        cases path with
        | nil => simp [valueAt?] at met
        | cons first path =>
          rcases Option.map_eq_some_iff.1 met with ⟨found, inside, rfl⟩
          rw [valueAt?, find?_node, if_neg (find?_rest ordered inside), inside]
          rfl
    · rintro ⟨path, rfl, met⟩
      cases path with
      | nil => simp [valueAt?] at met
      | cons first path =>
        rw [valueAt?, find?_node] at met
        split at met
        · next same =>
          subst same
          split at met
          · next last =>
            subst last
            exact Or.inl ⟨rfl, by simpa using met.symm⟩
          · exact Or.inr (Or.inl ⟨path, by simp, met⟩)
        · exact Or.inr (Or.inr ⟨first :: path, rfl, met⟩)

theorem mem_rows_nil {forest : Forest α} (ordered : forest.Ordered)
    {path : List String} {value : α} :
    (path, value) ∈ rows [] forest ↔ valueAt? path forest = some value := by
  simp [mem_rows ordered]

theorem mem_rows_of_find? {forest children : Forest α}
    (ordered : forest.Ordered) {path : List String} {value : α}
    (met : find? path forest = some (value, children)) :
    (path, value) ∈ rows [] forest := by
  rw [mem_rows_nil ordered, valueAt?, met]
  rfl

/-- A node with a path of the greatest length has no children. -/
theorem find?_of_longest {forest : Forest α} (ordered : forest.Ordered)
    {bound : Nat} (short : ∀ row ∈ rows [] forest, row.1.length ≤ bound)
    {path : List String} {value : α} (member : (path, value) ∈ rows [] forest)
    (longest : bound ≤ path.length) :
    find? path forest = some (value, nil) := by
  rw [mem_rows_nil ordered, valueAt?, Option.map_eq_some_iff] at member
  rcases member with ⟨⟨item, children⟩, met, rfl⟩
  cases children with
  | nil => exact met
  | node name inner below rest =>
    have under : (path ++ [name], inner) ∈ rows [] forest :=
      rows_level? (level?_of_find? met) [] (by simp [rows])
    have bounded := short _ under
    rw [List.length_append, List.length_singleton] at bounded
    omega

/-- There is no row below a location without children. -/
theorem not_mem_rows_of_childless {forest : Forest α}
    (ordered : forest.Ordered) {path : List String}
    (childless : level? path forest = some nil) (first : String)
    (below : List String) (value : α) :
    (path ++ first :: below, value) ∉ rows [] forest := by
  rw [mem_rows_nil ordered]
  intro met
  rcases Option.map_eq_some_iff.1 met with ⟨found, met, _⟩
  have located := level?_of_find? met
  rw [level?_append, childless] at located
  simp at located

/-- Ordered forests with the same rows are equal. -/
theorem ext_of_rows {left right : Forest α} (ordered : left.Ordered)
    (ordered' : right.Ordered) (agree : rows [] left = rows [] right) :
    left = right := by
  apply ext_of_valueAt? ordered ordered'
  intro path
  ext value
  have viewed : ∀ {forest : Forest α}, forest.Ordered →
      (valueAt? path forest = some value ↔
        (path, value) ∈ rows [] forest) := by
    intro forest ordered
    simp [mem_rows ordered]
  rw [viewed ordered, viewed ordered', agree]

theorem exists_root_of_mem_rows {forest : Forest α} {above : List String}
    {row : List String × α} (member : row ∈ rows above forest) :
    ∃ root ∈ forest.roots, ∃ path, row.1 = above ++ root.1 :: path := by
  induction forest generalizing above with
  | nil => simp [rows] at member
  | node name value children rest below beside =>
    simp only [rows, Multiset.mem_cons, Multiset.mem_add] at member
    rcases member with rfl | inside | inside
    · exact ⟨(name, value), by simp [roots], [], rfl⟩
    · rcases below inside with ⟨root, _, path, full⟩
      exact ⟨(name, value), by simp [roots], root.1 :: path, by simp [full]⟩
    · rcases beside inside with ⟨root, among, path, full⟩
      exact ⟨root, List.mem_cons_of_mem _ among, path, full⟩

/-- No two rows of an ordered forest have the same path. -/
theorem rows_nodup {forest : Forest α} (ordered : forest.Ordered)
    (above : List String) : ((rows above forest).map Prod.fst).Nodup := by
  induction forest generalizing above with
  | nil => simp [rows]
  | node name value children rest below beside =>
    rw [rows, Multiset.map_cons, Multiset.map_add, Multiset.nodup_cons,
      Multiset.nodup_add]
    refine ⟨?_, below ordered.2.1 _, beside ordered.2.2 _, ?_⟩
    · rw [Multiset.mem_add, not_or]
      constructor
      · intro member
        rcases Multiset.mem_map.1 member with ⟨row, inside, same⟩
        rcases exists_root_of_mem_rows inside with ⟨root, _, path, full⟩
        simp [full] at same
      · intro member
        rcases Multiset.mem_map.1 member with ⟨row, inside, same⟩
        rcases exists_root_of_mem_rows inside with ⟨root, among, path, full⟩
        have heads : root.1 = name := by
          simp only [full, List.append_cancel_left_eq, List.cons.injEq] at same
          exact same.1
        exact Std.lt_irrefl (heads ▸ ordered.1 root among)
    · rw [Multiset.disjoint_left]
      intro full member member'
      rcases Multiset.mem_map.1 member with ⟨row, inside, rfl⟩
      rcases Multiset.mem_map.1 member' with ⟨row', inside', same⟩
      rcases exists_root_of_mem_rows inside with ⟨root, _, path, full⟩
      rcases exists_root_of_mem_rows inside' with ⟨root', among, path', full'⟩
      have heads : root'.1 = name := by
        simp only [full, full', List.append_assoc, List.cons_append,
          List.append_cancel_left_eq, List.cons.injEq] at same
        exact same.1
      exact Std.lt_irrefl (heads ▸ ordered.1 root' among)

theorem leaves_le_rows (above : List String) (forest : Forest α) :
    leaves above forest ≤ rows above forest := by
  induction forest generalizing above with
  | nil => rfl
  | node name value children rest below beside =>
    rw [leaves, rows, ← Multiset.cons_add]
    apply add_le_add _ (beside above)
    split
    · exact Multiset.singleton_le.2 (Multiset.mem_cons_self _ _)
    · exact (below _).trans (Multiset.le_cons_self _ _)

theorem leaves_nodup {forest : Forest α} (ordered : forest.Ordered)
    (above : List String) : ((leaves above forest).map Prod.fst).Nodup :=
  Multiset.nodup_of_le (Multiset.map_le_map (leaves_le_rows above forest))
    (rows_nodup ordered above)

/-- Looking up the path of a node without children finds no children. -/
theorem find?_of_mem_leaves {forest : Forest α} (ordered : forest.Ordered)
    {above full : List String} {value : α}
    (member : (full, value) ∈ leaves above forest) :
    ∃ path, full = above ++ path ∧
      find? path forest = some (value, nil) := by
  induction forest generalizing above with
  | nil => simp [leaves] at member
  | node name item children rest below beside =>
    rw [leaves, Multiset.mem_add] at member
    rcases member with inside | inside
    · split at inside
      · next bare =>
        rw [Multiset.mem_singleton, Prod.mk.injEq] at inside
        rcases inside with ⟨rfl, rfl⟩
        rw [isEmpty_iff] at bare
        exact ⟨[name], rfl, by simp [find?_node, bare]⟩
      · rcases below ordered.2.1 inside with ⟨path, rfl, met⟩
        refine ⟨name :: path, by simp, ?_⟩
        have more : path ≠ [] := by
          rintro rfl
          simp at met
        simpa [find?_node, more] using met
    · rcases beside ordered.2.2 inside with ⟨path, rfl, met⟩
      refine ⟨path, rfl, ?_⟩
      cases path with
      | nil => simp at met
      | cons first path =>
        rw [find?_node, if_neg (find?_rest ordered met), met]

/-- The nodes in order, seen through look-up. -/
theorem mem_preorder {forest : Forest α} (ordered : forest.Ordered)
    {above : List String} {entry : Entry α} :
    entry ∈ preorder above forest ↔ ∃ path, entry.path = above ++ path ∧
      find? path forest = some (entry.value, entry.children) := by
  induction forest generalizing above with
  | nil => simp [preorder]
  | node name value children rest below beside =>
    simp only [preorder, List.mem_cons, List.mem_append, below ordered.2.1,
      beside ordered.2.2]
    constructor
    · rintro (rfl | ⟨path, full, met⟩ | ⟨path, full, met⟩)
      · exact ⟨[name], rfl, by simp [find?_node]⟩
      · have more : path ≠ [] := by
          rintro rfl
          simp at met
        exact ⟨name :: path, by simp [full], by simpa [find?_node, more]⟩
      · refine ⟨path, full, ?_⟩
        cases path with
        | nil => simp at met
        | cons first path =>
          rw [find?_node, if_neg (find?_rest ordered met), met]
    · rintro ⟨path, full, met⟩
      cases path with
      | nil => simp at met
      | cons first path =>
        rw [find?_node] at met
        split at met
        · next same =>
          subst same
          split at met
          · next last =>
            subst last
            obtain ⟨rfl, rfl⟩ := Prod.mk.inj (Option.some.inj met)
            rcases List.append_inj' full rfl with ⟨rfl, named⟩
            obtain rfl := List.singleton_inj.1 named
            exact Or.inl rfl
          · exact Or.inr (Or.inl ⟨path, by simp [full], met⟩)
        · exact Or.inr (Or.inr ⟨first :: path, full, met⟩)

/-! ## Rows in order -/

/-- A node with its value and those below it changed. -/
def Entry.map (change : α → β) (entry : Entry α) : Entry β :=
  ⟨entry.above, entry.name, change entry.value, entry.children.map change⟩

theorem preorder_map (change : α → β) (above : List String)
    (forest : Forest α) :
    preorder above (forest.map change) =
      (preorder above forest).map (Entry.map change) := by
  induction forest generalizing above with
  | nil => rfl
  | node name value children rest below beside =>
    rw [map, preorder, preorder, below, beside, List.map_cons,
      List.map_append]
    rfl

theorem rows_eq_map_preorder (above : List String) (forest : Forest α) :
    rows above forest =
      (preorder above forest).map fun entry => (entry.path, entry.value) := by
  induction forest generalizing above with
  | nil => rfl
  | node name value children rest below beside =>
    rw [rows, preorder, below, beside, List.map_cons, List.map_append]
    rfl

theorem leaves_eq_map_preorder (above : List String) (forest : Forest α) :
    leaves above forest =
      ((preorder above forest).filter Entry.isLeaf).map fun entry =>
        (entry.path, entry.value) := by
  induction forest generalizing above with
  | nil => rfl
  | node name value children rest below beside =>
    rw [leaves, preorder, below, beside]
    cases children with
    | nil =>
      rw [List.filter_cons_of_pos (by simp [Entry.isLeaf])]
      simp [preorder, Entry.path]
    | node head headValue headChildren others =>
      rw [List.filter_cons_of_neg (by simp [Entry.isLeaf, isEmpty])]
      simp [isEmpty]

end Forest

end ModuleAtlas
