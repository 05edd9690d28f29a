import ModuleAtlas.Proofs.Module.Rows

/-!
# Orders of a forest

The pre-order of an ordered forest goes up the lexicographic order of the
paths.  In its post-order the nodes below a node stand together, right before
it, and the nodes below a sibling with a later name come after all of them.
-/

namespace ModuleAtlas

universe u v

/-- Of two different items of a list, the second stands later when no item
stands before the first as the second would. -/
theorem pair_sublist_of_pairwise {α : Type u} {relation : α → α → Prop}
    {items : List α} (sorted : items.Pairwise relation) {first second : α}
    (member : first ∈ items) (member' : second ∈ items)
    (different : first ≠ second) (never : ¬ relation second first) :
    [first, second].Sublist items := by
  induction sorted with
  | nil => exact absurd member List.not_mem_nil
  | cons related _ step =>
    rcases List.mem_cons.1 member with rfl | later
    · have later' := (List.mem_cons.1 member').resolve_left different.symm
      exact List.Sublist.cons_cons _ (List.singleton_sublist.2 later')
    · rcases List.mem_cons.1 member' with rfl | later'
      · exact absurd (related first later) never
      · exact (step later later').cons _

namespace Forest

variable {α : Type u} {β : Type v}

/-! ## Nodes of both orders -/

theorem postorder_map (change : α → β) (above : List String)
    (forest : Forest α) :
    postorder above (forest.map change) =
      (postorder above forest).map (Entry.map change) := by
  induction forest generalizing above with
  | nil => rfl
  | node name value children rest below beside =>
    rw [map, postorder, postorder, below, beside, List.map_append,
      List.map_cons]
    rfl

theorem postorder_perm (above : List String) (forest : Forest α) :
    (postorder above forest).Perm (preorder above forest) := by
  induction forest generalizing above with
  | nil => exact .nil
  | node name value children rest below beside =>
    rw [postorder, preorder]
    refine List.perm_middle.trans (List.Perm.cons _ ?_)
    exact (below _).append (beside _)

theorem exists_root_of_mem_preorder {forest : Forest α}
    {above : List String} {entry : Entry α}
    (member : entry ∈ preorder above forest) :
    ∃ root ∈ forest.roots, ∃ path, entry.path = above ++ root.1 :: path := by
  have row : (entry.path, entry.value) ∈ rows above forest := by
    rw [rows_eq_map_preorder]
    exact Multiset.mem_coe.2 (List.mem_map_of_mem member)
  exact exists_root_of_mem_rows row

theorem path_mem_preorder {forest : Forest α} (ordered : forest.Ordered)
    {path : List String} :
    path ∈ (preorder [] forest).map Entry.path ↔
      (find? path forest).isSome = true := by
  rw [List.mem_map, Option.isSome_iff_exists]
  constructor
  · rintro ⟨entry, member, rfl⟩
    rcases (mem_preorder ordered).1 member with ⟨_, same, met⟩
    rw [List.nil_append] at same
    exact ⟨_, same ▸ met⟩
  · rintro ⟨⟨value, children⟩, met⟩
    rcases List.eq_nil_or_concat' path with rfl | ⟨above, name, rfl⟩
    · simp at met
    · exact ⟨⟨above, name, value, children⟩,
        (mem_preorder ordered).2 ⟨_, rfl, met⟩, rfl⟩

/-! ## Pre-order -/

/-- Paths that part with two names stand as the names do. -/
theorem append_cons_lt {above : List String} {name other : String}
    (less : name < other) (path path' : List String) :
    above ++ name :: path < above ++ other :: path' :=
  List.append_left_lt (List.cons_lt_cons_iff.2 (Or.inl less))

theorem lt_append_cons (path : List String) (name : String)
    (below : List String) : path < path ++ name :: below := by
  have longer : path ++ [] < path ++ name :: below :=
    List.append_left_lt (List.nil_lt_cons name below)
  rwa [List.append_nil] at longer

/-- In pre-order the paths of an ordered forest ascend. -/
theorem pairwise_preorder {forest : Forest α} (ordered : forest.Ordered)
    (above : List String) :
    (preorder above forest).Pairwise fun entry other =>
      entry.path < other.path := by
  induction forest generalizing above with
  | nil => exact .nil
  | node name value children rest below beside =>
    rw [preorder, List.pairwise_cons, List.pairwise_append]
    refine ⟨?_, below ordered.2.1 _, beside ordered.2.2 _, ?_⟩
    · intro other member
      rcases List.mem_append.1 member with inside | inside
      · rcases exists_root_of_mem_preorder inside with ⟨root, _, path, full⟩
        rw [full]
        exact lt_append_cons _ _ _
      · rcases exists_root_of_mem_preorder inside with
          ⟨root, among, path, full⟩
        rw [full]
        exact append_cons_lt (ordered.1 root among) [] path
    · intro entry member other member'
      rcases exists_root_of_mem_preorder member with ⟨_, _, path, full⟩
      rcases exists_root_of_mem_preorder member' with
        ⟨root, among, path', full'⟩
      rw [full, full', List.append_assoc]
      exact append_cons_lt (ordered.1 root among) _ _

theorem paths_nodup {forest : Forest α} (ordered : forest.Ordered)
    (above : List String) :
    ((preorder above forest).map Entry.path).Nodup := by
  rw [List.Nodup, List.pairwise_map]
  exact (pairwise_preorder ordered above).imp Std.ne_of_lt

/-! ## Post-order -/

/-- A path is closed before another one when it is below it or parts from it
with an earlier name. -/
def ClosesBefore (path other : List String) : Prop :=
  other <+: path ∨ path < other ∧ ¬ path <+: other

theorem closesBefore_append_cons {above : List String} {name other : String}
    (less : name < other) (path path' : List String) :
    ClosesBefore (above ++ name :: path) (above ++ other :: path') := by
  refine Or.inr ⟨append_cons_lt less path path', fun inside => ?_⟩
  rw [List.prefix_append_right_inj, List.cons_prefix_cons] at inside
  exact String.ne_of_lt less inside.1

theorem not_closesBefore_append_cons {above : List String}
    {name other : String} (less : name < other) (path path' : List String) :
    ¬ ClosesBefore (above ++ other :: path') (above ++ name :: path) := by
  rintro (inside | ⟨reverse, _⟩)
  · rw [List.prefix_append_right_inj, List.cons_prefix_cons] at inside
    exact String.ne_of_lt less inside.1
  · exact List.lt_asymm reverse (append_cons_lt less path path')

theorem pairwise_postorder {forest : Forest α} (ordered : forest.Ordered)
    (above : List String) :
    (postorder above forest).Pairwise fun entry other =>
      ClosesBefore entry.path other.path := by
  have reaches : ∀ {above : List String} {forest : Forest α}
      {entry : Entry α}, entry ∈ postorder above forest →
      ∃ root ∈ forest.roots, ∃ path,
        entry.path = above ++ root.1 :: path := fun member =>
    exists_root_of_mem_preorder ((postorder_perm _ _).mem_iff.1 member)
  induction forest generalizing above with
  | nil => exact .nil
  | node name value children rest below beside =>
    rw [postorder, List.pairwise_append, List.pairwise_cons]
    refine ⟨below ordered.2.1 _, ⟨?_, beside ordered.2.2 _⟩, ?_⟩
    · intro other member
      rcases reaches member with ⟨root, among, path, full⟩
      rw [full]
      exact closesBefore_append_cons (ordered.1 root among) [] path
    · intro entry member other member'
      rcases reaches member with ⟨_, _, path, full⟩
      rw [full]
      rcases List.mem_cons.1 member' with rfl | inside
      · exact Or.inl (List.prefix_append _ _)
      · rcases reaches inside with ⟨root, among, path', full'⟩
        rw [full', List.append_assoc]
        exact closesBefore_append_cons (ordered.1 root among) _ _

/-- The nodes below a node stand in post-order right before it. -/
theorem exists_postorder_eq {above : List String} {forest : Forest α}
    {entry : Entry α} (member : entry ∈ postorder above forest) :
    ∃ front behind, postorder above forest =
      front ++ (postorder entry.path entry.children ++ entry :: behind) := by
  induction forest generalizing above with
  | nil => simp [postorder] at member
  | node name value children rest below beside =>
    rw [postorder, List.mem_append, List.mem_cons] at member
    rw [postorder]
    rcases member with inside | rfl | inside
    · rcases below inside with ⟨front, behind, split⟩
      rw [split]
      exact ⟨front, behind ++ ⟨above, name, value, children⟩
        :: postorder above rest, by simp⟩
    · exact ⟨[], _, rfl⟩
    · rcases beside inside with ⟨front, behind, split⟩
      rw [split]
      exact ⟨postorder (above ++ [name]) children
        ++ ⟨above, name, value, children⟩ :: front, behind, by simp⟩

/-- The nodes below a node are those whose paths go on from its path. -/
theorem path_mem_postorder_below {forest : Forest α}
    (ordered : forest.Ordered) {entry : Entry α}
    (member : entry ∈ preorder [] forest) {path : List String} :
    path ∈ (postorder entry.path entry.children).map Entry.path ↔
      path ∈ (preorder [] forest).map Entry.path ∧ entry.path <+: path ∧
        path ≠ entry.path := by
  rcases (mem_preorder ordered).1 member with ⟨_, same, met⟩
  rw [List.nil_append] at same
  obtain rfl := same
  have located := level?_of_find? met
  have inner := ordered.of_level? located
  rw [((postorder_perm _ _).map _).mem_iff, List.mem_map]
  constructor
  · rintro ⟨below, inside, rfl⟩
    rcases (mem_preorder inner).1 inside with ⟨rest, full, met'⟩
    have more : rest ≠ [] := by
      rintro rfl
      simp at met'
    rw [full, path_mem_preorder ordered, find?_below located more, met']
    exact ⟨rfl, List.prefix_append _ _, by simpa using more⟩
  · rintro ⟨known, ⟨rest, rfl⟩, different⟩
    have more : rest ≠ [] := by simpa using different
    rw [path_mem_preorder ordered, find?_below located more,
      Option.isSome_iff_exists] at known
    rcases known with ⟨⟨value, children⟩, met'⟩
    rcases List.eq_nil_or_concat' rest with rfl | ⟨between, name, rfl⟩
    · exact absurd rfl more
    · refine ⟨⟨entry.path ++ between, name, value, children⟩, ?_, ?_⟩
      · exact (mem_preorder inner).2
          ⟨between ++ [name], List.append_assoc _ _ _, met'⟩
      · exact List.append_assoc _ _ _

theorem path_mem_postorder {forest : Forest α} {path : List String} :
    path ∈ (postorder [] forest).map Entry.path ↔
      path ∈ (preorder [] forest).map Entry.path :=
  ((postorder_perm [] forest).map _).mem_iff

/-- In post-order the paths below a path stand together, right before it. -/
theorem postorder_below {forest : Forest α} (ordered : forest.Ordered)
    {path : List String}
    (member : path ∈ (postorder [] forest).map Entry.path) :
    ∃ front block behind,
      (postorder [] forest).map Entry.path =
        front ++ (block ++ path :: behind) ∧
      ∀ other, other ∈ block ↔
        other ∈ (postorder [] forest).map Entry.path ∧ path <+: other ∧
          other ≠ path := by
  rcases List.mem_map.1 member with ⟨entry, among, rfl⟩
  rcases exists_postorder_eq among with ⟨front, behind, split⟩
  refine ⟨front.map Entry.path,
    (postorder entry.path entry.children).map Entry.path,
    behind.map Entry.path, ?_, fun other => ?_⟩
  · rw [split, List.map_append, List.map_append, List.map_cons]
  · rw [path_mem_postorder_below ordered, path_mem_postorder]
    exact (postorder_perm [] forest).mem_iff.1 among

/-- In post-order the paths at and below a sibling with an earlier name stand
before those at and below one with a later name. -/
theorem postorder_beside {forest : Forest α} (ordered : forest.Ordered)
    {above : List String} {name later : String} (less : name < later)
    {path other : List String}
    (member : path ∈ (postorder [] forest).map Entry.path)
    (first : above ++ [name] <+: path)
    (member' : other ∈ (postorder [] forest).map Entry.path)
    (second : above ++ [later] <+: other) :
    [path, other].Sublist ((postorder [] forest).map Entry.path) := by
  rcases first with ⟨below, rfl⟩
  rcases second with ⟨below', rfl⟩
  rw [List.append_assoc, List.singleton_append] at member ⊢ member'
  rw [List.append_assoc, List.singleton_append]
  have apart : above ++ name :: below < above ++ later :: below' :=
    append_cons_lt less below below'
  exact pair_sublist_of_pairwise
    (List.pairwise_map.2 (pairwise_postorder ordered [])) member member'
    (Std.ne_of_lt apart) (not_closesBefore_append_cons less below below')

end Forest

end ModuleAtlas
