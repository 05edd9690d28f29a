import ModuleAtlas.Graph.Condensation
import ModuleAtlas.Proofs.Graph.MutualGroups
import ModuleAtlas.Proofs.Keyed

/-!
# The units of a dependency graph

The units into which a graph is condensed are the classes of components that
depend on each other, directly or through others.  A unit depends on another
one when one of its members depends on a member of the other, and it stands
behind all units that it depends on.  All of this holds of every graph, also
of one whose components name dependencies that are no components.
-/

namespace ModuleAtlas

open Relation

namespace DependencyGraph

variable {graph : DependencyGraph}

/-- A component depends on an id directly. -/
def DependsOn (graph : DependencyGraph) (id target : String) : Prop :=
  target ∈ graph.dependencies id

/-- A component depends on an id, directly or through others, or is it. -/
def Reaches (graph : DependencyGraph) : String → String → Prop :=
  ReflTransGen graph.DependsOn

/-- Two components depend on each other, or are the same. -/
def Mutual (graph : DependencyGraph) (left right : String) : Prop :=
  graph.Reaches left right ∧ graph.Reaches right left

theorem ids_nodup : graph.ids.Nodup := graph.components.names_nodup

/-- Only components depend on something. -/
theorem DependsOn.known {id target : String}
    (depends : graph.DependsOn id target) : id ∈ graph.ids := by
  unfold DependsOn dependencies at depends
  split at depends
  · next component found => exact Keyed.mem_names.2 ⟨component, found⟩
  · exact absurd depends List.not_mem_nil

@[simp]
theorem mem_targets {id target : String} :
    target ∈ graph.targets id ↔
      graph.DependsOn id target ∧ target ∈ graph.ids := by
  simp [targets, DependsOn, ids, Keyed.contains_iff]

theorem mem_sources_insert {id other target : String}
    (names : List String) :
    ∀ table : Keyed (List String),
      other ∈ sources (names.foldl (fun table name =>
          table.insert name (id :: (table.find? name).getD [])) table)
        target ↔
      (other = id ∧ target ∈ names) ∨ other ∈ sources table target := by
  induction names with
  | nil => simp
  | cons name rest step =>
    intro table
    rw [List.foldl_cons, step]
    by_cases same : name = target
    · subst same
      simp only [sources, Keyed.find?_insert, if_true, Option.getD_some,
        List.mem_cons, true_or, and_true]
      constructor
      · rintro (⟨first, _⟩ | second)
        · exact Or.inl first
        · exact second
      · exact Or.inr
    · simp [sources, same, Ne.symm same]

theorem mem_sources_dependents {id target : String} :
    id ∈ sources graph.dependents target ↔ target ∈ graph.targets id := by
  have rows : ∀ names : List String,
      id ∈ sources (names.foldr (fun id table =>
          (graph.targets id).foldl (fun table name =>
            table.insert name (id :: (table.find? name).getD [])) table)
          .empty) target ↔
        id ∈ names ∧ target ∈ graph.targets id := by
    intro names
    induction names with
    | nil => simp [sources]
    | cons name rest step =>
      rw [List.foldr_cons, mem_sources_insert, step, List.mem_cons]
      constructor
      · rintro (⟨rfl, member⟩ | ⟨inside, member⟩)
        · exact ⟨Or.inl rfl, member⟩
        · exact ⟨Or.inr inside, member⟩
      · rintro ⟨rfl | inside, member⟩
        · exact Or.inl ⟨rfl, member⟩
        · exact Or.inr ⟨inside, member⟩
  refine (rows graph.ids).trans ⟨And.right, fun member => ⟨?_, member⟩⟩
  exact (mem_targets.1 member).1.known

/-- Between components, the searches follow the dependencies. -/
theorem reaches_targets {id target : String} (known : target ∈ graph.ids) :
    Search.Reaches graph.targets id target ↔ graph.Reaches id target := by
  constructor
  · intro walk
    exact ReflTransGen.mono (fun _ _ arrow => (mem_targets.1 arrow).1) _ _
      walk
  · intro walk
    induction walk with
    | refl => exact ReflTransGen.refl
    | tail _ depends step =>
      exact ReflTransGen.tail (step depends.known)
        (mem_targets.2 ⟨depends, known⟩)

theorem mutual_targets {left right : String} (left_known : left ∈ graph.ids)
    (right_known : right ∈ graph.ids) :
    Search.Mutual graph.targets left right ↔ graph.Mutual left right :=
  and_congr (reaches_targets right_known) (reaches_targets left_known)

/-- What depends on a component and is depended on by it is a component. -/
theorem Mutual.known {left right : String} (both : graph.Mutual left right)
    (left_known : left ∈ graph.ids) : right ∈ graph.ids := by
  rcases ReflTransGen.cases_head both.2 with same | ⟨middle, depends, _⟩
  · exact same ▸ left_known
  · exact depends.known

/-- The groups of components that depend on each other divide them. -/
theorem mutualGroups_division :
    Search.Division graph.targets graph.ids graph.mutualGroups := by
  apply Search.collect_division (fun id target => mem_sources_dependents)
    ids_nodup
  · intro id _ target arrow
    exact (mem_targets.1 arrow).2
  · intro target _ id arrow
    exact (mem_targets.1 (mem_sources_dependents.1 arrow)).1.known
  · apply le_of_eq
    simp [ids, Keyed.names, Keyed.size]

/-! ## Units of groups -/

theorem map_fst_keyRows (group : List String) :
    (keyRows group).map Prod.fst = (NameSet.ofList group).names := by
  unfold keyRows
  split
  · next empty => rw [empty, List.map_nil]
  · next key others filled => simp [filled, Function.comp_def]

theorem mem_keyRows {group : List String} {id key : String} :
    (id, key) ∈ keyRows group ↔
      id ∈ group ∧ (NameSet.ofList group).names.head? = some key := by
  rw [← NameSet.mem_ofList, ← NameSet.mem_names]
  unfold keyRows
  split
  · next empty => simp [empty]
  · next first others filled =>
    rw [filled, List.head?_cons, Option.some_inj, List.mem_map]
    constructor
    · rintro ⟨name, member, same⟩
      cases same
      exact ⟨member, rfl⟩
    · rintro ⟨member, rfl⟩
      exact ⟨id, member, rfl⟩

theorem flatMap_names_perm (groups : List (List String)) :
    (∀ group ∈ groups, group.Nodup) →
      (groups.flatMap fun group => (NameSet.ofList group).names).Perm
        groups.flatten := by
  induction groups with
  | nil => exact fun _ => List.Perm.refl _
  | cons group rest step =>
    intro distinct
    rw [List.flatMap_cons, List.flatten_cons]
    apply List.Perm.append
    · exact NameSet.names_ofList_perm (distinct group List.mem_cons_self)
    · apply step
      intro other member
      exact distinct other (List.mem_cons_of_mem _ member)

theorem find?_groupKeys {groups : List (List String)}
    (distinct : groups.flatten.Nodup) {id key : String} :
    (groupKeys groups).find? id = some key ↔
      ∃ group ∈ groups, id ∈ group ∧
        (NameSet.ofList group).names.head? = some key := by
  have names_distinct : ((groups.flatMap keyRows).map Prod.fst).Nodup := by
    rw [List.map_flatMap]
    simp only [map_fst_keyRows]
    exact (flatMap_names_perm groups
      (List.nodup_flatten.1 distinct).1).nodup_iff.2 distinct
  rw [groupKeys, Keyed.find?_ofList names_distinct, List.mem_flatMap]
  simp only [mem_keyRows]

/-- A group with members gives a unit of them. -/
theorem unitOfGroup_eq_some (graph : DependencyGraph)
    (keyOf : Keyed String) {group : List String} (filled : group ≠ []) :
    ∃ unit, graph.unitOfGroup keyOf group = some unit ∧
      unit.members = (NameSet.ofList group).names ∧
      ∀ key, key ∈ unit.dependsOn ↔ key ≠ unit.key ∧
        ∃ id ∈ unit.members, ∃ target, graph.DependsOn id target ∧
          keyOf.find? target = some key := by
  rcases List.exists_cons_of_ne_nil filled with ⟨first, rest, rfl⟩
  have inside : first ∈ (NameSet.ofList (first :: rest)).names :=
    NameSet.mem_ofList.2 List.mem_cons_self
  unfold unitOfGroup
  split
  · next empty =>
    rw [empty] at inside
    exact absurd inside List.not_mem_nil
  · next key others names =>
    refine ⟨_, rfl, names.symm, ?_⟩
    intro name
    simp only [NameSet.mem_ofList, List.mem_filter, List.mem_flatMap,
      List.mem_filterMap, decide_eq_true_eq, OrderingUnit.members]
    exact and_comm

theorem mem_members_of_unitOfGroup {keyOf : Keyed String}
    {group : List String} {unit : OrderingUnit} (filled : group ≠ [])
    (made : graph.unitOfGroup keyOf group = some unit) (id : String) :
    id ∈ unit.members ↔ id ∈ group := by
  rcases graph.unitOfGroup_eq_some keyOf filled with ⟨unit', made', members, -⟩
  cases made.symm.trans made'
  rw [members]
  exact NameSet.mem_ofList

theorem members_units_perm {keyOf : Keyed String}
    (groups : List (List String)) :
    (∀ group ∈ groups, group ≠ []) → (∀ group ∈ groups, group.Nodup) →
      ((groups.filterMap (graph.unitOfGroup keyOf)).flatMap
        OrderingUnit.members).Perm groups.flatten := by
  induction groups with
  | nil => exact fun _ _ => List.Perm.refl _
  | cons group rest step =>
    intro filled distinct
    rcases graph.unitOfGroup_eq_some keyOf (filled group List.mem_cons_self)
      with ⟨unit, made, members, -⟩
    rw [List.filterMap_cons_some made, List.flatMap_cons, members,
      List.flatten_cons]
    apply List.Perm.append
    · exact NameSet.names_ofList_perm (distinct group List.mem_cons_self)
    · apply step
      · intro other member
        exact filled other (List.mem_cons_of_mem _ member)
      · intro other member
        exact distinct other (List.mem_cons_of_mem _ member)

/-! ## The condensation -/

/-- Blocks of components, each the ascending list of a class of components that
depend on each other. -/
structure Classes (graph : DependencyGraph) (blocks : List (List String)) :
    Prop where
  members : blocks.flatten.Perm graph.ids
  nonempty : ∀ block ∈ blocks, block ≠ []
  ascending : ∀ block ∈ blocks, block.Pairwise (· < ·)
  related : ∀ block ∈ blocks, ∀ id ∈ block, ∀ other,
    other ∈ block ↔ graph.Mutual id other

theorem Classes.subset {blocks others : List (List String)}
    (left : graph.Classes blocks) (right : graph.Classes others)
    {block : List String} (member : block ∈ blocks) : block ∈ others := by
  rcases List.exists_cons_of_ne_nil (left.nonempty block member)
    with ⟨id, rest, rfl⟩
  have known : id ∈ graph.ids := left.members.mem_iff.1
    (List.mem_flatten_of_mem member List.mem_cons_self)
  rcases List.mem_flatten.1 (right.members.mem_iff.2 known)
    with ⟨other, other_member, inside⟩
  have same : id :: rest = other := by
    apply NameSet.names_ext (left.ascending _ member)
      (right.ascending other other_member)
    intro name
    rw [left.related _ member id List.mem_cons_self name,
      right.related other other_member id inside name]
  exact same ▸ other_member

theorem Classes.nodup {blocks : List (List String)}
    (classes : graph.Classes blocks) : blocks.Nodup := by
  have distinct := classes.members.nodup_iff.2 ids_nodup
  apply (List.nodup_flatten.1 distinct).2.imp_of_mem
  intro block other member _ disjoint same
  subst same
  exact classes.nonempty block member
    (List.eq_nil_iff_forall_not_mem.2 fun id inside =>
      disjoint inside inside)

/-- There is one way to divide the components into their classes, up to the
order of the blocks. -/
theorem Classes.perm {blocks others : List (List String)}
    (left : graph.Classes blocks) (right : graph.Classes others) :
    blocks.Perm others := by
  rw [List.perm_ext_iff_of_nodup left.nodup right.nodup]
  intro block
  constructor
  · exact left.subset right
  · exact right.subset left

theorem Classes.of_perm {blocks others : List (List String)}
    (classes : graph.Classes blocks) (same : others.Perm blocks) :
    graph.Classes others where
  members := same.flatten.trans classes.members
  nonempty := fun block member =>
    classes.nonempty block (same.mem_iff.1 member)
  ascending := fun block member =>
    classes.ascending block (same.mem_iff.1 member)
  related := fun block member =>
    classes.related block (same.mem_iff.1 member)

/-- The units of a condensation are the classes of components that depend on
each other, and each stands behind the units it depends on. -/
structure Condenses (graph : DependencyGraph)
    (condensation : Condensation) : Prop where
  classes : graph.Classes (condensation.units.map OrderingUnit.members)
  dependsOn : ∀ unit ∈ condensation.units, ∀ key,
    key ∈ unit.dependsOn ↔ key ≠ unit.key ∧
      ∃ id ∈ unit.members, ∃ target, graph.DependsOn id target ∧
        ∃ other ∈ condensation.units, target ∈ other.members ∧
          other.key = key
  ordered : condensation.units.Pairwise fun earlier later =>
    ∀ id ∈ earlier.members, ∀ target ∈ later.members,
      ¬ graph.DependsOn id target

theorem mutualGroups_nodup : graph.mutualGroups.flatten.Nodup :=
  graph.mutualGroups_division.members.nodup_iff.2 ids_nodup

/-- Every unit has a group of components, whose members it lists. -/
theorem exists_group_of_unit {unit : OrderingUnit}
    (member : unit ∈ graph.condense.units) :
    ∃ group ∈ graph.mutualGroups,
      (∀ id, id ∈ unit.members ↔ id ∈ group) ∧
      unit.members = (NameSet.ofList group).names ∧
      ∀ key, key ∈ unit.dependsOn ↔ key ≠ unit.key ∧
        ∃ id ∈ unit.members, ∃ target, graph.DependsOn id target ∧
          (groupKeys graph.mutualGroups).find? target = some key := by
  rcases List.mem_filterMap.1 member with ⟨group, inside, made⟩
  have filled := graph.mutualGroups_division.nonempty group inside
  rcases graph.unitOfGroup_eq_some (groupKeys graph.mutualGroups) filled
    with ⟨unit', made', members, dependsOn⟩
  cases made.symm.trans made'
  exact ⟨group, inside, mem_members_of_unitOfGroup filled made, members,
    dependsOn⟩

/-- Every group of components has a unit, which lists its members. -/
theorem exists_unit_of_group {group : List String}
    (member : group ∈ graph.mutualGroups) :
    ∃ unit ∈ graph.condense.units, (∀ id, id ∈ unit.members ↔ id ∈ group) ∧
      (NameSet.ofList group).names.head? = some unit.key := by
  rcases graph.unitOfGroup_eq_some (groupKeys graph.mutualGroups)
      (graph.mutualGroups_division.nonempty group member)
    with ⟨unit, made, members, -⟩
  refine ⟨unit, List.mem_filterMap.2 ⟨group, member, made⟩, ?_, ?_⟩
  · intro id
    rw [members]
    exact NameSet.mem_ofList
  · rw [← members]
    rfl

/-- The name of a component's unit, looked up among the groups. -/
theorem find?_groupKeys_mutualGroups {id key : String} :
    (groupKeys graph.mutualGroups).find? id = some key ↔
      ∃ unit ∈ graph.condense.units, id ∈ unit.members ∧ unit.key = key := by
  rw [find?_groupKeys graph.mutualGroups_nodup]
  constructor
  · rintro ⟨group, member, inside, head⟩
    rcases exists_unit_of_group member with ⟨unit, made, members, key_eq⟩
    exact ⟨unit, made, (members id).2 inside,
      Option.some_inj.1 (key_eq.symm.trans head)⟩
  · rintro ⟨unit, made, inside, same⟩
    rcases exists_group_of_unit made with ⟨group, member, members, names, -⟩
    refine ⟨group, member, (members id).1 inside, ?_⟩
    rw [← names, ← same]
    rfl

theorem condense_condenses : graph.Condenses graph.condense := by
  have division := graph.mutualGroups_division
  have known : ∀ group ∈ graph.mutualGroups, ∀ id ∈ group, id ∈ graph.ids :=
    fun group member id inside =>
      division.members.mem_iff.1 (List.mem_flatten_of_mem member inside)
  constructor
  case classes =>
    constructor
    case members =>
      rw [← List.flatMap_def]
      exact (members_units_perm graph.mutualGroups division.nonempty
        (List.nodup_flatten.1 mutualGroups_nodup).1).trans division.members
    case nonempty =>
      intro block member
      rcases List.mem_map.1 member with ⟨unit, -, rfl⟩
      exact List.cons_ne_nil _ _
    case ascending =>
      intro block member
      rcases List.mem_map.1 member with ⟨unit, made, rfl⟩
      rcases exists_group_of_unit made with ⟨group, -, -, names, -⟩
      rw [names]
      exact (NameSet.ofList group).ascending
    case related =>
      intro block member id inside other
      rcases List.mem_map.1 member with ⟨unit, made, rfl⟩
      rcases exists_group_of_unit made with ⟨group, group_in, members, -⟩
      have id_inside := (members id).1 inside
      have id_known := known group group_in id id_inside
      rw [members other, division.classes group group_in id id_inside other]
      constructor
      · intro both
        have other_inside :=
          (division.classes group group_in id id_inside other).2 both
        exact (mutual_targets id_known
          (known group group_in other other_inside)).1 both
      · intro both
        exact (mutual_targets id_known (both.known id_known)).2 both
  case dependsOn =>
    intro unit made key
    rcases exists_group_of_unit made with ⟨group, -, -, -, dependsOn⟩
    rw [dependsOn key]
    simp only [find?_groupKeys_mutualGroups]
  case ordered =>
    refine List.Pairwise.filterMap _ ?_
      (List.Pairwise.and_mem.1 division.ordered)
    intro earlier later both unit made unit' made' id inside target
      target_inside depends
    rcases both with ⟨earlier_in, later_in, apart⟩
    have id_in := (mem_members_of_unitOfGroup
      (division.nonempty earlier earlier_in) made id).1 inside
    have target_in := (mem_members_of_unitOfGroup
      (division.nonempty later later_in) made' target).1 target_inside
    exact apart id id_in target target_in
      (mem_targets.2 ⟨depends, known later later_in target target_in⟩)

end DependencyGraph

end ModuleAtlas
