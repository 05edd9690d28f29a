import ModuleAtlas.Proofs.Graph.Placement

/-!
# The dependency-first order is the least arrangement

An arrangement of a graph lists the classes of components that depend on each
other, each class as one ascending block behind all blocks that it depends on.
The dependency-first order is an arrangement written out, and among all of
them the one whose list of first ids comes first.  It does not depend on how
the units of the graph are numbered.
-/

namespace ModuleAtlas

namespace DependencyGraph

variable {graph : DependencyGraph}

/-- The components in blocks of those that depend on each other, each block
behind the blocks it depends on. -/
structure Arrangement (graph : DependencyGraph)
    (blocks : List (List String)) : Prop where
  classes : graph.Classes blocks
  follows : blocks.Pairwise fun earlier later =>
    ∀ id ∈ earlier, ∀ target ∈ later, ¬ graph.DependsOn id target

/-- The smallest id of every block. -/
def leaders (blocks : List (List String)) : List String :=
  blocks.filterMap List.head?

theorem leaders_members (units : List OrderingUnit) :
    leaders (units.map OrderingUnit.members) =
      units.map OrderingUnit.key := by
  simp [leaders, List.filterMap_map, Function.comp_def,
    OrderingUnit.members]

theorem leaders_sublist (blocks : List (List String)) :
    (leaders blocks).Sublist blocks.flatten := by
  induction blocks with
  | nil => exact List.Sublist.refl _
  | cons block rest step =>
    cases block with
    | nil => exact step
    | cons id others =>
      exact (step.trans (List.sublist_append_right _ _)).cons_cons id

theorem Classes.leaders_nodup {blocks : List (List String)}
    (classes : graph.Classes blocks) : (leaders blocks).Nodup :=
  (classes.members.nodup_iff.2 ids_nodup).sublist (leaders_sublist blocks)

namespace Condenses

variable {condensation : Condensation}

theorem keys_nodup (condenses : graph.Condenses condensation) :
    (condensation.units.map OrderingUnit.key).Nodup := by
  rw [← leaders_members]
  exact condenses.classes.leaders_nodup

theorem eq_of_key (condenses : graph.Condenses condensation)
    {left right : OrderingUnit} (left_made : left ∈ condensation.units)
    (right_made : right ∈ condensation.units)
    (same : left.key = right.key) : left = right := by
  have left_found :=
    Condensation.find?_of_mem condenses.keys_nodup left_made
  have right_found :=
    Condensation.find?_of_mem condenses.keys_nodup right_made
  rw [same] at left_found
  exact Option.some_inj.1 (left_found.symm.trans right_found)

/-- A unit needs another one when some member of it depends on a member of the
other. -/
theorem mem_needs (condenses : graph.Condenses condensation)
    {unit other : OrderingUnit} (made : unit ∈ condensation.units)
    (other_made : other ∈ condensation.units) :
    other.key ∈ condensation.needs unit.key ↔ other.key ≠ unit.key ∧
      ∃ id ∈ unit.members, ∃ target ∈ other.members,
        graph.DependsOn id target := by
  rw [Condensation.needs_of_mem condenses.keys_nodup made,
    condenses.dependsOn unit made]
  apply and_congr_right
  intro _
  constructor
  · rintro ⟨id, inside, target, depends, found, found_made, target_in, same⟩
    rw [condenses.eq_of_key found_made other_made same] at target_in
    exact ⟨id, inside, target, target_in, depends⟩
  · rintro ⟨id, inside, target, target_in, depends⟩
    exact ⟨id, inside, target, depends, other, other_made, target_in, rfl⟩

/-- A unit needs units only. -/
theorem exists_unit_of_mem_needs (condenses : graph.Condenses condensation)
    {unit : OrderingUnit} (made : unit ∈ condensation.units) {key : String}
    (needed : key ∈ condensation.needs unit.key) :
    ∃ other ∈ condensation.units, other.key = key := by
  rw [Condensation.needs_of_mem condenses.keys_nodup made,
    condenses.dependsOn unit made] at needed
  rcases needed with ⟨-, id, -, target, -, other, other_made, -, same⟩
  exact ⟨other, other_made, same⟩

/-- In an order of all units, every unit comes after the units it needs
exactly when no unit stands before one that it depends on. -/
theorem follows_iff (condenses : graph.Condenses condensation)
    {order : List OrderingUnit} (all : order.Perm condensation.units) :
    WaitingUnit.Follows condensation.needs [] (order.map OrderingUnit.key) ↔
      order.Pairwise fun earlier later =>
        ∀ id ∈ earlier.members, ∀ target ∈ later.members,
          ¬ graph.DependsOn id target := by
  have distinct : (order.map OrderingUnit.key).Nodup :=
    (all.map OrderingUnit.key).nodup_iff.2 condenses.keys_nodup
  have made {unit : OrderingUnit} (member : unit ∈ order) :
      unit ∈ condensation.units := all.mem_iff.1 member
  constructor
  · intro follows
    have apart := List.pairwise_map.1
      (follows.pairwise distinct fun _ _ => List.not_mem_nil)
    have different := List.pairwise_map.1 distinct
    apply (List.Pairwise.and_mem.1 (apart.and different)).imp
    intro earlier later both id inside target target_in depends
    rcases both with ⟨earlier_in, later_in, spared, unlike⟩
    exact spared ((condenses.mem_needs (made earlier_in) (made later_in)).2
      ⟨unlike.symm, id, inside, target, target_in, depends⟩)
  · intro apart
    apply WaitingUnit.follows_of_pairwise
    · rw [List.pairwise_map]
      apply (List.Pairwise.and_mem.1 apart).imp
      intro earlier later both needed
      rcases both with ⟨earlier_in, later_in, spared⟩
      rcases (condenses.mem_needs (made earlier_in) (made later_in)).1 needed
        with ⟨-, id, inside, target, target_in, depends⟩
      exact spared id inside target target_in depends
    · intro key member needed
      rcases List.mem_map.1 member with ⟨unit, unit_in, rfl⟩
      exact ((condenses.mem_needs (made unit_in) (made unit_in)).1 needed).1
        rfl
    · intro key member name needed
      rcases List.mem_map.1 member with ⟨unit, unit_in, rfl⟩
      rcases condenses.exists_unit_of_mem_needs (made unit_in) needed
        with ⟨other, other_made, rfl⟩
      exact Or.inr (List.mem_map_of_mem (all.mem_iff.2 other_made))

/-- An arrangement is an order of the units, written as blocks of members. -/
theorem arrangement_iff (condenses : graph.Condenses condensation)
    {blocks : List (List String)} :
    graph.Arrangement blocks ↔ ∃ order : List OrderingUnit,
      order.Perm condensation.units ∧
      blocks = order.map OrderingUnit.members ∧
      WaitingUnit.Follows condensation.needs []
        (order.map OrderingUnit.key) := by
  constructor
  · intro arrangement
    have all := arrangement.classes.perm condenses.classes
    have factors := congrFun (congrFun
      (List.eq_map_comp_perm OrderingUnit.members) blocks) condensation.units
    rcases factors.mpr all with ⟨order, rfl, same⟩
    refine ⟨order, same, rfl, (condenses.follows_iff same).2 ?_⟩
    exact List.pairwise_map.1 arrangement.follows
  · rintro ⟨order, same, rfl, follows⟩
    constructor
    · exact condenses.classes.of_perm (same.map OrderingUnit.members)
    · rw [List.pairwise_map]
      exact (condenses.follows_iff same).1 follows

/-- The units of a condensation are all placed, in an order that comes first
among all orders in which they can be placed. -/
theorem arranged_spec (condenses : graph.Condenses condensation)
    {order : List OrderingUnit} (all : order.Perm condensation.units)
    (follows : WaitingUnit.Follows condensation.needs []
      (order.map OrderingUnit.key)) :
    condensation.arranged.Perm condensation.units ∧
      WaitingUnit.Follows condensation.needs []
        (condensation.arranged.map OrderingUnit.key) ∧
      NotAfter (condensation.arranged.map OrderingUnit.key)
        (order.map OrderingUnit.key) := by
  have names : (order.map OrderingUnit.key).Perm
      (condensation.waiting.map WaitingUnit.key) :=
    (all.map OrderingUnit.key).trans
      (Condensation.waiting_keys_perm condenses.keys_nodup).symm
  rcases WaitingUnit.arrange_spec
      condensation.waiting.length rfl
      (Condensation.waiting_counted condenses.keys_nodup) names follows
    with ⟨placed, order_follows, least⟩
  refine ⟨placed.trans ?_, order_follows, least⟩
  unfold Condensation.waiting
  rw [List.map_map]
  have units : condensation.byKey.map
      (WaitingUnit.unit ∘ WaitingUnit.ofUnit) = condensation.byKey :=
    List.map_id _
  rw [units]
  exact Condensation.byKey_perm condenses.keys_nodup

/-- Placing all units gives an arrangement. -/
theorem arrangement_arranged (condenses : graph.Condenses condensation) :
    condensation.arranged.Perm condensation.units ∧
      graph.Arrangement
        (condensation.arranged.map OrderingUnit.members) := by
  have follows := (condenses.follows_iff (List.Perm.refl _)).2
    condenses.ordered
  rcases condenses.arranged_spec (List.Perm.refl _) follows
    with ⟨all, order_follows, -⟩
  exact ⟨all, condenses.arrangement_iff.2 ⟨_, all, rfl, order_follows⟩⟩

/-- No arrangement comes before the one that placing all units gives. -/
theorem arranged_notAfter (condenses : graph.Condenses condensation)
    {blocks : List (List String)} (arrangement : graph.Arrangement blocks) :
    NotAfter (condensation.arranged.map OrderingUnit.key)
      (leaders blocks) := by
  rcases condenses.arrangement_iff.1 arrangement with ⟨order, all, rfl, follows⟩
  rw [leaders_members]
  exact (condenses.arranged_spec all follows).2.2

/-- The order of the units does not depend on how they are numbered. -/
theorem arranged_eq_of_perm (condenses : graph.Condenses condensation)
    {other : Condensation}
    (same : other.units.Perm condensation.units) :
    other.arranged = condensation.arranged := by
  have byKey := Condensation.byKey_eq_of_perm condenses.keys_nodup same
  unfold Condensation.arranged Condensation.waiting
  rw [byKey]

/-- No counter falls below zero while the units are placed. -/
theorem remaining_nonneg (condenses : graph.Condenses condensation)
    {placed : List OrderingUnit} {waiting : List WaitingUnit}
    (placing : WaitingUnit.Placing condensation.waiting placed waiting)
    {waits : WaitingUnit} (member : waits ∈ waiting) :
    0 ≤ waits.remaining := by
  have counted := placing.counted
    (Condensation.waiting_counted condenses.keys_nodup)
  rw [counted.counted waits member]
  exact Int.natCast_nonneg _

end Condenses

/-! ## The order of the components -/

namespace Arrangement

variable {blocks : List (List String)}

/-- A component stands before one that it depends on only inside a cycle. -/
theorem pairwise (arrangement : graph.Arrangement blocks) :
    blocks.flatten.Pairwise fun earlier later =>
      graph.DependsOn earlier later → graph.Mutual earlier later := by
  rw [List.pairwise_flatten]
  constructor
  · intro block member
    apply List.pairwise_of_forall_mem_list
    intro id inside other other_inside _
    exact (arrangement.classes.related block member id inside other).1
      other_inside
  · apply arrangement.follows.imp
    intro earlier later apart id inside target target_inside depends
    exact absurd depends (apart id inside target target_inside)

/-- What a component depends on outside its own cycle comes before it. -/
theorem idxOf_lt (arrangement : graph.Arrangement blocks)
    {id target : String} (depends : graph.DependsOn id target)
    (known : target ∈ graph.ids) (apart : ¬ graph.Mutual id target) :
    blocks.flatten.idxOf target < blocks.flatten.idxOf id := by
  have all := arrangement.classes.members
  have id_bound := List.idxOf_lt_length_iff.2 (all.mem_iff.2 depends.known)
  have target_bound := List.idxOf_lt_length_iff.2 (all.mem_iff.2 known)
  rcases Nat.lt_trichotomy (blocks.flatten.idxOf target)
    (blocks.flatten.idxOf id) with before | same | behind
  · exact before
  · have equal := (List.idxOf_inj (all.mem_iff.2 known)).1 same
    exact absurd ⟨Relation.ReflTransGen.single depends,
      equal ▸ Relation.ReflTransGen.refl⟩ apart
  · have related := List.pairwise_iff_getElem.1 arrangement.pairwise
      _ _ id_bound target_bound behind
    rw [List.getElem_idxOf, List.getElem_idxOf] at related
    exact absurd (related depends) apart

/-- The members of the cycle of a component stand together, ascending. -/
theorem exists_block (arrangement : graph.Arrangement blocks) {id : String}
    (known : id ∈ graph.ids) :
    ∃ front block behind, blocks.flatten = front ++ block ++ behind ∧
      block.Pairwise (· < ·) ∧
      ∀ other, other ∈ block ↔ graph.Mutual id other := by
  rcases List.mem_flatten.1 (arrangement.classes.members.mem_iff.2 known)
    with ⟨block, member, inside⟩
  rcases List.append_of_mem member with ⟨before, after, rfl⟩
  refine ⟨before.flatten, block, after.flatten, by simp,
    arrangement.classes.ascending block member, ?_⟩
  exact arrangement.classes.related block member id inside

end Arrangement

theorem dependencyOrder_eq_flatten :
    graph.dependencyOrder =
      (graph.condense.arranged.map OrderingUnit.members).flatten :=
  List.flatMap_def

/-- The dependency-first order holds every component once, what a component
depends on outside its cycle before it and every cycle as one ascending block.
Its units are all units of the graph, in the arrangement whose list of names
comes first among all arrangements; neither the numbering of the units nor
anything but the components has a part in it, and no counter of a waiting unit
falls below zero. -/
theorem dependencyOrder_least_arrangement (graph : DependencyGraph) :
    graph.dependencyOrder.Perm graph.ids ∧ graph.dependencyOrder.Nodup ∧
    (∀ id target, graph.DependsOn id target → target ∈ graph.ids →
      ¬ graph.Mutual id target →
      graph.dependencyOrder.idxOf target <
        graph.dependencyOrder.idxOf id) ∧
    (∀ id ∈ graph.ids, ∃ front block behind,
      graph.dependencyOrder = front ++ block ++ behind ∧
      block.Pairwise (· < ·) ∧
      ∀ other, other ∈ block ↔ graph.Mutual id other) ∧
    graph.Arrangement
      (graph.condense.arranged.map OrderingUnit.members) ∧
    (∀ blocks, graph.Arrangement blocks →
      NotAfter (graph.condense.arranged.map OrderingUnit.key)
        (leaders blocks)) ∧
    graph.condense.arranged.Perm graph.condense.units ∧
    (∀ other : DependencyGraph, other.components = graph.components →
      ∀ condensation : Condensation,
        condensation.units.Perm other.condense.units →
        condensation.arranged.flatMap OrderingUnit.members =
          graph.dependencyOrder) ∧
    ∀ placed waiting,
      WaitingUnit.Placing graph.condense.waiting placed waiting →
      ∀ waits ∈ waiting, 0 ≤ waits.remaining := by
  have condenses := graph.condense_condenses
  rcases condenses.arrangement_arranged with ⟨placed, arrangement⟩
  rw [dependencyOrder_eq_flatten]
  have all := arrangement.classes.members
  refine ⟨all, all.nodup_iff.2 ids_nodup,
    fun id target depends known apart =>
      arrangement.idxOf_lt depends known apart,
    fun id known => arrangement.exists_block known, arrangement,
    fun blocks other => condenses.arranged_notAfter other, placed, ?_,
    fun placed waiting placing waits member =>
      condenses.remaining_nonneg placing member⟩
  intro other same condensation renumbered
  have condense_eq : other.condense = graph.condense := by
    cases other
    cases graph
    cases same
    rfl
  rw [condenses.arranged_eq_of_perm (condense_eq ▸ renumbered),
    List.flatMap_def]

end DependencyGraph

end ModuleAtlas
