import ModuleAtlas.Proofs.Graph.Arrangement
import ModuleAtlas.Proofs.Graph.Edges

/-!
# The units are the strongly connected components

Every component belongs to one unit of the condensed graph, the unit that is
looked up for it, and two components belong to the same unit exactly when each
of them is reached from the other along dependencies.  Nothing is assumed of
the graph: dependencies on ids that are no components lead nowhere, and a
component that depends on itself only is a unit of its own.
-/

namespace ModuleAtlas

namespace DependencyGraph

variable {graph : DependencyGraph}

/-- The unit that is looked up for an id is the one that lists it. -/
theorem unitOf?_eq_some {id : String} {unit : OrderingUnit} :
    graph.condense.unitOf? id = some unit ↔
      unit ∈ graph.condense.units ∧ id ∈ unit.members := by
  have condenses := graph.condense_condenses
  have keyed : ∀ key, graph.condense.keyOf.find? id = some key ↔
      ∃ unit ∈ graph.condense.units, id ∈ unit.members ∧ unit.key = key :=
    fun _ => find?_groupKeys_mutualGroups
  rw [Condensation.unitOf?, Option.bind_eq_some_iff]
  constructor
  · rintro ⟨key, named, found⟩
    rcases (keyed key).1 named with ⟨owner, made, inside, rfl⟩
    have same : owner = unit := Option.some.inj
      ((Condensation.find?_of_mem condenses.keys_nodup made).symm.trans found)
    exact same ▸ ⟨made, inside⟩
  · rintro ⟨made, inside⟩
    exact ⟨unit.key, (keyed unit.key).2 ⟨unit, made, inside, rfl⟩,
      Condensation.find?_of_mem condenses.keys_nodup made⟩

/-- The members of a unit are what each of them is mutually reachable with. -/
theorem mem_members_iff {unit : OrderingUnit}
    (made : unit ∈ graph.condense.units) {id : String}
    (inside : id ∈ unit.members) (other : String) :
    other ∈ unit.members ↔ graph.Mutual id other :=
  graph.condense_condenses.classes.related _ (List.mem_map_of_mem made) id
    inside other

theorem members_perm :
    (graph.condense.units.flatMap OrderingUnit.members).Perm graph.ids := by
  rw [List.flatMap_def]
  exact graph.condense_condenses.classes.members

/-- An id has a unit exactly when it is a component. -/
theorem isSome_unitOf? {id : String} :
    (graph.condense.unitOf? id).isSome = true ↔ id ∈ graph.ids := by
  rw [Option.isSome_iff_exists, ← members_perm.mem_iff, List.mem_flatMap]
  exact exists_congr fun _ => unitOf?_eq_some

/-- Two ids are in one unit exactly when they are components that lead to each
other. -/
theorem share_unit_iff {id other : String} :
    (∃ unit ∈ graph.condense.units,
        id ∈ unit.members ∧ other ∈ unit.members) ↔
      id ∈ graph.ids ∧ other ∈ graph.ids ∧
        graph.Reaches id other ∧ graph.Reaches other id := by
  constructor
  · rintro ⟨unit, made, inside, beside⟩
    have known : id ∈ graph.ids :=
      members_perm.mem_iff.1 (List.mem_flatMap.2 ⟨unit, made, inside⟩)
    have both : graph.Mutual id other :=
      (mem_members_iff made inside other).1 beside
    exact ⟨known, both.known known, both⟩
  · rintro ⟨known, _, both⟩
    rcases List.mem_flatMap.1 (members_perm.mem_iff.2 known) with
      ⟨unit, made, inside⟩
    exact ⟨unit, made, inside, (mem_members_iff made inside other).2 both⟩

/-- The units hold every component once.  A component is looked up in the unit
that lists it, no other id has a unit, and a unit is what can be reached from
each of its members and leads back to it.  Members are listed in strictly
ascending order; a unit is no cycle exactly when it has one member. -/
theorem units_stronglyConnected (graph : DependencyGraph) :
    (graph.condense.units.flatMap OrderingUnit.members).Perm graph.ids ∧
    (graph.condense.units.flatMap OrderingUnit.members).Nodup ∧
    (∀ id unit, graph.condense.unitOf? id = some unit ↔
      unit ∈ graph.condense.units ∧ id ∈ unit.members) ∧
    (∀ id, (graph.condense.unitOf? id).isSome = true ↔ id ∈ graph.ids) ∧
    (∀ id other,
      (∃ unit ∈ graph.condense.units,
        id ∈ unit.members ∧ other ∈ unit.members) ↔
      id ∈ graph.ids ∧ other ∈ graph.ids ∧
        graph.Reaches id other ∧ graph.Reaches other id) ∧
    ∀ unit ∈ graph.condense.units,
      unit.members.Pairwise (· < ·) ∧
      (unit.isCycle = false ↔ unit.members.length = 1) := by
  refine ⟨members_perm, members_perm.nodup_iff.2 ids_nodup,
    fun _ _ => unitOf?_eq_some, fun _ => isSome_unitOf?,
    fun _ _ => share_unit_iff, ?_⟩
  intro unit made
  refine ⟨graph.condense_condenses.classes.ascending _
    (List.mem_map_of_mem made), ?_⟩
  rw [OrderingUnit.isCycle, OrderingUnit.members, List.length_cons]
  cases unit.others <;> simp

namespace Sample

/-- A cycle of two components, and one that depends on it. -/
def circle : DependencyGraph :=
  build functions
    [call "a.A" "x.H", call "x.H" "a.A", call "y.H" "a.A"]

end Sample

/-- The two members of the cycle, each reached from the other. -/
theorem units_stronglyConnected_circle :
    ∃ unit ∈ Sample.circle.condense.units,
      unit.members = ["a.A", "x.H"] ∧ unit.isCycle = true ∧
      unit.members.Pairwise (· < ·) ∧
      Sample.circle.Reaches "a.A" "x.H" ∧
      Sample.circle.Reaches "x.H" "a.A" := by
  rcases units_stronglyConnected Sample.circle with
    ⟨_, _, _, _, shared, units⟩
  have made : ∃ unit ∈ Sample.circle.condense.units,
      unit.members = ["a.A", "x.H"] ∧ unit.isCycle = true := by
    decide +kernel
  rcases made with ⟨unit, made, members, cycle⟩
  have both := (shared "a.A" "x.H").1
    ⟨unit, made, by simp [members], by simp [members]⟩
  exact ⟨unit, made, members, cycle, (units unit made).1, both.2.2⟩

end DependencyGraph

end ModuleAtlas
