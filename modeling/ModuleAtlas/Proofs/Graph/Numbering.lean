import ModuleAtlas.Proofs.Graph.Membership

/-!
# The numbering of the units

A unit is numbered by its index among the units of the condensed graph.  A unit
names another one exactly when one of its members depends on a member of the
other, and then the other has the smaller number.  So no unit leads back to
itself, and the cycles are listed behind all cycles that they lead to, be it
directly or through other units.
-/

namespace ModuleAtlas

open Relation

namespace Condensation

/-- The unit with one number names the unit with another one. -/
def DependsOn (condensation : Condensation) (number target : Nat) : Prop :=
  ∃ unit other, condensation.units[number]? = some unit ∧
    condensation.units[target]? = some other ∧ other.key ∈ unit.dependsOn

end Condensation

namespace DependencyGraph

variable {graph : DependencyGraph}

/-! ## Numbers of units -/

theorem units_nodup : graph.condense.units.Nodup :=
  List.Nodup.of_map _ graph.condense_condenses.keys_nodup

/-- A unit has one number. -/
theorem number_inj {number other : Nat} {unit : OrderingUnit}
    (at_number : graph.condense.units[number]? = some unit)
    (at_other : graph.condense.units[other]? = some unit) :
    number = other :=
  (List.getElem?_inj (List.getElem?_eq_some_iff.1 at_number).1
    units_nodup).1 (at_number.trans at_other.symm)

/-- A component is a member of one unit. -/
theorem unit_unique {unit other : OrderingUnit} {id : String}
    (made : unit ∈ graph.condense.units)
    (other_made : other ∈ graph.condense.units) (inside : id ∈ unit.members)
    (beside : id ∈ other.members) : unit = other :=
  Option.some.inj ((unitOf?_eq_some.2 ⟨made, inside⟩).symm.trans
    (unitOf?_eq_some.2 ⟨other_made, beside⟩))

theorem exists_number {id : String} (known : id ∈ graph.ids) :
    ∃ (number : Nat) (unit : OrderingUnit),
      graph.condense.units[number]? = some unit ∧ id ∈ unit.members := by
  rcases List.mem_flatMap.1 (members_perm.mem_iff.2 known) with
    ⟨unit, made, inside⟩
  rcases List.getElem?_of_mem made with ⟨number, at_number⟩
  exact ⟨number, unit, at_number, inside⟩

/-! ## Dependencies between numbers -/

/-- A unit names just the other units that its members depend on. -/
theorem condense_dependsOn_iff {number target : Nat} :
    graph.condense.DependsOn number target ↔ number ≠ target ∧
      ∃ unit other, graph.condense.units[number]? = some unit ∧
        graph.condense.units[target]? = some other ∧
        ∃ id ∈ unit.members, ∃ name ∈ other.members,
          graph.DependsOn id name := by
  have condenses := graph.condense_condenses
  constructor
  · rintro ⟨unit, other, at_number, at_target, named⟩
    have made := List.mem_of_getElem? at_number
    have other_made := List.mem_of_getElem? at_target
    rcases (condenses.dependsOn unit made other.key).1 named with
      ⟨apart, id, inside, name, depends, owner, owner_made, beside, same⟩
    obtain rfl : owner = other :=
      condenses.eq_of_key owner_made other_made same
    refine ⟨?_, unit, owner, at_number, at_target, id, inside, name, beside,
      depends⟩
    rintro rfl
    cases at_number.symm.trans at_target
    exact apart rfl
  · rintro ⟨apart, unit, other, at_number, at_target, id, inside, name,
      beside, depends⟩
    have made := List.mem_of_getElem? at_number
    have other_made := List.mem_of_getElem? at_target
    refine ⟨unit, other, at_number, at_target,
      (condenses.dependsOn unit made other.key).2 ⟨?_, id, inside, name,
        depends, other, other_made, beside, rfl⟩⟩
    intro same
    obtain rfl := condenses.eq_of_key other_made made same
    exact apart (number_inj at_number at_target)

/-- A unit names units only. -/
theorem exists_unit_of_named {unit : OrderingUnit}
    (made : unit ∈ graph.condense.units) {key : String}
    (named : key ∈ unit.dependsOn) :
    ∃ other ∈ graph.condense.units, other.key = key := by
  rcases (graph.condense_condenses.dependsOn unit made key).1 named with
    ⟨-, _, -, _, -, other, other_made, -, same⟩
  exact ⟨other, other_made, same⟩

/-- What a unit names has a smaller number. -/
theorem number_lt_of_dependsOn {number target : Nat}
    (depends : graph.condense.DependsOn number target) : target < number := by
  rcases condense_dependsOn_iff.1 depends with
    ⟨apart, unit, other, at_number, at_target, id, inside, name, beside,
      direct⟩
  rcases Nat.lt_or_gt_of_ne apart with before | behind
  · obtain ⟨inRange, rfl⟩ := List.getElem?_eq_some_iff.1 at_number
    obtain ⟨inRange', rfl⟩ := List.getElem?_eq_some_iff.1 at_target
    exact absurd direct (List.pairwise_iff_getElem.1
      graph.condense_condenses.ordered _ _ inRange inRange' before id inside
      name beside)
  · exact behind

/-- What a unit leads to through units has a smaller number. -/
theorem number_lt_of_transGen {number target : Nat}
    (leads : TransGen graph.condense.DependsOn number target) :
    target < number := by
  induction leads with
  | single depends => exact number_lt_of_dependsOn depends
  | tail _ depends step => exact (number_lt_of_dependsOn depends).trans step

/-! ## Components and the numbers of their units -/

/-- A component depends on members of its own unit and of units with smaller
numbers. -/
theorem number_le_of_depends {number target : Nat}
    {unit other : OrderingUnit} {id name : String}
    (at_number : graph.condense.units[number]? = some unit)
    (at_target : graph.condense.units[target]? = some other)
    (inside : id ∈ unit.members) (beside : name ∈ other.members)
    (depends : graph.DependsOn id name) : target ≤ number := by
  by_cases same : number = target
  · exact same.ge
  · exact (number_lt_of_dependsOn (condense_dependsOn_iff.2
      ⟨same, unit, other, at_number, at_target, id, inside, name, beside,
        depends⟩)).le

/-- Numbers do not grow on the way along dependencies. -/
theorem number_le_of_reaches {number target : Nat}
    {unit other : OrderingUnit} {id name : String}
    (at_number : graph.condense.units[number]? = some unit)
    (inside : id ∈ unit.members) (walk : graph.Reaches id name)
    (at_target : graph.condense.units[target]? = some other)
    (beside : name ∈ other.members) : target ≤ number := by
  induction walk generalizing target other with
  | refl =>
    obtain rfl := unit_unique (List.mem_of_getElem? at_number)
      (List.mem_of_getElem? at_target) inside beside
    exact (number_inj at_target at_number).le
  | tail _ depends step =>
    rcases exists_number depends.known with ⟨between, owner, at_between, owns⟩
    exact (number_le_of_depends at_between at_target owns beside depends).trans
      (step at_between owns)

/-- No member of a unit leads to a member of a unit with a greater number. -/
theorem units_pairwise :
    graph.condense.units.Pairwise fun earlier later =>
      ∀ id ∈ earlier.members, ∀ name ∈ later.members,
        ¬ graph.Reaches id name := by
  rw [List.pairwise_iff_getElem]
  intro number target inRange inRange' before id inside name beside walk
  exact absurd (number_le_of_reaches (List.getElem?_eq_getElem inRange) inside
    walk (List.getElem?_eq_getElem inRange') beside) (Nat.not_le.2 before)

/-! ## Cycles -/

/-- The blocks listed as cycles are the classes of two or more components that
lead to each other, ascending. -/
theorem mem_cycles {block : List String} :
    block ∈ graph.condense.cycles ↔
      2 ≤ block.length ∧ block.Pairwise (· < ·) ∧
        ∃ id ∈ graph.ids, ∀ other, other ∈ block ↔ graph.Mutual id other := by
  have classes := graph.condense_condenses.classes
  have ascending : ∀ unit ∈ graph.condense.units,
      unit.members.Pairwise (· < ·) :=
    fun unit made => classes.ascending _ (List.mem_map_of_mem made)
  have isCycle : ∀ unit : OrderingUnit,
      unit.isCycle = true ↔ 2 ≤ unit.members.length := by
    intro unit
    rw [OrderingUnit.isCycle, OrderingUnit.members, List.length_cons]
    cases unit.others <;> simp
  simp only [Condensation.cycles, List.mem_map, List.mem_filter, isCycle]
  constructor
  · rintro ⟨unit, ⟨made, several⟩, rfl⟩
    have inside : unit.key ∈ unit.members := List.mem_cons_self
    exact ⟨several, ascending unit made, unit.key,
      members_perm.mem_iff.1 (List.mem_flatMap.2 ⟨unit, made, inside⟩),
      mem_members_iff made inside⟩
  · rintro ⟨several, sorted, id, known, related⟩
    rcases List.mem_flatMap.1 (members_perm.mem_iff.2 known) with
      ⟨unit, made, inside⟩
    have same : unit.members = block :=
      NameSet.names_ext (ascending unit made) sorted fun other =>
        (mem_members_iff made inside other).trans (related other).symm
    exact ⟨unit, ⟨made, same ▸ several⟩, same⟩

/-- No cycle leads to one that is listed later. -/
theorem cycles_pairwise :
    graph.condense.cycles.Pairwise fun earlier later =>
      ∀ id ∈ earlier, ∀ name ∈ later, ¬ graph.Reaches id name := by
  rw [Condensation.cycles, List.pairwise_map]
  exact units_pairwise.filter _

/-- A unit names the other units that its members depend on, each of them under
the name of one unit, and all of them have smaller numbers.  So no unit leads
to itself.  The cycles are all classes of two or more components that lead to
each other, each listed once and behind every cycle that it leads to. -/
theorem units_numbered (graph : DependencyGraph) :
    (∀ number target, graph.condense.DependsOn number target ↔
      number ≠ target ∧
        ∃ unit other, graph.condense.units[number]? = some unit ∧
          graph.condense.units[target]? = some other ∧
          ∃ id ∈ unit.members, ∃ name ∈ other.members,
            graph.DependsOn id name) ∧
    (∀ unit ∈ graph.condense.units, ∀ key ∈ unit.dependsOn,
      ∃ other ∈ graph.condense.units, other.key = key) ∧
    (graph.condense.units.map OrderingUnit.key).Nodup ∧
    (∀ number target, graph.condense.DependsOn number target →
      target < number) ∧
    (∀ number, ¬ TransGen graph.condense.DependsOn number number) ∧
    (∀ block, block ∈ graph.condense.cycles ↔
      2 ≤ block.length ∧ block.Pairwise (· < ·) ∧
        ∃ id ∈ graph.ids,
          ∀ other, other ∈ block ↔ graph.Mutual id other) ∧
    graph.condense.cycles.Nodup ∧
    graph.condense.cycles.Pairwise fun earlier later =>
      ∀ id ∈ earlier, ∀ name ∈ later, ¬ graph.Reaches id name := by
  refine ⟨fun _ _ => condense_dependsOn_iff,
    fun _ made _ => exists_unit_of_named made,
    graph.condense_condenses.keys_nodup,
    fun _ _ => number_lt_of_dependsOn, ?_, fun _ => mem_cycles, ?_,
    cycles_pairwise⟩
  · intro number leads
    exact Nat.lt_irrefl _ (number_lt_of_transGen leads)
  · refine cycles_pairwise.imp_of_mem ?_
    rintro earlier _ member - apart rfl
    rcases mem_cycles.1 member with ⟨several, -⟩
    rcases List.exists_mem_of_length_pos (Nat.zero_lt_of_lt several) with
      ⟨id, inside⟩
    exact apart id inside id inside ReflTransGen.refl

namespace Sample

/-- A cycle that depends on another one through a component between them. -/
def chain : DependencyGraph :=
  build [record "a.A" "A" "a.py", record "b.B" "B" "b.py",
      record "m.M" "M" "m.py", record "y.Y" "Y" "y.py",
      record "z.Z" "Z" "z.py"]
    [call "a.A" "b.B", call "b.B" "a.A", call "b.B" "m.M",
      call "m.M" "z.Z", call "y.Y" "z.Z", call "z.Z" "y.Y"]

end Sample

/-- The cycle with the later names is listed first, since the other one leads to
it. -/
theorem units_numbered_chain :
    Sample.chain.condense.cycles = [["y.Y", "z.Z"], ["a.A", "b.B"]] ∧
      Sample.chain.condense.units.map OrderingUnit.key =
        ["y.Y", "m.M", "a.A"] ∧
      Sample.chain.Mutual "a.A" "b.B" ∧
      ¬ Sample.chain.Reaches "y.Y" "a.A" ∧
      ¬ Sample.chain.condense.DependsOn 0 2 := by
  rcases units_numbered Sample.chain with
    ⟨_, _, _, smaller, _, listed, _, behind⟩
  have cycles : Sample.chain.condense.cycles =
      [["y.Y", "z.Z"], ["a.A", "b.B"]] := by
    decide +kernel
  refine ⟨cycles, by decide +kernel, ?_, ?_, ?_⟩
  · rcases (listed ["a.A", "b.B"]).1 (by simp [cycles]) with
      ⟨-, -, id, -, related⟩
    have first : Sample.chain.Mutual id "a.A" := (related _).1 (by simp)
    have second : Sample.chain.Mutual id "b.B" := (related _).1 (by simp)
    exact ⟨first.2.trans second.1, second.2.trans first.1⟩
  · rw [cycles, List.pairwise_pair] at behind
    exact behind "y.Y" (by simp) "a.A" (by simp)
  · exact fun depends => absurd (smaller 0 2 depends) (by decide)

end DependencyGraph

end ModuleAtlas
