import ModuleAtlas.Proofs.Graph.Numbering

/-!
# Leaving the units depth first

A recursive walk goes through names of units in turn.  It passes over a unit
that it entered before, and enters another one: then it goes through the
dependencies of that unit, in ascending order of their names, and leaves it.
The order in which the units are left is a function of the names.

Dependencies have smaller numbers, so the recursion ends.  When a unit is left,
its dependencies were left before: one that was entered and not left would have
a greater number.  So leaving all units gives an arrangement of the graph.
-/

namespace ModuleAtlas

namespace Condensation

variable {condensation : Condensation} {entered keys after : List String}
  {left : List OrderingUnit}

/-- What a recursive walk leaves: the names of the units entered before, the
names that it goes through, the units left in order, and the names of the units
entered afterwards. -/
inductive Leaves (condensation : Condensation) :
    List String → List String → List OrderingUnit → List String → Prop where
  | stop (entered : List String) : Leaves condensation entered [] [] entered
  | pass {entered keys after : List String} {left : List OrderingUnit}
      {key : String} :
      key ∈ entered → Leaves condensation entered keys left after →
      Leaves condensation entered (key :: keys) left after
  | enter {entered keys between after : List String}
      {inner left : List OrderingUnit} {key : String} {unit : OrderingUnit} :
      key ∉ entered → condensation.find? key = some unit →
      Leaves condensation (key :: entered) unit.dependsOn.names inner
        between →
      Leaves condensation between keys left after →
      Leaves condensation entered (key :: keys) (inner ++ unit :: left) after

theorem find?_eq_some {key : String} {unit : OrderingUnit}
    (found : condensation.find? key = some unit) :
    unit ∈ condensation.units ∧ unit.key = key := by
  have named := List.find?_some found
  exact ⟨List.mem_of_find?_eq_some found, of_decide_eq_true named⟩

theorem needs_of_find? {key : String} {unit : OrderingUnit}
    (found : condensation.find? key = some unit) :
    condensation.needs key = unit.dependsOn := by
  rw [needs, found]
  rfl

namespace Leaves

/-- The order in which units are left is determined. -/
theorem unique (leaves : Leaves condensation entered keys left after)
    {other : List OrderingUnit} {after' : List String}
    (again : Leaves condensation entered keys other after') :
    left = other ∧ after = after' := by
  induction leaves generalizing other after' with
  | stop =>
    cases again
    exact ⟨rfl, rfl⟩
  | pass old _ step =>
    cases again with
    | pass _ again => exact step again
    | enter new => exact absurd old new
  | enter new found _ _ inside beside =>
    cases again with
    | pass old => exact absurd old new
    | enter _ found' inner rest =>
      cases found.symm.trans found'
      rcases inside inner with ⟨rfl, rfl⟩
      rcases beside rest with ⟨rfl, rfl⟩
      exact ⟨rfl, rfl⟩

/-- The units left are those that were entered meanwhile. -/
theorem after_perm (leaves : Leaves condensation entered keys left after) :
    after.Perm (left.map OrderingUnit.key ++ entered) := by
  induction leaves with
  | stop => exact List.Perm.refl _
  | pass _ _ step => exact step
  | @enter entered keys between after inner left key unit _ found _ _ inside
      beside =>
    obtain rfl := (find?_eq_some found).2
    have shown : after.Perm (left.map OrderingUnit.key ++
        (inner.map OrderingUnit.key ++ unit.key :: entered)) :=
      beside.trans (inside.append_left _)
    refine shown.trans ?_
    rw [List.map_append, List.map_cons, List.append_assoc, List.cons_append,
      ← List.append_assoc]
    refine (List.perm_append_comm.append_right _).trans ?_
    rw [List.append_assoc]
    exact List.perm_middle.append_left _

theorem mem_after (leaves : Leaves condensation entered keys left after)
    {key : String} :
    key ∈ after ↔ key ∈ left.map OrderingUnit.key ∨ key ∈ entered := by
  rw [leaves.after_perm.mem_iff, List.mem_append]

theorem keys_after (leaves : Leaves condensation entered keys left after) :
    ∀ key ∈ keys, key ∈ after := by
  induction leaves with
  | stop => simp
  | pass old behind step =>
    exact List.forall_mem_cons.2 ⟨behind.mem_after.2 (Or.inr old), step⟩
  | enter _ _ inner behind _ beside =>
    refine List.forall_mem_cons.2 ⟨behind.mem_after.2 (Or.inr ?_), beside⟩
    exact inner.mem_after.2 (Or.inr List.mem_cons_self)

/-- No unit is entered twice. -/
theorem nodup (leaves : Leaves condensation entered keys left after) :
    entered.Nodup → after.Nodup := by
  induction leaves with
  | stop => exact id
  | pass _ _ step => exact step
  | enter new _ _ _ inside beside =>
    exact fun distinct => beside (inside (List.nodup_cons.2 ⟨new, distinct⟩))

theorem units (leaves : Leaves condensation entered keys left after) :
    ∀ unit ∈ left, unit ∈ condensation.units := by
  induction leaves with
  | stop => simp
  | pass _ _ step => exact step
  | enter _ found _ _ inside beside =>
    intro unit member
    rcases List.mem_append.1 member with inner | other
    · exact inside unit inner
    · rcases List.mem_cons.1 other with rfl | rest
      · exact (find?_eq_some found).1
      · exact beside unit rest

/-- A walk through the names of all units leaves each of them once. -/
theorem perm_units (leaves : Leaves condensation [] keys left after)
    (distinct : (condensation.units.map OrderingUnit.key).Nodup)
    (all : ∀ unit ∈ condensation.units, unit.key ∈ keys) :
    left.Perm condensation.units := by
  have once : (left.map OrderingUnit.key).Nodup := by
    have names := leaves.after_perm
    rw [List.append_nil] at names
    exact names.nodup_iff.1 (leaves.nodup List.nodup_nil)
  rw [List.perm_ext_iff_of_nodup once.of_map distinct.of_map]
  intro unit
  refine ⟨leaves.units unit, fun made => ?_⟩
  have named := leaves.keys_after unit.key (all unit made)
  rw [leaves.mem_after, or_iff_left List.not_mem_nil, List.mem_map] at named
  rcases named with ⟨other, member, same⟩
  have found := find?_of_mem distinct (leaves.units other member)
  rw [same, find?_of_mem distinct made] at found
  exact Option.some.inj found ▸ member

end Leaves

/-! ## Ranks -/

/-- Every dependency of a unit is a unit, of a lower rank. -/
structure Ranked (condensation : Condensation) (rank : String → Nat) :
    Prop where
  named : ∀ unit ∈ condensation.units, ∀ key ∈ unit.dependsOn,
    (condensation.find? key).isSome = true
  lower : ∀ unit ∈ condensation.units, ∀ key ∈ unit.dependsOn,
    rank key < rank unit.key

namespace Ranked

variable {rank : String → Nat}

/-- The recursion ends below every rank. -/
theorem exists_leaves (ranked : Ranked condensation rank) (bound : Nat) :
    ∀ entered keys : List String,
      (∀ key ∈ keys, (condensation.find? key).isSome = true ∧
        rank key < bound) →
      ∃ left after, Leaves condensation entered keys left after := by
  induction bound with
  | zero =>
    intro entered keys low
    cases keys with
    | nil => exact ⟨[], entered, .stop entered⟩
    | cons key keys =>
      exact absurd (low key List.mem_cons_self).2 (Nat.not_lt_zero _)
  | succ bound deeper =>
    intro entered keys
    induction keys generalizing entered with
    | nil => exact fun _ => ⟨[], entered, .stop entered⟩
    | cons key keys beside =>
      intro low
      rw [List.forall_mem_cons] at low
      rcases low with ⟨⟨named, near⟩, others⟩
      by_cases old : key ∈ entered
      · rcases beside entered others with ⟨left, after, leaves⟩
        exact ⟨left, after, .pass old leaves⟩
      · rcases Option.isSome_iff_exists.1 named with ⟨unit, found⟩
        obtain ⟨made, rfl⟩ := find?_eq_some found
        have inner : ∀ name ∈ unit.dependsOn.names,
            (condensation.find? name).isSome = true ∧ rank name < bound :=
          fun name needed => ⟨ranked.named unit made name needed,
            (ranked.lower unit made name needed).trans_le
              (Nat.le_of_lt_succ near)⟩
        rcases deeper (unit.key :: entered) _ inner with
          ⟨inside, between, leaves⟩
        rcases beside between others with ⟨left, after, leaves'⟩
        exact ⟨_, after, .enter old found leaves leaves'⟩

/-- A unit is left behind its dependencies, provided that those entered and not
yet left have greater ranks than the names that are gone through. -/
theorem follows (ranked : Ranked condensation rank)
    (leaves : Leaves condensation entered keys left after) :
    ∀ placed : List String,
      (∀ name ∈ entered, name ∈ placed ∨ ∀ key ∈ keys, rank key < rank name) →
      WaitingUnit.Follows condensation.needs placed
        (left.map OrderingUnit.key) := by
  induction leaves with
  | stop => exact fun _ _ => trivial
  | pass _ _ step =>
    intro placed open_above
    refine step placed fun name member => (open_above name member).imp id ?_
    exact fun above key inside => above key (List.mem_cons_of_mem _ inside)
  | @enter entered keys between after inner left key unit new found leaves _
      inside beside =>
    intro placed open_above
    obtain ⟨made, rfl⟩ := find?_eq_some found
    have lower := ranked.lower unit made
    have innerFollows := inside placed fun name member => by
      rcases List.mem_cons.1 member with rfl | old
      · exact Or.inr lower
      · refine (open_above name old).imp id fun above key needed => ?_
        exact (lower key needed).trans (above _ List.mem_cons_self)
    have outerFollows := beside
      (unit.key :: ((inner.map OrderingUnit.key).reverse ++ placed))
      fun name member => by
        rcases leaves.mem_after.1 member with left | old
        · exact Or.inl (by simp [left])
        · rcases List.mem_cons.1 old with rfl | old
          · exact Or.inl List.mem_cons_self
          · refine (open_above name old).imp (fun known => by simp [known]) ?_
            exact fun above key later =>
              above key (List.mem_cons_of_mem _ later)
    rw [List.map_append, List.map_cons, WaitingUnit.follows_append]
    refine ⟨innerFollows, ?_, outerFollows⟩
    intro name needed
    rw [needs_of_find? found] at needed
    rcases leaves.mem_after.1 (leaves.keys_after name needed) with left | old
    · simp [left]
    · rcases List.mem_cons.1 old with rfl | old
      · exact absurd (lower _ needed) (Nat.lt_irrefl _)
      · rcases open_above name old with known | above
        · simp [known]
        · exact absurd (lower name needed)
            (above _ List.mem_cons_self).asymm

end Ranked

/-- The names of all units, in the order in which a walk tries them. -/
def rootNames (condensation : Condensation) : List String :=
  condensation.byKey.map OrderingUnit.key

end Condensation

/-! ## All units of a graph -/

namespace DependencyGraph

variable {graph : DependencyGraph}

/-- The names of the units, ascending. -/
theorem rootNames_pairwise :
    graph.condense.rootNames.Pairwise (· < ·) := by
  have counted :=
    Condensation.waiting_counted graph.condense_condenses.keys_nodup
  have ascending := counted.ascending
  rw [Condensation.waiting, List.pairwise_map] at ascending
  exact List.pairwise_map.2 ascending

theorem rootNames_perm :
    graph.condense.rootNames.Perm
      (graph.condense.units.map OrderingUnit.key) :=
  (Condensation.byKey_perm graph.condense_condenses.keys_nodup).map _

/-- Numbers are ranks. -/
theorem condense_ranked :
    graph.condense.Ranked fun key =>
      (graph.condense.units.map OrderingUnit.key).idxOf key := by
  have distinct := graph.condense_condenses.keys_nodup
  have number_eq : ∀ {number : Nat} {unit : OrderingUnit},
      graph.condense.units[number]? = some unit →
      (graph.condense.units.map OrderingUnit.key).idxOf unit.key = number := by
    intro number unit at_number
    obtain ⟨inRange, rfl⟩ := List.getElem?_eq_some_iff.1 at_number
    have index := distinct.idxOf_getElem number (by simpa using inRange)
    rwa [List.getElem_map] at index
  constructor
  · intro unit made key needed
    rcases exists_unit_of_named made needed with ⟨other, other_made, rfl⟩
    rw [Condensation.find?_of_mem distinct other_made]
    rfl
  · intro unit made key needed
    rcases exists_unit_of_named made needed with ⟨other, other_made, rfl⟩
    rcases List.getElem?_of_mem made with ⟨number, at_number⟩
    rcases List.getElem?_of_mem other_made with ⟨target, at_target⟩
    rw [number_eq at_number, number_eq at_target]
    exact number_lt_of_dependsOn ⟨unit, other, at_number, at_target, needed⟩

/-- The recursive walk through the names of all units ends, and the order in
which it leaves the units is an arrangement of the graph. -/
theorem exists_leaves :
    ∃ left after,
      graph.condense.Leaves [] graph.condense.rootNames left after ∧
      left.Perm graph.condense.units ∧
      graph.Arrangement (left.map OrderingUnit.members) := by
  have condenses := graph.condense_condenses
  have distinct := condenses.keys_nodup
  have named : ∀ key ∈ graph.condense.rootNames,
      (graph.condense.find? key).isSome = true ∧
        (graph.condense.units.map OrderingUnit.key).idxOf key <
          graph.condense.units.length := by
    intro key member
    rw [rootNames_perm.mem_iff] at member
    have inRange := List.idxOf_lt_length_iff.2 member
    rw [List.length_map] at inRange
    rcases List.mem_map.1 member with ⟨unit, made, rfl⟩
    rw [Condensation.find?_of_mem distinct made]
    exact ⟨rfl, inRange⟩
  rcases condense_ranked.exists_leaves _ [] _ named with ⟨left, after, leaves⟩
  have all := leaves.perm_units distinct fun unit made =>
    rootNames_perm.mem_iff.2 (List.mem_map_of_mem made)
  have follows := condense_ranked.follows leaves [] (by simp)
  exact ⟨left, after, leaves, all,
    condenses.arrangement_iff.2 ⟨left, all, rfl, follows⟩⟩

end DependencyGraph

end ModuleAtlas
