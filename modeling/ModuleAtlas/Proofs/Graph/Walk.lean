import Mathlib.Algebra.Order.BigOperators.Group.List
import Mathlib.Algebra.Order.Ring.Nat
import ModuleAtlas.Graph.Walk
import ModuleAtlas.Proofs.Graph.PostOrder

/-!
# Walks hand out what a recursive walk leaves

A call of a walk hands out a waiting member, or moves until there is one or
nothing is left to be done.  Each move takes something away from what is ahead:
a root, a dependency to follow, or a unit to leave.  So every call ends, within
the bound that the walk is given, whatever was called before.

The stack of a walk stands for the recursion.  From one suspension to the next,
the moves follow what a recursive walk leaves, level by level; so the calls hand
out the members of the units in the order in which it leaves them, and nothing
once the last one was handed out.
-/

namespace ModuleAtlas

namespace Walk

variable {condensation : Condensation} {walk after : Walk}
  {answer : Option String} {moves : Nat}

/-- A call of a walk with its number of moves, what it answers and the walk that
it leaves behind. -/
inductive Call (condensation : Condensation) :
    Nat → Walk → Option String → Walk → Prop where
  | hand {walk : Walk} {id : String} {pending : List String} :
      walk.pending = id :: pending →
      Call condensation 0 walk (some id) { walk with pending }
  | move {walk next after : Walk} {answer : Option String} {moves : Nat} :
      walk.pending = [] → walk.move? condensation = some next →
      Call condensation moves next answer after →
      Call condensation (moves + 1) walk answer after
  | still {walk : Walk} :
      walk.pending = [] → walk.move? condensation = none →
      Call condensation 0 walk none walk

/-- Calls one after another, with their answers. -/
inductive Calls (condensation : Condensation) :
    Walk → List (Option String) → Walk → Prop where
  | none (walk : Walk) : Calls condensation walk [] walk
  | more {walk between after : Walk} {answer : Option String}
      {answers : List (Option String)} {moves : Nat} :
      Call condensation moves walk answer between →
      Calls condensation between answers after →
      Calls condensation walk (answer :: answers) after

/-! ## Every call ends -/

/-- What can be ahead of a walk: the roots to try, the dependencies to follow
from units that were entered and these units to leave, and as much for the units
that were not entered. -/
def ahead (condensation : Condensation) (walk : Walk) : Nat :=
  walk.roots.length
    + (walk.stack.map fun frame => frame.2.length + 1).sum
    + ((condensation.units.filter fun unit => unit.key ∉ walk.visited).map
        fun unit => unit.dependsOn.names.length + 1).sum

/-- Entering a unit takes it out of those that were not entered. -/
theorem sum_entered_le (units : List OrderingUnit) (visited : List String)
    (weight : OrderingUnit → Nat) {unit : OrderingUnit}
    (made : unit ∈ units) (new : unit.key ∉ visited) :
    ((units.filter fun other => other.key ∉ unit.key :: visited).map
        weight).sum + weight unit ≤
      ((units.filter fun other => other.key ∉ visited).map weight).sum := by
  have fewer : ∀ units : List OrderingUnit,
      ((units.filter fun other => other.key ∉ unit.key :: visited).map
          weight).sum ≤
        ((units.filter fun other => other.key ∉ visited).map weight).sum := by
    intro units
    have kept := List.monotone_filter_right units
      (p := fun other => other.key ∉ unit.key :: visited)
      (q := fun other => other.key ∉ visited) fun other unseen => by
        simp only [List.mem_cons, not_or, decide_eq_true_eq] at unseen ⊢
        exact unseen.2
    exact (kept.map weight).sum_le_sum fun _ _ => Nat.zero_le _
  rcases List.append_of_mem made with ⟨front, behind, rfl⟩
  have first := fewer front
  have last := fewer behind
  simp only [List.filter_append, List.map_append, List.sum_append]
  rw [List.filter_cons_of_neg (by simp),
    List.filter_cons_of_pos (by simp [new]), List.map_cons, List.sum_cons]
  omega

theorem ahead_enter_le (condensation : Condensation) (key : String)
    (walk : Walk) :
    (walk.enter condensation key).ahead condensation ≤
      walk.ahead condensation := by
  unfold enter
  split
  · exact Nat.le_refl _
  · next new =>
    split
    · exact Nat.le_refl _
    · next unit found =>
      obtain ⟨made, rfl⟩ := Condensation.find?_eq_some found
      have fewer := sum_entered_le condensation.units walk.visited
        (fun unit => unit.dependsOn.names.length + 1) made new
      simp only [ahead, List.map_cons, List.sum_cons]
      omega

/-- Every move takes something away from what is ahead. -/
theorem ahead_move_lt {next : Walk}
    (moved : walk.move? condensation = some next) :
    next.ahead condensation < walk.ahead condensation := by
  unfold move? at moved
  split at moved
  · next unit target targets below stack =>
    cases moved
    have entered := ahead_enter_le condensation target
      { walk with stack := (unit, targets) :: below }
    refine entered.trans_lt ?_
    simp only [ahead, stack, List.map_cons, List.sum_cons, List.length_cons]
    omega
  · next unit below stack =>
    cases moved
    simp only [ahead, stack, List.map_cons, List.sum_cons, List.length_nil]
    omega
  · next stack =>
    split at moved
    · next root roots tried =>
      cases moved
      have entered := ahead_enter_le condensation root
        { walk with roots }
      refine entered.trans_lt ?_
      simp only [ahead, tried, List.length_cons]
      omega
    · exact absurd moved (by simp)

/-- A call ends, and its moves are no more than what was ahead. -/
theorem exists_call (condensation : Condensation) (walk : Walk) :
    ∃ moves answer after, Call condensation moves walk answer after ∧
      moves + after.ahead condensation ≤ walk.ahead condensation := by
  induction size : walk.ahead condensation using Nat.strong_induction_on
    generalizing walk with
  | _ size step =>
    subst size
    cases pending : walk.pending with
    | cons id pending' =>
      exact ⟨0, some id, _, .hand pending, by simp [ahead]⟩
    | nil =>
      cases moved : walk.move? condensation with
      | none => exact ⟨0, none, walk, .still pending moved, by simp⟩
      | some next =>
        have fewer := ahead_move_lt moved
        rcases step _ fewer next rfl with ⟨moves, answer, after, call, enough⟩
        exact ⟨moves + 1, answer, after, .move pending moved call, by omega⟩

theorem Call.unique (call : Call condensation moves walk answer after)
    {moves' : Nat} {answer' : Option String} {after' : Walk}
    (again : Call condensation moves' walk answer' after') :
    moves = moves' ∧ answer = answer' ∧ after = after' := by
  induction call generalizing moves' with
  | hand pending =>
    cases again with
    | hand pending' =>
      cases pending.symm.trans pending'
      exact ⟨rfl, rfl, rfl⟩
    | move pending' | still pending' =>
      exact absurd (pending.symm.trans pending') (by simp)
  | move pending moved _ step =>
    cases again with
    | hand pending' => exact absurd (pending.symm.trans pending') (by simp)
    | move _ moved' again =>
      cases moved.symm.trans moved'
      rcases step again with ⟨rfl, rfl, rfl⟩
      exact ⟨rfl, rfl, rfl⟩
    | still _ still => exact absurd (moved.symm.trans still) (by simp)
  | still pending still =>
    cases again with
    | hand pending' => exact absurd (pending.symm.trans pending') (by simp)
    | move _ moved => exact absurd (moved.symm.trans still) (by simp)
    | still => exact ⟨rfl, rfl, rfl⟩

/-- Given as many moves as a call takes, its answer is found. -/
theorem nextWithin_of_call (call : Call condensation moves walk answer after)
    {bound : Nat} (enough : moves ≤ bound) :
    walk.nextWithin condensation bound = answer.map (·, after) := by
  induction call generalizing bound with
  | hand pending =>
    rw [nextWithin.eq_def]
    simp only [pending, Option.map_some]
  | move pending moved _ step =>
    cases bound with
    | zero => exact absurd enough (Nat.not_succ_le_zero _)
    | succ bound =>
      rw [nextWithin.eq_def]
      simp only [pending, moved, Option.bind_some]
      exact step (Nat.le_of_succ_le_succ enough)
  | still pending still =>
    rw [nextWithin.eq_def]
    cases bound with
    | zero => simp only [pending, Option.map_none]
    | succ bound =>
      simp only [pending, still, Option.bind_none, Option.map_none]

/-- Whatever was called before, no more is ahead than at the beginning. -/
theorem ahead_calls_le {answers : List (Option String)}
    (calls : Calls condensation walk answers after) :
    after.ahead condensation ≤ walk.ahead condensation := by
  induction calls with
  | none => exact Nat.le_refl _
  | @more walk between _ _ _ _ call _ step =>
    rcases exists_call condensation walk with
      ⟨moves, answer, between', again, enough⟩
    rcases call.unique again with ⟨rfl, rfl, rfl⟩
    omega

theorem ahead_start
    (distinct : (condensation.units.map OrderingUnit.key).Nodup) :
    (start condensation).ahead condensation = moveBound condensation := by
  have roots := (Condensation.byKey_perm distinct).length_eq
  have weights : ∀ units : List OrderingUnit,
      (units.map fun unit => unit.dependsOn.names.length + 1).sum =
        (units.flatMap fun unit => unit.dependsOn.names).length
          + units.length := by
    intro units
    induction units with
    | nil => rfl
    | cons unit rest step =>
      simp only [List.map_cons, List.sum_cons, List.flatMap_cons,
        List.length_append, List.length_cons]
      omega
  simp only [ahead, start, moveBound, List.map_nil, List.sum_nil,
    List.length_map, List.not_mem_nil, not_false_eq_true, decide_true,
    List.filter_true, weights]
  omega

/-! ## What is handed out -/

/-- A walk hands out ids in turn, moving in between. -/
inductive Emits (condensation : Condensation) :
    Walk → List String → Walk → Prop where
  | stay (walk : Walk) : Emits condensation walk [] walk
  | move {walk next after : Walk} {ids : List String} :
      walk.pending = [] → walk.move? condensation = some next →
      Emits condensation next ids after → Emits condensation walk ids after
  | hand {walk after : Walk} {id : String} {pending ids : List String} :
      walk.pending = id :: pending →
      Emits condensation { walk with pending } ids after →
      Emits condensation walk (id :: ids) after

namespace Emits

variable {ids : List String}

theorem trans (first : Emits condensation walk ids after)
    {ids' : List String} {last : Walk}
    (second : Emits condensation after ids' last) :
    Emits condensation walk (ids ++ ids') last := by
  induction first with
  | stay => exact second
  | move pending moved _ step => exact .move pending moved (step second)
  | hand pending _ step => exact .hand pending (step second)

/-- Waiting members are handed out without a move. -/
theorem members (walk : Walk) (ids : List String) :
    Emits condensation { walk with pending := ids } ids
      { walk with pending := [] } := by
  induction ids with
  | nil => exact .stay _
  | cons id rest step => exact .hand rfl step

/-- A call of a walk that hands out ids up to its end answers the first of
them. -/
theorem call (emits : Emits condensation walk ids after)
    (waiting : after.pending = [])
    (still : after.move? condensation = none) {moves : Nat} {next : Walk}
    (called : Call condensation moves walk answer next) :
    answer = ids.head? ∧ Emits condensation next ids.tail after := by
  induction called generalizing ids with
  | hand pending =>
    cases emits with
    | stay => exact absurd (pending.symm.trans waiting) (by simp)
    | move pending' => exact absurd (pending.symm.trans pending') (by simp)
    | hand pending' rest =>
      cases pending.symm.trans pending'
      exact ⟨rfl, rest⟩
  | move pending moved _ step =>
    cases emits with
    | stay => exact absurd (moved.symm.trans still) (by simp)
    | move _ moved' rest =>
      cases moved.symm.trans moved'
      exact step rest
    | hand pending' => exact absurd (pending.symm.trans pending') (by simp)
  | still pending ended =>
    cases emits with
    | stay => exact ⟨rfl, .stay _⟩
    | move _ moved => exact absurd (ended.symm.trans moved) (by simp)
    | hand pending' => exact absurd (pending.symm.trans pending') (by simp)

end Emits

/-- The calls of a walk answer some ids in turn, and nothing afterwards.  Every
one of them ends within the bound of moves, so that its answer is found. -/
structure HandsOut (condensation : Condensation) (walk : Walk)
    (ids : List String) : Prop where
  answers_eq : ∀ {answers : List (Option String)} {reached : Walk},
    Calls condensation walk answers reached →
    answers = (List.range answers.length).map fun index => ids[index]?
  ends : ∀ {answers : List (Option String)} {reached : Walk},
    Calls condensation walk answers reached →
    ∃ moves answer after, Call condensation moves reached answer after ∧
      moves ≤ moveBound condensation ∧
      reached.next condensation = answer.map (·, after)

theorem answers_of_emits {ids : List String} {answers : List (Option String)}
    {reached : Walk} (emits : Emits condensation walk ids after)
    (waiting : after.pending = [])
    (still : after.move? condensation = none)
    (calls : Calls condensation walk answers reached) :
    answers = (List.range answers.length).map fun index => ids[index]? := by
  induction calls generalizing ids with
  | none => rfl
  | more called _ step =>
    rcases emits.call waiting still called with ⟨rfl, rest⟩
    rw [List.length_cons, List.range_succ_eq_map, List.map_cons, List.map_map,
      ← List.head?_eq_getElem?]
    refine congrArg _ ((step rest).trans (List.map_congr_left ?_))
    intro index _
    exact List.getElem?_tail

theorem take_of_emits {ids : List String}
    (emits : Emits condensation walk ids after) (waiting : after.pending = [])
    (still : after.move? condensation = none)
    (enough : walk.ahead condensation ≤ moveBound condensation)
    (count : Nat) : take condensation count walk = ids.take count := by
  induction count generalizing walk ids with
  | zero => rw [take, List.take_zero]
  | succ count step =>
    rcases exists_call condensation walk with
      ⟨moves, answer, next, called, fewer⟩
    have answered : walk.next condensation = answer.map (·, next) :=
      nextWithin_of_call called (by omega)
    rcases emits.call waiting still called with ⟨rfl, rest⟩
    rw [take, answered]
    cases ids with
    | nil => rfl
    | cons id ids =>
      simp only [List.head?_cons, Option.map_some, List.take_succ_cons]
      rw [step rest (by omega), List.tail_cons]

theorem handsOut_of_emits {ids : List String}
    (emits : Emits condensation walk ids after) (waiting : after.pending = [])
    (still : after.move? condensation = none)
    (enough : walk.ahead condensation ≤ moveBound condensation) :
    HandsOut condensation walk ids where
  answers_eq := answers_of_emits emits waiting still
  ends := by
    intro answers reached calls
    have less := ahead_calls_le calls
    rcases exists_call condensation reached with
      ⟨moves, answer, next, called, fewer⟩
    have bounded : moves ≤ moveBound condensation := by omega
    exact ⟨moves, answer, next, called, bounded,
      nextWithin_of_call called bounded⟩

/-! ## Levels of a walk -/

/-- Where the names stand that a walk goes through next: they are its roots, or
the dependencies of the unit that it entered last. -/
inductive Level where
  | top
  | inside (unit : OrderingUnit) (below : List (OrderingUnit × List String))
      (roots : List String)

/-- The walk on a level. -/
def Level.state : Level → List String → List String → Walk
  | .top, visited, keys => ⟨keys, visited, [], []⟩
  | .inside unit below roots, visited, keys =>
    ⟨roots, visited, (unit, keys) :: below, []⟩

/-- The level of a unit that is entered from another level. -/
def Level.deeper (level : Level) (unit : OrderingUnit)
    (visited keys : List String) : Level :=
  .inside unit (level.state visited keys).stack (level.state visited keys).roots

namespace Level

variable {visited keys : List String} {key : String} {unit : OrderingUnit}

theorem move?_state (level : Level) :
    (level.state visited (key :: keys)).move? condensation =
      some (enter condensation key (level.state visited keys)) := by
  cases level <;> rfl

theorem enter_known (level : Level) (known : key ∈ visited) :
    enter condensation key (level.state visited keys) =
      level.state visited keys := by
  rw [enter, if_pos]
  cases level <;> exact known

theorem enter_new (level : Level) (new : key ∉ visited)
    (found : condensation.find? key = some unit) :
    enter condensation key (level.state visited keys) =
      (level.deeper unit visited keys).state (key :: visited)
        unit.dependsOn.names := by
  rw [enter, if_neg, found]
  · cases level <;> rfl
  · cases level <;> exact new

theorem move?_deeper (level : Level) (between : List String) :
    ((level.deeper unit visited keys).state between []).move? condensation =
      some { level.state between keys with pending := unit.members } := by
  cases level <;> rfl

end Level

theorem pending_state (level : Level) (visited keys : List String) :
    (level.state visited keys).pending = [] := by
  cases level <;> rfl

/-- On every level, a walk hands out the members of the units that a recursive
walk leaves. -/
theorem emits_leaves {entered keys after : List String}
    {left : List OrderingUnit}
    (leaves : condensation.Leaves entered keys left after) (level : Level) :
    Emits condensation (level.state entered keys)
      (left.flatMap OrderingUnit.members) (level.state after []) := by
  induction leaves generalizing level with
  | stop => exact .stay _
  | pass known _ step =>
    refine .move (pending_state level _ _) level.move?_state ?_
    rw [level.enter_known known]
    exact step level
  | @enter entered keys between after inner left key unit new found _ _ inside
      beside =>
    refine .move (pending_state level _ _) level.move?_state ?_
    rw [level.enter_new new found, List.flatMap_append, List.flatMap_cons]
    refine (inside (level.deeper unit entered keys)).trans ?_
    refine .move (pending_state _ _ _) (level.move?_deeper between) ?_
    refine (Emits.members _ unit.members).trans ?_
    have resumed : { level.state between keys with pending := [] } =
        level.state between keys := by
      cases level <;> rfl
    rw [resumed]
    exact beside level

end Walk

namespace DependencyGraph

/-- The calls of a walk hand out the members of the units in the order in which
the recursive walk leaves them, which goes through the names of all units and of
every unit's dependencies in ascending order.  Each component is handed out
once, after every component that it depends on outside its own cycle; then the
calls answer nothing.  Every call ends. -/
theorem walk_postorder (graph : DependencyGraph) :
    ∃ left entered,
      graph.condense.Leaves [] (Walk.start graph.condense).roots left
        entered ∧
      (∀ order after,
        graph.condense.Leaves [] (Walk.start graph.condense).roots order
          after → order = left) ∧
      (Walk.start graph.condense).roots.Pairwise (· < ·) ∧
      (Walk.start graph.condense).roots.Perm
        (graph.condense.units.map OrderingUnit.key) ∧
      left.Perm graph.condense.units ∧
      (∀ unit ∈ left, unit.members.Pairwise (· < ·)) ∧
      Walk.HandsOut graph.condense (Walk.start graph.condense)
        (left.flatMap OrderingUnit.members) ∧
      Walk.all graph.condense = left.flatMap OrderingUnit.members ∧
      (Walk.all graph.condense).Perm graph.ids ∧
      (Walk.all graph.condense).Nodup ∧
      ∀ id target, graph.DependsOn id target → target ∈ graph.ids →
        ¬ graph.Mutual id target →
        (Walk.all graph.condense).idxOf target <
          (Walk.all graph.condense).idxOf id := by
  rcases graph.exists_leaves with ⟨left, entered, leaves, all, arrangement⟩
  have emits := Walk.emits_leaves leaves .top
  have bounded :=
    (Walk.ahead_start graph.condense_condenses.keys_nodup).le
  have members : Walk.all graph.condense =
      left.flatMap OrderingUnit.members := by
    refine (Walk.take_of_emits emits rfl rfl bounded _).trans ?_
    rw [List.take_of_length_le]
    exact (all.flatMap_right OrderingUnit.members).length_eq.le
  have each : (Walk.all graph.condense).Perm graph.ids := by
    rw [members, List.flatMap_def]
    exact arrangement.classes.members
  refine ⟨left, entered, leaves, fun _ _ other => (other.unique leaves).1,
    rootNames_pairwise, rootNames_perm, all,
    fun unit member =>
      arrangement.classes.ascending _ (List.mem_map_of_mem member),
    Walk.handsOut_of_emits emits rfl rfl bounded, members, each,
    each.nodup_iff.2 ids_nodup, ?_⟩
  intro id target depends known apart
  rw [members, List.flatMap_def]
  exact arrangement.idxOf_lt depends known apart

/-- A walk goes to the dependencies of a root at once, and so it does not always
hand out the smallest name that is ready. -/
example :
    Walk.all Sample.chain.condense = ["y.Y", "z.Z", "m.M", "a.A", "b.B"] ∧
      Walk.all (build Sample.functions [Sample.call "a.A" "y.H"]).condense =
        ["y.H", "a.A", "x.H"] ∧
      (build Sample.functions
        [Sample.call "a.A" "y.H"]).dependencyOrder =
        ["x.H", "y.H", "a.A"] := by
  decide +kernel

end DependencyGraph

end ModuleAtlas
