import ModuleAtlas.Graph.Order
import ModuleAtlas.Proofs.Graph.Units

/-!
# Placing the units of a condensation

Placing, again and again, the unit with the smallest name among those whose
dependencies were all placed never gets stuck as long as some order is left in
which the waiting units can be placed: the first unit of that order is ready.
The counters of the waiting units are the numbers of their dependencies that
were not placed, so none of them falls below zero.

The order that results does not come after any other one.  At the first place
where another order differs, the unit found there was ready as well, so its
name is larger than that of the unit placed.
-/

namespace ModuleAtlas

/-- A list of names is another one or comes before it: where they first differ,
its name is the smaller one. -/
def NotAfter (left right : List String) : Prop :=
  left = right ∨ List.Lex (· < ·) left right

/-! ## Placing waiting units -/

namespace WaitingUnit

variable {needs : String → NameSet} {placed : List String}
  {waiting : List WaitingUnit}

/-- The name of the unit that waits. -/
def key (waiting : WaitingUnit) : String := waiting.unit.key

/-- The number of names of a set that were not placed. -/
def missing (placed : List String) (names : NameSet) : Nat :=
  names.names.countP fun name => decide (name ∉ placed)

/-- What holds between two placements: the units stand in ascending order of
their names, and each counts its dependencies that were not placed. -/
structure Counted (needs : String → NameSet) (placed : List String)
    (waiting : List WaitingUnit) : Prop where
  ascending : waiting.Pairwise fun earlier later => earlier.key < later.key
  unplaced : ∀ waits ∈ waiting, waits.key ∉ placed
  needed : ∀ waits ∈ waiting, waits.unit.dependsOn = needs waits.key
  counted : ∀ waits ∈ waiting,
    waits.remaining = missing placed (needs waits.key)

/-- Names in an order in which every name comes after those it needs. -/
def Follows (needs : String → NameSet) :
    List String → List String → Prop
  | _, [] => True
  | placed, key :: rest =>
    (∀ name ∈ needs key, name ∈ placed) ∧
      Follows needs (key :: placed) rest

theorem missing_eq_zero {names : NameSet} :
    missing placed names = 0 ↔ ∀ name ∈ names, name ∈ placed := by
  simp [missing, List.countP_eq_zero, NameSet.mem_names]

theorem missing_cons {key : String} {names : NameSet}
    (new : key ∉ placed) :
    missing placed names =
      missing (key :: placed) names + if key ∈ names then 1 else 0 := by
  have split : ∀ list : List String,
      list.countP (fun name => decide (name ∉ placed)) =
        list.countP (fun name => decide (name ∉ key :: placed))
          + list.count key := by
    intro list
    induction list with
    | nil => rfl
    | cons head rest step =>
      simp only [List.countP_cons, List.count_cons, step]
      by_cases same : head = key
      · subst same
        simp [new]
        omega
      · simp only [List.mem_cons, same, false_or, beq_iff_eq, if_false]
        omega
  have once : names.names.count key = if key ∈ names then 1 else 0 :=
    names.names_nodup.count
  rw [missing, split, once]
  rfl

theorem isReady_iff (counted : Counted needs placed waiting)
    {waits : WaitingUnit} (member : waits ∈ waiting) :
    waits.isReady = true ↔ ∀ name ∈ needs waits.key, name ∈ placed := by
  rw [← missing_eq_zero, isReady, decide_eq_true_eq,
    counted.counted waits member, Int.natCast_eq_zero]

/-- Taking a ready unit takes the first one. -/
theorem takeReady?_eq_some {unit : OrderingUnit}
    {others : List WaitingUnit} :
    ∀ {waiting : List WaitingUnit},
      takeReady? waiting = some (unit, others) →
      ∃ before, ∃ waits : WaitingUnit, ∃ after, waiting = before ++ waits :: after ∧
        waits.unit = unit ∧ others = before ++ after ∧
        waits.isReady = true ∧ ∀ earlier ∈ before, earlier.isReady = false
  | [], taken => by simp [takeReady?] at taken
  | head :: rest, taken => by
    unfold takeReady? at taken
    split at taken
    · next ready =>
      cases taken
      exact ⟨[], head, _, rfl, rfl, rfl, ready, by simp⟩
    · next busy =>
      rcases Option.map_eq_some_iff.1 taken with ⟨⟨unit', others'⟩, inner, same⟩
      cases same
      rcases takeReady?_eq_some inner
        with ⟨before, waits, after, rfl, unit_eq, rfl, ready, busy_before⟩
      refine ⟨head :: before, waits, after, rfl, unit_eq, rfl, ready, ?_⟩
      intro earlier member
      rcases List.mem_cons.1 member with same | inside
      · exact same ▸ Bool.eq_false_iff.2 busy
      · exact busy_before earlier inside

/-- No ready unit is found only when there is none. -/
theorem takeReady?_eq_none :
    ∀ {waiting : List WaitingUnit}, takeReady? waiting = none →
      ∀ waits ∈ waiting, waits.isReady = false
  | [], _ => by simp
  | head :: rest, none_ready => by
    unfold takeReady? at none_ready
    split at none_ready
    · simp at none_ready
    · next busy =>
      intro waits member
      rcases List.mem_cons.1 member with same | inside
      · exact same ▸ Bool.eq_false_iff.2 busy
      · exact takeReady?_eq_none (Option.map_eq_none_iff.1 none_ready) waits
          inside

@[simp]
theorem unit_release (key : String) (waits : WaitingUnit) :
    (waits.release key).unit = waits.unit := by
  unfold release
  split <;> rfl

@[simp]
theorem key_release (key : String) (waits : WaitingUnit) :
    (waits.release key).key = waits.key := by
  simp [WaitingUnit.key]

/-! ## One placement -/

/-- A waiting unit is taken out, and the others are released. -/
theorem place?_eq_some {unit : OrderingUnit} {others : List WaitingUnit}
    (taken : place? waiting = some (unit, others)) :
    ∃ before, ∃ waits : WaitingUnit, ∃ after,
      waiting = before ++ waits :: after ∧ waits.unit = unit ∧
      others = (before ++ after).map (release unit.key) ∧
      waits.isReady = true ∧ ∀ earlier ∈ before, earlier.isReady = false := by
  rcases Option.map_eq_some_iff.1 taken with ⟨⟨unit', others'⟩, inner, same⟩
  cases same
  rcases takeReady?_eq_some inner
    with ⟨before, waits, after, split, unit_eq, rfl, ready, busy⟩
  exact ⟨before, waits, after, split, unit_eq, rfl, ready, busy⟩

theorem Counted.distinct (counted : Counted needs placed waiting) :
    (waiting.map key).Nodup :=
  List.pairwise_map.2 (counted.ascending.imp String.ne_of_lt)

/-- A placement keeps the counters right. -/
theorem Counted.place {unit : OrderingUnit} {others : List WaitingUnit}
    (counted : Counted needs placed waiting)
    (taken : place? waiting = some (unit, others)) :
    Counted needs (unit.key :: placed) others := by
  rcases place?_eq_some taken with ⟨before, waits, after, rfl, rfl, rfl, -⟩
  have distinct := counted.distinct
  rw [List.map_append, List.map_cons] at distinct
  have different : ∀ other ∈ before ++ after, other.key ≠ waits.key := by
    intro other member same
    have inside : waits.key ∈ before.map key ++ after.map key := by
      rw [← same, ← List.map_append]
      exact List.mem_map_of_mem member
    exact (List.nodup_middle.1 distinct |> List.nodup_cons.1).1 inside
  have kept : ∀ other ∈ before ++ after,
      other ∈ before ++ waits :: after := by
    intro other member
    rcases List.mem_append.1 member with front | behind
    · exact List.mem_append_left _ front
    · exact List.mem_append_right _ (List.mem_cons_of_mem _ behind)
  have new : waits.key ∉ placed := counted.unplaced waits (by simp)
  constructor
  case ascending =>
    rw [List.pairwise_map]
    simp only [key_release]
    apply List.Pairwise.sublist _ counted.ascending
    exact List.Sublist.append_left (List.sublist_cons_self _ _) _
  case unplaced =>
    intro other member
    rcases List.mem_map.1 member with ⟨old, inside, rfl⟩
    rw [key_release]
    intro known
    rcases List.mem_cons.1 known with same | known
    · exact different old inside same
    · exact counted.unplaced old (kept old inside) known
  case needed =>
    intro other member
    rcases List.mem_map.1 member with ⟨old, inside, rfl⟩
    rw [unit_release, key_release]
    exact counted.needed old (kept old inside)
  case counted =>
    intro other member
    rcases List.mem_map.1 member with ⟨old, inside, rfl⟩
    have before_count := counted.counted old (kept old inside)
    rw [missing_cons new, ← counted.needed old (kept old inside)]
      at before_count
    rw [key_release, ← counted.needed old (kept old inside)]
    unfold release
    split
    · next needed =>
      have needs_it : waits.key ∈ old.unit.dependsOn := needed
      rw [if_pos needs_it] at before_count
      simp only [before_count]
      push_cast
      exact Int.add_sub_cancel _ _
    · next spare =>
      have spares_it : waits.key ∉ old.unit.dependsOn := spare
      rw [if_neg spares_it] at before_count
      exact before_count

/-- The waiting units from before the first placement to any later one, with
the units placed, the latest first. -/
inductive Placing (first : List WaitingUnit) :
    List OrderingUnit → List WaitingUnit → Prop
  | start : Placing first [] first
  | place {placed : List OrderingUnit} {waiting others : List WaitingUnit}
      {unit : OrderingUnit} :
      Placing first placed waiting → place? waiting = some (unit, others) →
      Placing first (unit :: placed) others

theorem Placing.counted {first : List WaitingUnit}
    {placed : List OrderingUnit} (begun : Counted needs [] first)
    (placing : Placing first placed waiting) :
    Counted needs (placed.map OrderingUnit.key) waiting := by
  induction placing with
  | start => exact begun
  | place _ taken step => exact step.place taken

/-! ## Any order in which the units can be placed -/

theorem Follows.mono {order : List String} :
    ∀ {placed placed' : List String}, (∀ name ∈ placed, name ∈ placed') →
      Follows needs placed order → Follows needs placed' order := by
  induction order with
  | nil => exact fun _ _ => trivial
  | cons head rest step =>
    intro placed placed' grows follows
    constructor
    · intro name member
      exact grows name (follows.1 name member)
    · apply step _ follows.2
      intro name member
      rcases List.mem_cons.1 member with same | old
      · exact same ▸ List.mem_cons_self
      · exact List.mem_cons_of_mem _ (grows name old)

theorem follows_append {first second : List String} :
    ∀ {placed : List String}, Follows needs placed (first ++ second) ↔
      Follows needs placed first ∧
        Follows needs (first.reverse ++ placed) second := by
  induction first with
  | nil => exact ⟨fun follows => ⟨trivial, follows⟩, And.right⟩
  | cons head rest step =>
    intro placed
    rw [List.cons_append, Follows, Follows, step, List.reverse_cons,
      List.append_assoc, List.singleton_append, and_assoc]

/-- A name whose needs were placed may be placed first. -/
theorem Follows.erase {key : String} {order : List String} :
    ∀ {placed : List String}, (∀ name ∈ needs key, name ∈ placed) →
      Follows needs placed order →
      Follows needs (key :: placed) (order.erase key) := by
  induction order with
  | nil => exact fun _ _ => trivial
  | cons head rest step =>
    intro placed ready follows
    by_cases same : head = key
    · subst same
      rw [List.erase_cons_head]
      exact follows.2
    · rw [List.erase_cons_tail (by simpa using same)]
      constructor
      · intro name member
        exact List.mem_cons_of_mem _ (follows.1 name member)
      · have inner := step
          (fun name member => List.mem_cons_of_mem _ (ready name member))
          follows.2
        apply Follows.mono _ inner
        intro name member
        simp only [List.mem_cons] at member ⊢
        tauto

/-- An order whose names need only each other, earlier ones only, or names that
were placed. -/
theorem follows_of_pairwise {order : List String} :
    ∀ {placed : List String},
      (order.Pairwise fun earlier later => later ∉ needs earlier) →
      (∀ key ∈ order, key ∉ needs key) →
      (∀ key ∈ order, ∀ name ∈ needs key, name ∈ placed ∨ name ∈ order) →
      Follows needs placed order := by
  induction order with
  | nil => exact fun _ _ _ => trivial
  | cons head rest step =>
    intro placed apart irreflexive complete
    rcases List.pairwise_cons.1 apart with ⟨head_apart, rest_apart⟩
    constructor
    · intro name member
      rcases complete head List.mem_cons_self name member with known | inside
      · exact known
      · rcases List.mem_cons.1 inside with same | behind
        · exact absurd (same ▸ member) (irreflexive head List.mem_cons_self)
        · exact absurd member (head_apart name behind)
    · apply step rest_apart
        (fun key inside => irreflexive key (List.mem_cons_of_mem _ inside))
      intro key inside name member
      rcases complete key (List.mem_cons_of_mem _ inside) name member
        with known | found
      · exact Or.inl (List.mem_cons_of_mem _ known)
      · rcases List.mem_cons.1 found with same | behind
        · exact Or.inl (same ▸ List.mem_cons_self)
        · exact Or.inr behind

theorem Follows.pairwise {order : List String} :
    ∀ {placed : List String}, Follows needs placed order → order.Nodup →
      (∀ key ∈ order, key ∉ placed) →
      order.Pairwise fun earlier later => later ∉ needs earlier := by
  induction order with
  | nil => exact fun _ _ _ => List.Pairwise.nil
  | cons head rest step =>
    intro placed follows distinct apart
    rcases List.nodup_cons.1 distinct with ⟨head_new, rest_distinct⟩
    rw [List.pairwise_cons]
    constructor
    · intro later behind member
      exact apart later (List.mem_cons_of_mem _ behind)
        (follows.1 later member)
    · apply step follows.2 rest_distinct
      intro key inside known
      rcases List.mem_cons.1 known with same | known
      · exact head_new (same ▸ inside)
      · exact apart key (List.mem_cons_of_mem _ inside) known

/-! ## Placing all units -/

/-- As long as some order of the waiting units is left, one of them is placed,
and none with a larger name than the first one of that order. -/
theorem place?_of_follows {head : String} {tail : List String}
    (counted : Counted needs placed waiting)
    (names : (head :: tail).Perm (waiting.map key))
    (follows : Follows needs placed (head :: tail)) :
    ∃ unit others, place? waiting = some (unit, others) ∧
      (unit.key = head ∨ unit.key < head) := by
  rcases List.mem_map.1 (names.mem_iff.1 List.mem_cons_self)
    with ⟨waits, member, key_eq⟩
  have ready : waits.isReady = true := by
    rw [isReady_iff counted member, key_eq]
    exact follows.1
  cases taken : place? waiting with
  | none =>
    have busy := takeReady?_eq_none (Option.map_eq_none_iff.1 taken) waits
      member
    rw [ready] at busy
    cases busy
  | some result =>
    rcases result with ⟨unit, others⟩
    refine ⟨unit, others, rfl, ?_⟩
    rcases place?_eq_some taken
      with ⟨before, first, after, rfl, rfl, -, -, busy⟩
    have behind : waits ∈ first :: after := by
      apply (List.mem_append.1 member).resolve_left
      intro front
      rw [busy waits front] at ready
      cases ready
    rcases List.mem_cons.1 behind with same | later
    · exact Or.inl (same ▸ key_eq)
    · have ascending := (List.pairwise_append.1 counted.ascending).2.1
      exact Or.inr (key_eq ▸ (List.pairwise_cons.1 ascending).1 waits later)

/-- If there is an order in which the waiting units can be placed, all of them
are placed, in such an order, and in one that does not come after it. -/
theorem arrange_spec (count : Nat) :
    ∀ {placed : List String} {waiting : List WaitingUnit}
      {order : List String}, waiting.length = count →
      Counted needs placed waiting → order.Perm (waiting.map key) →
      Follows needs placed order →
      (arrange count waiting).Perm (waiting.map WaitingUnit.unit) ∧
        Follows needs placed
          ((arrange count waiting).map OrderingUnit.key) ∧
        NotAfter ((arrange count waiting).map OrderingUnit.key) order := by
  induction count with
  | zero =>
    intro placed waiting order empty _ names _
    rw [List.length_eq_zero_iff.1 empty] at names ⊢
    rw [names.eq_nil]
    exact ⟨List.Perm.refl _, trivial, Or.inl rfl⟩
  | succ count step =>
    intro placed waiting order length counted names follows
    obtain ⟨head, tail, rfl⟩ : ∃ head tail, order = head :: tail := by
      apply List.exists_cons_of_ne_nil
      intro empty
      rw [empty] at names
      have none_waits := List.map_eq_nil_iff.1 names.nil_eq.symm
      rw [none_waits] at length
      cases length
    rcases place?_of_follows counted names follows
      with ⟨unit, others, taken, first⟩
    rcases place?_eq_some taken
      with ⟨before, waits, after, split, unit_eq, others_eq, ready, -⟩
    have member : waits ∈ waiting := by simp [split]
    have key_eq : waits.key = unit.key := congrArg OrderingUnit.key unit_eq
    have needs_placed : ∀ name ∈ needs unit.key, name ∈ placed := by
      rw [← key_eq]
      exact (isReady_iff counted member).1 ready
    have units_perm : (waiting.map WaitingUnit.unit).Perm
        (unit :: others.map WaitingUnit.unit) := by
      rw [split, others_eq, List.map_append, List.map_cons, unit_eq,
        List.map_map]
      simp [Function.comp_def]
    have keys_perm : (waiting.map key).Perm (unit.key :: others.map key) := by
      have mapped := units_perm.map OrderingUnit.key
      rw [List.map_cons, List.map_map, List.map_map] at mapped
      exact mapped
    have key_inside : unit.key ∈ head :: tail :=
      names.mem_iff.2 (keys_perm.mem_iff.2 List.mem_cons_self)
    have rest_names : ((head :: tail).erase unit.key).Perm
        (others.map key) :=
      (((List.perm_cons_erase key_inside).symm.trans names).trans
        keys_perm).cons_inv
    have rest_length : others.length = count := by
      have lengths := units_perm.length_eq
      simp only [List.length_map, List.length_cons] at lengths
      omega
    rcases step rest_length
        (counted.place taken) rest_names (follows.erase needs_placed)
      with ⟨rest_perm, rest_follows, rest_least⟩
    simp only [arrange, taken]
    refine ⟨(rest_perm.cons unit).trans units_perm.symm,
      ⟨needs_placed, rest_follows⟩, ?_⟩
    rcases first with same | smaller
    · subst same
      rw [List.erase_cons_head] at rest_least
      rcases rest_least with equal | before
      · exact Or.inl (congrArg _ equal)
      · exact Or.inr (List.Lex.cons before)
    · exact Or.inr (List.Lex.rel smaller)

end WaitingUnit

/-! ## Arranging a condensation -/

namespace Condensation

variable {condensation : Condensation}

/-- The names of the units that a unit depends on. -/
def needs (condensation : Condensation) (key : String) : NameSet :=
  ((condensation.find? key).map OrderingUnit.dependsOn).getD .empty

theorem find?_of_mem
    (distinct : (condensation.units.map OrderingUnit.key).Nodup)
    {unit : OrderingUnit} (member : unit ∈ condensation.units) :
    condensation.find? unit.key = some unit := by
  rcases condensation with ⟨units, keyOf⟩
  unfold find?
  induction units with
  | nil => exact absurd member List.not_mem_nil
  | cons head rest step =>
    rcases List.nodup_cons.1 distinct with ⟨head_new, rest_distinct⟩
    rcases List.mem_cons.1 member with same | inside
    · subst same
      simp
    · have different : head.key ≠ unit.key := fun same =>
        head_new (same ▸ List.mem_map_of_mem inside)
      rw [List.find?_cons_of_neg (by simpa using different)]
      exact step rest_distinct inside

theorem needs_of_mem
    (distinct : (condensation.units.map OrderingUnit.key).Nodup)
    {unit : OrderingUnit} (member : unit ∈ condensation.units) :
    condensation.needs unit.key = unit.dependsOn := by
  rw [needs, find?_of_mem distinct member]
  rfl

theorem byKey_perm
    (distinct : (condensation.units.map OrderingUnit.key).Nodup) :
    condensation.byKey.Perm condensation.units := by
  have names : ((condensation.units.map fun unit =>
      (unit.key, unit)).map Prod.fst).Nodup := by
    simpa [Function.comp_def] using distinct
  have mapped := (Keyed.entries_ofList_perm names).map Prod.snd
  rw [List.map_map] at mapped
  exact mapped.trans (by simp [Function.comp_def])

/-- Only the units matter, not the order in which they are numbered. -/
theorem byKey_eq_of_perm {other : Condensation}
    (distinct : (condensation.units.map OrderingUnit.key).Nodup)
    (same : other.units.Perm condensation.units) :
    other.byKey = condensation.byKey := by
  unfold byKey
  apply congrArg Keyed.values
  apply Keyed.ext
  intro name
  apply Option.ext
  intro unit
  have other_distinct : (other.units.map OrderingUnit.key).Nodup :=
    (same.map OrderingUnit.key).nodup_iff.2 distinct
  rw [Keyed.find?_ofList (by simpa [Function.comp_def] using other_distinct),
    Keyed.find?_ofList (by simpa [Function.comp_def] using distinct)]
  exact (same.map fun unit => (unit.key, unit)).mem_iff

theorem waiting_counted
    (distinct : (condensation.units.map OrderingUnit.key).Nodup) :
    WaitingUnit.Counted condensation.needs [] condensation.waiting := by
  have origin : ∀ waits ∈ condensation.waiting, ∃ unit ∈ condensation.units,
      WaitingUnit.ofUnit unit = waits := by
    intro waits member
    rcases List.mem_map.1 member with ⟨unit, inside, same⟩
    exact ⟨unit, (byKey_perm distinct).mem_iff.1 inside, same⟩
  have needed : ∀ waits ∈ condensation.waiting,
      waits.unit.dependsOn = condensation.needs waits.key := by
    intro waits member
    rcases origin waits member with ⟨unit, inside, rfl⟩
    exact (needs_of_mem distinct inside).symm
  constructor
  case ascending =>
    unfold waiting byKey Keyed.values
    rw [List.pairwise_map, List.pairwise_map]
    apply (List.Pairwise.and_mem.1 (Keyed.ofList _).ascending).imp
    intro earlier later both
    rcases both with ⟨earlier_in, later_in, before⟩
    have named : ∀ row ∈ (Keyed.ofList (condensation.units.map
        fun unit => (unit.key, unit))).entries, row.1 = row.2.key := by
      intro row member
      have inside := (Keyed.entries_ofList_perm
        (by simpa [Function.comp_def] using distinct)).mem_iff.1 member
      rcases List.mem_map.1 inside with ⟨unit, -, rfl⟩
      rfl
    rw [named earlier earlier_in, named later later_in] at before
    exact before
  case unplaced => simp
  case needed => exact needed
  case counted =>
    intro waits member
    rw [← needed waits member]
    rcases origin waits member with ⟨unit, -, rfl⟩
    simp [WaitingUnit.ofUnit, WaitingUnit.missing, NameSet.size]

theorem waiting_keys_perm
    (distinct : (condensation.units.map OrderingUnit.key).Nodup) :
    (condensation.waiting.map WaitingUnit.key).Perm
      (condensation.units.map OrderingUnit.key) := by
  have mapped := (byKey_perm distinct).map OrderingUnit.key
  unfold waiting
  rw [List.map_map]
  exact mapped

end Condensation

end ModuleAtlas
