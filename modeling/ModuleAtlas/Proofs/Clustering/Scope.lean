import ModuleAtlas.Proofs.Clustering.Collapse

/-!
# The candidates of a branch

A branch works on its own candidates, so that a root module should list seeds
only and every other module only components of the module above it.  Answers
are checked against all known components, however, and not against what the
question listed: a reply may name a component that is known elsewhere.  When no
reply names two groups alike, a fresh run ends within its seeds for certain
exactly when no answer names a component outside the branch it divides.
-/

namespace ModuleAtlas

open Forest StoredTree

/-- Root modules list seeds, and every other module lists components of the
module above it. -/
structure ModuleTree.Scoped (tree : ModuleTree) (seeds : List String) :
    Prop where
  roots : ∀ entry ∈ tree.modules, entry.above = [] →
    ∀ id ∈ entry.value.components, id ∈ seeds
  children : ∀ parent ∈ tree.modules, ∀ child ∈ tree.modules,
    child.above = parent.path →
    ∀ id ∈ child.value.components, id ∈ parent.value.components

/-! ## Scopes by rows -/

/-- What the modules below a path may list. -/
inductive Offers (seeds : List String)
    (rows : Multiset (List String × StoredModule)) :
    List String → List String → Prop where
  | top : Offers seeds rows [] seeds
  | inner {path : List String} {value : StoredModule}
      (member : (path, value) ∈ rows) :
      Offers seeds rows path value.components

/-- Every row keeps to what is offered at its place. -/
def Confined (seeds : List String)
    (rows : Multiset (List String × StoredModule)) : Prop :=
  ∀ path offered name value, Offers seeds rows path offered →
    (path ++ [name], value) ∈ rows →
    ∀ id ∈ value.components, id ∈ offered

section

variable {seeds : List String}
  {earlier later : Multiset (List String × StoredModule)}

theorem Offers.mono (grown : earlier ≤ later) {path offered : List String}
    (offers : Offers seeds earlier path offered) :
    Offers seeds later path offered := by
  cases offers with
  | top => exact .top
  | inner member => exact .inner (Multiset.mem_of_le grown member)

/-- What is offered at a place of an ordered forest is certain. -/
theorem Offers.unique {forest : StoredTree} (ordered : forest.Ordered)
    {path left right : List String}
    (offers : Offers seeds (rows [] forest) path left)
    (offers' : Offers seeds (rows [] forest) path right) : left = right := by
  have nowhere : ∀ value, ([], value) ∉ rows [] forest := by
    simp [mem_rows_nil ordered, valueAt?]
  cases offers with
  | top =>
    cases offers' with
    | top => rfl
    | inner member => exact absurd member (nowhere _)
  | inner member =>
    cases offers' with
    | top => exact absurd member (nowhere _)
    | inner member' =>
      rw [mem_rows_nil ordered] at member member'
      rw [member, Option.some.injEq] at member'
      rw [member']

theorem Confined.anti (grown : earlier ≤ later)
    (confined : Confined seeds later) : Confined seeds earlier := by
  intro path offered name value offers member
  exact confined path offered name value (offers.mono grown)
    (Multiset.mem_of_le grown member)

end

namespace ModuleTree

theorem scoped_iff_confined (tree : ModuleTree) (seeds : List String) :
    tree.Scoped seeds ↔ Confined seeds (rows [] tree.toStored) := by
  constructor
  · rintro ⟨roots, children⟩ path offered name value offers member id among
    rcases mem_rows_toStored.1 member with ⟨child, inside, full, rfl⟩
    rw [Entry.path] at full
    rcases List.append_inj' full rfl with ⟨above, _⟩
    cases offers with
    | top => exact roots child inside above id among
    | inner member =>
      rcases mem_rows_toStored.1 member with ⟨parent, inside', same, rfl⟩
      exact children parent inside' child inside (above.trans same.symm) id
        among
  · intro confined
    have listed : ∀ entry ∈ tree.modules,
        (entry.above ++ [entry.name], entry.value.stored) ∈
          rows [] tree.toStored := fun entry inside =>
      mem_rows_toStored.2 ⟨entry, inside, rfl, rfl⟩
    constructor
    · intro entry inside above
      have row := listed entry inside
      rw [above] at row
      exact confined [] seeds entry.name entry.value.stored .top row
    · intro parent inside child inside' above
      apply confined child.above parent.value.stored.components child.name
        child.value.stored _ (listed child inside')
      rw [above]
      exact .inner (mem_rows_toStored.2 ⟨parent, inside, rfl, rfl⟩)

end ModuleTree

namespace Clustering

variable {rules : ClusterRules} {allowed : Question → Answer → Prop}
  {seeds : List String}

/-- An answer names no known component outside the branch it divides. -/
def Stays (rules : ClusterRules) (branch : Branch) (answer : Answer) : Prop :=
  ∀ added ∈ (rules.judge answer).1.modules,
    ∀ id ∈ added.components, id ∈ branch.candidates

/-- Pending branches are in place and have the candidates offered there. -/
structure Held (seeds : List String) (progress : Progress) : Prop where
  placed : Placed progress.state.tree.toStored progress.pending
  offered : ∀ branch ∈ progress.pending,
    Offers seeds (rows [] progress.state.tree.toStored) branch.path
      branch.candidates

theorem held_begin (seeds : List String) : Held seeds (begin seeds none) := by
  refine ⟨placed_begin seeds none, ?_⟩
  intro branch member
  simp only [begin, Option.filter_none, Progress.pending, Multiset.map_zero,
    add_zero, Multiset.mem_singleton] at member
  subst member
  exact .top

/-! ## What a step keeps -/

/-- The rows of the modules that an answer puts below a branch in place. -/
theorem rows_grow {forest : StoredTree} {branch : Branch} {answer : Answer}
    {rest : Multiset Branch} (placed : Placed forest (branch ::ₘ rest))
    (apart : ((rules.judge answer).1.modules.map NewModule.name).Nodup) :
    rows [] (changeBelow (putAll (rules.judge answer).1.modules) branch.path
        forest) =
      rows [] forest + ((rules.judge answer).1.modules :
        Multiset NewModule).map (NewModule.row branch.path) := by
  rw [rows_changeBelow _ _ (placed.childless branch
    (Multiset.mem_cons_self _ _)), List.nil_append, rows_putAll _ apart]

/-- A step keeps branches held and loses no module. -/
theorem held_step
    (apart : ∀ question answer, allowed question answer →
      ((rules.judge answer).1.modules.map NewModule.name).Nodup)
    {first next : Progress} (step : Step rules allowed first next)
    (held : Held seeds first) :
    Held seeds next ∧ rows [] first.state.tree.toStored ≤
      rows [] next.state.tree.toStored := by
  have placed := placed_step apart step held.placed
  cases effect_of_step step with
  | keep tree pending =>
    refine ⟨⟨placed, ?_⟩, by rw [tree]⟩
    rw [tree, pending]
    exact held.offered
  | drop tree pending spent =>
    refine ⟨⟨placed, ?_⟩, by rw [tree]⟩
    intro branch member
    rw [tree]
    apply held.offered
    rw [pending]
    exact Multiset.mem_cons_of_mem member
  | @grow branch question answer rest asked answered before tree after =>
    have here := held.placed
    rw [before] at here
    have grown : rows [] first.state.tree.toStored ≤
        rows [] next.state.tree.toStored := by
      rw [tree, rows_grow here (apart question answer answered)]
      exact Multiset.le_add_right _ _
    refine ⟨⟨placed, ?_⟩, grown⟩
    intro other member
    rw [after] at member
    rcases Multiset.mem_add.1 member with new | old
    · rcases exists_of_mem_pending (Multiset.mem_coe.1 new)
        with ⟨added, among, rfl⟩
      refine @Offers.inner seeds _ _ added.stored ?_
      rw [tree, rows_grow here (apart question answer answered)]
      apply Multiset.mem_add.2 (Or.inr _)
      exact Multiset.mem_map_of_mem (NewModule.row branch.path) among
    · apply (held.offered other _).mono grown
      rw [before]
      exact Multiset.mem_cons_of_mem old

theorem held_schedule
    (apart : ∀ question answer, allowed question answer →
      ((rules.judge answer).1.modules.map NewModule.name).Nodup)
    {first last : Progress} (schedule : Schedule rules allowed first last)
    (held : Held seeds first) :
    Held seeds last ∧ rows [] first.state.tree.toStored ≤
      rows [] last.state.tree.toStored := by
  induction schedule with
  | refl => exact ⟨held, le_rfl⟩
  | tail _ step before =>
    have onward := held_step apart step before.1
    exact ⟨onward.1, before.2.trans onward.2⟩

/-- An answer that stays inside its branch keeps the tree confined. -/
theorem confined_step
    (apart : ∀ question answer, allowed question answer →
      ((rules.judge answer).1.modules.map NewModule.name).Nodup)
    {first next : Progress} (step : Step rules allowed first next)
    (held : Held seeds first)
    (stays : ∀ branch question answer, (branch, question) ∈ first.asking →
      allowed question answer → Stays rules branch answer)
    (confined : Confined seeds (rows [] first.state.tree.toStored)) :
    Confined seeds (rows [] next.state.tree.toStored) := by
  have onward := held_step apart step held
  cases effect_of_step step with
  | keep tree pending => rwa [tree]
  | drop tree pending spent => rwa [tree]
  | @grow branch question answer rest asked answered before tree after =>
    have here := held.placed
    rw [before] at here
    have offered : Offers seeds (rows [] next.state.tree.toStored)
        branch.path branch.candidates := by
      apply (held.offered branch _).mono onward.2
      rw [before]
      exact Multiset.mem_cons_self _ _
    have split : ∀ {row}, row ∈ rows [] next.state.tree.toStored →
        row ∈ rows [] first.state.tree.toStored ∨
          ∃ added ∈ (rules.judge answer).1.modules,
            NewModule.row branch.path added = row := by
      intro row member
      rw [tree, rows_grow here (apart question answer answered),
        Multiset.mem_add] at member
      exact member.imp id Multiset.mem_map.1
    intro path listed name value offers member id among
    rcases split member with old | ⟨added, new, same⟩
    · -- an old row is below an old row, because nothing is below the branch
      cases offers with
      | top => exact confined [] seeds name value .top old id among
      | inner above =>
        rcases split above with old' | ⟨added, _, same⟩
        · exact confined path _ name value (.inner old') old id among
        · rw [← (Prod.mk.inj same).1, List.append_assoc] at old
          exact absurd old (not_mem_rows_of_childless
            first.state.tree.toStored_ordered
            (here.childless branch (Multiset.mem_cons_self _ _)) _ _ _)
    · rcases Prod.mk.inj same with ⟨full, rfl⟩
      rw [← (List.append_inj' full rfl).1] at offers
      rw [offers.unique next.state.tree.toStored_ordered offered]
      exact stays branch question answer asked answered added new id among

/-! ## An answer that strays -/

/-- A run that takes in an answer outside its branch ends with a tree that is
not scoped. -/
theorem exists_ends_strayed
    (apart : ∀ question answer, allowed question answer →
      ((rules.judge answer).1.modules.map NewModule.name).Nodup)
    {progress : Progress} {branch : Branch} {question : Question}
    {answer : Answer}
    (reached : Schedule rules allowed (begin seeds none) progress)
    (asked : (branch, question) ∈ progress.asking)
    (answered : allowed question answer)
    (strays : ¬ Stays rules branch answer) :
    ∃ last, Ends rules allowed (begin seeds none) last ∧
      ¬ last.state.tree.Scoped seeds := by
  have held := (held_schedule apart reached (held_begin seeds)).1
  rcases progress with ⟨state, waiting, asking⟩
  rcases Multiset.exists_cons_of_mem asked with ⟨others, rfl⟩
  rcases taken : state.absorb rules branch answer with ⟨next, children⟩
  have step : Step rules allowed
      ⟨state, waiting, (branch, question) ::ₘ others⟩
      ⟨next, children + waiting, others⟩ := .absorb answered taken
  rcases exists_ends rules allowed ⟨next, children + waiting, others⟩
    with ⟨last, ends⟩
  refine ⟨last, ⟨(reached.tail step).trans ends.schedule, ends.stuck⟩, ?_⟩
  intro fine
  apply strays
  intro added among id member
  have pending : branch ∈ waiting
      + ((branch, question) ::ₘ others).map Prod.fst := by
    simp
  have kept := (held_schedule apart ends.schedule
    (held_step apart step held).1).2
  have confined := ((last.state.tree.scoped_iff_confined seeds).1
    fine).anti kept
  have grown := (held_step apart step held).2
  have listed : NewModule.row branch.path added ∈
      rows [] next.tree.toStored := by
    have here := held.placed.childless branch pending
    rw [(ClusterState.absorb_located taken (by rw [here]; rfl)).1,
      rows_changeBelow _ _ here, List.nil_append,
      rows_putAll _ (apart question answer answered)]
    apply Multiset.mem_add.2 (Or.inr _)
    exact Multiset.mem_map_of_mem (NewModule.row branch.path) among
  exact confined branch.path branch.candidates added.name added.stored
    ((held.offered branch pending).mono grown) listed id member

/-- When no reply names two groups alike, every end of a fresh run is scoped
exactly when no answer that is taken in names a component outside its
branch. -/
theorem scoped_iff_stays (rules : ClusterRules)
    (allowed : Question → Answer → Prop)
    (apart : ∀ question answer, allowed question answer →
      ((rules.judge answer).1.modules.map NewModule.name).Nodup)
    (seeds : List String) :
    (∀ last, Ends rules allowed (begin seeds none) last →
        last.state.tree.Scoped seeds) ↔
      ∀ progress, Schedule rules allowed (begin seeds none) progress →
        ∀ branch question answer, (branch, question) ∈ progress.asking →
          allowed question answer → Stays rules branch answer := by
  constructor
  · intro fine progress reached branch question answer asked answered
    by_contra strays
    rcases exists_ends_strayed apart reached asked answered strays
      with ⟨last, ends, unscoped⟩
    exact unscoped (fine last ends)
  · intro stays last ends
    rw [ModuleTree.scoped_iff_confined]
    have confined : ∀ {progress},
        Schedule rules allowed (begin seeds none) progress →
        Confined seeds (rows [] progress.state.tree.toStored) := by
      intro progress schedule
      induction schedule with
      | refl =>
        intro path listed name value offers member
        exact absurd member (by simp [begin, ClusterState.start,
          ModuleTree.toStored, ModuleTree.empty, Forest.map, rows])
      | tail before step fine =>
        exact confined_step apart step
          (held_schedule apart before (held_begin seeds)).1
          (stays _ before) fine
    exact confined ends.schedule

/-- The division of three functions, each reply with names of its own. -/
theorem scoped_iff_stays_sample :
    (∀ question answer, Answers Sample.oracle question answer →
      ((Sample.rules.judge answer).1.modules.map NewModule.name).Nodup) ∧
    ((∀ last, Ends Sample.rules (Answers Sample.oracle)
        (begin ["a", "b", "c"] none) last →
        last.state.tree.Scoped ["a", "b", "c"]) ↔
      ∀ progress, Schedule Sample.rules (Answers Sample.oracle)
          (begin ["a", "b", "c"] none) progress →
        ∀ branch question answer, (branch, question) ∈ progress.asking →
          Answers Sample.oracle question answer →
          Stays Sample.rules branch answer) := by
  have apart : ∀ question answer, Answers Sample.oracle question answer →
      ((Sample.rules.judge answer).1.modules.map NewModule.name).Nodup :=
    fun _ _ answered => Sample.namesApart.modules_nodup Sample.rules answered
  exact ⟨apart, scoped_iff_stays Sample.rules (Answers Sample.oracle) apart
    ["a", "b", "c"]⟩

namespace Sample

/-- A reply to a question about two functions that names a third one. -/
def stray : String :=
  "<GROUPED_COMPONENTS>\x7b" ++
  "'m': \x7b'components': ['a', 'c']\x7d, 'n': \x7b'components': ['b']\x7d" ++
  "\x7d</GROUPED_COMPONENTS>"

theorem judge_stray : (Sample.rules.judge (.ok stray)).1 =
    .divided [⟨"m", "", ⟨["a", "c"], by decide⟩⟩,
      ⟨"n", "", ⟨["b"], by decide⟩⟩] := by
  cbv

end Sample

/-- A run from two functions ends with a module that lists a third one, which
is known but is no seed. -/
theorem stray_leaves_seeds :
    ∃ last, Ends Sample.rules (Answers fun _ => .ok Sample.stray)
        (begin ["a", "b"] none) last ∧
      ¬ last.state.tree.Scoped ["a", "b"] := by
  rcases prepared : (ClusterState.start .empty).prepare Sample.rules
      ⟨[], ["a", "b"]⟩ with ⟨asked, question⟩
  cases question with
  | none =>
    have small := (ClusterState.prepare_eq_none prepared).1
    rw [Sample.listing_large] at small
    exact absurd small (by simp)
  | some question =>
    have reached : Schedule Sample.rules (Answers fun _ => .ok Sample.stray)
        (begin ["a", "b"] none)
        ⟨asked, 0, (⟨[], ["a", "b"]⟩, question) ::ₘ 0⟩ :=
      .single (.ask prepared)
    have waits : ((⟨[], ["a", "b"]⟩, question) : Branch × Question) ∈
        (⟨[], ["a", "b"]⟩, question) ::ₘ
          (0 : Multiset (Branch × Question)) := Multiset.mem_cons_self _ _
    refine exists_ends_strayed ?_ reached waits rfl ?_
    · rintro _ _ rfl
      rw [Sample.judge_stray]
      simp [Verdict.modules]
    · intro stays
      rw [Stays, Sample.judge_stray] at stays
      have outside : "c" ∈ ["a", "b"] :=
        stays _ (List.mem_cons_self) "c" (by decide)
      exact absurd outside (by decide)

end Clustering

end ModuleAtlas
