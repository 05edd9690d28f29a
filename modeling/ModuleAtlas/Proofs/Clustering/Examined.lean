import ModuleAtlas.Proofs.Clustering.Depth
import ModuleAtlas.Proofs.Clustering.Outcomes

/-!
# Leaves that were examined

The history of a run tells which branch created a module: the one that was last
divided into modules with one at that path.  A new module is examined in its
turn, unless it has as many components as its creator had known candidates.  As
long as a module stays a leaf, no examination has divided it, so either its
components fit the budget or the service was asked about them in vain.

Two branches may meet at one path.  Then a module is replaced, and the leaf that
is left is the one of the branch that came last.
-/

namespace ModuleAtlas

namespace Clustering

open Forest StoredTree

/-! ## Creators -/

/-- The last module that an event puts at a path. -/
def Event.put? (rules : ClusterRules) (path : List String) (event : Event) :
    Option NewModule :=
  (event.modules rules).reverse.find? fun added =>
    event.branch.path ++ [added.name] = path

/-- The last branch that put a module at a path, and that module. -/
def creation? (rules : ClusterRules) (path : List String)
    (events : List Event) : Option (Branch × NewModule) :=
  events.reverse.findSome? fun event =>
    (event.put? rules path).map fun added => (event.branch, added)

section

variable {rules : ClusterRules} {path : List String} {event : Event}

theorem creation?_concat (rules : ClusterRules) (path : List String)
    (events : List Event) (event : Event) :
    creation? rules path (events ++ [event]) =
      ((event.put? rules path).map fun added => (event.branch, added)).or
        (creation? rules path events) := by
  rw [creation?, creation?, List.reverse_append, List.findSome?_append,
    List.reverse_singleton, List.findSome?_singleton]

theorem creation?_of_put {added : NewModule}
    (put : event.put? rules path = some added) (events : List Event) :
    creation? rules path (events ++ [event]) = some (event.branch, added) := by
  rw [creation?_concat, put]
  rfl

theorem creation?_of_not_put (put : event.put? rules path = none)
    (events : List Event) :
    creation? rules path (events ++ [event]) =
      creation? rules path events := by
  rw [creation?_concat, put]
  rfl

theorem put?_of_idle (idle : event.modules rules = []) (path : List String) :
    event.put? rules path = none := by
  rw [Event.put?, idle]
  rfl

end

/-! ## Nodes after a division -/

theorem changeBelow_eq_nil {change : StoredTree → StoredTree} {first : String}
    {path : List String} {forest : StoredTree}
    (bare : changeBelow change (first :: path) forest = .nil) :
    forest = .nil := by
  cases forest with
  | nil => rfl
  | node name value children rest =>
    rw [changeBelow_node] at bare
    split at bare <;> exact absurd bare (by simp)

section Division

variable {modules : List NewModule} (filled : modules ≠ [])
  {above : List String} {forest inner : StoredTree}
  (located : level? above forest = some inner) {value : StoredModule}
  {children : StoredTree}

include filled in
/-- The module that is divided keeps its value and is no leaf. -/
theorem find?_divided_self (met :
    find? above (changeBelow (putAll modules) above forest) =
      some (value, children)) :
    (∃ former, find? above forest = some (value, former)) ∧
      children ≠ .nil := by
  have nonempty : above ≠ [] := by
    rintro rfl
    rw [find?_root] at met
    exact absurd met (by simp)
  have kept := find?_changeBelow_above (putAll modules) nonempty [] forest
  rw [List.append_nil] at kept
  rw [kept, Option.map_eq_some_iff] at met
  rcases met with ⟨⟨same, former⟩, met, changed⟩
  obtain ⟨rfl, rfl⟩ := Prod.mk.inj changed
  refine ⟨⟨former, met⟩, ?_⟩
  rw [changeBelow_root]
  exact putAll_grows filled former

include located

/-- A module above a division keeps its value and is no leaf. -/
theorem find?_divided_above {path : List String} (higher : path <+: above)
    (apart : path ≠ above) (met :
      find? path (changeBelow (putAll modules) above forest) =
        some (value, children)) :
    (∃ former, find? path forest = some (value, former)) ∧
      children ≠ .nil := by
  have nonempty : path ≠ [] := by
    rintro rfl
    rw [find?_root] at met
    exact absurd met (by simp)
  rcases higher with ⟨rest, rfl⟩
  rw [find?_changeBelow_above _ nonempty, Option.map_eq_some_iff] at met
  rcases met with ⟨⟨same, former⟩, met, changed⟩
  obtain ⟨rfl, rfl⟩ := Prod.mk.inj changed
  refine ⟨⟨former, met⟩, fun bare => ?_⟩
  rw [level?_append, level?_of_find? met, Option.bind_some] at located
  cases rest with
  | nil => exact apart (List.append_nil path).symm
  | cons first rest =>
    -- the location of the division is below this module
    obtain rfl : former = .nil := changeBelow_eq_nil bare
    exact absurd located (by simp)

/-- What is below a division is one of its modules or was there before. -/
theorem find?_divided_below {first : String} {other : List String} (met :
    find? (above ++ first :: other)
        (changeBelow (putAll modules) above forest) =
      some (value, children)) :
    (∃ added, (modules.reverse.find? fun added =>
        above ++ [added.name] = above ++ first :: other) = some added ∧
        added.stored = value) ∨
    (modules.reverse.find? fun added =>
        above ++ [added.name] = above ++ first :: other) = none ∧
      find? (above ++ first :: other) forest = some (value, children) := by
  have names (added : NewModule) :
      above ++ [added.name] = above ++ first :: other ↔
        added.name = first ∧ other = [] := by simp
  rw [find?_changeBelow_below, located, Option.bind_some, find?_putAll] at met
  simp only [names]
  cases found : modules.reverse.find? fun added => added.name = first with
  | some added =>
    rw [found] at met
    by_cases last : other = []
    · simp only [last, if_true, Option.some.injEq, Prod.mk.injEq] at met
      exact .inl ⟨added, by simpa [last] using found, met.1⟩
    · simp [last] at met
  | none =>
    rw [found] at met
    refine .inr ⟨?_, by rwa [find?_append, located]⟩
    rw [List.find?_eq_none] at found ⊢
    intro added member
    have different := found added member
    simp_all

include filled

/-- A node after a division is a new module or was there before.  Where it is a
leaf, it was one before and was not divided. -/
theorem find?_divided {path : List String} (met :
    find? path (changeBelow (putAll modules) above forest) =
      some (value, children)) :
    (∃ added, (modules.reverse.find? fun added =>
        above ++ [added.name] = path) = some added ∧ added.stored = value) ∨
    (modules.reverse.find? fun added => above ++ [added.name] = path) = none ∧
      ∃ former, find? path forest = some (value, former) ∧
        (children = .nil → former = .nil ∧ path ≠ above) := by
  have outside (notBelow : ∀ name, above ++ [name] ≠ path) :
      (modules.reverse.find? fun added => above ++ [added.name] = path) =
        none := by
    rw [List.find?_eq_none]
    intro added _
    rw [decide_eq_true_iff]
    exact notBelow added.name
  by_cases here : path = above
  · subst here
    obtain ⟨⟨former, kept⟩, filled⟩ := find?_divided_self filled met
    exact .inr ⟨outside fun name => by simp, former, kept,
      fun bare => absurd bare filled⟩
  by_cases below : above <+: path
  · rcases below with ⟨rest, rfl⟩
    cases rest with
    | nil => exact absurd (List.append_nil above) here
    | cons first other =>
      exact (find?_divided_below located met).imp_right fun ⟨apart, kept⟩ =>
        ⟨apart, children, kept, fun bare => ⟨bare, here⟩⟩
  have apart := outside fun name same => below ⟨[name], same⟩
  by_cases higher : path <+: above
  · obtain ⟨⟨former, kept⟩, filled⟩ :=
      find?_divided_above located higher here met
    exact .inr ⟨apart, former, kept, fun bare => absurd bare filled⟩
  · rw [find?_changeBelow_of_apart _ below higher] at met
    exact .inr ⟨apart, children, met, fun bare => ⟨bare, here⟩⟩

end Division

/-! ## Leaves along a history -/

/-- Why a leaf with these components is not examined any more. -/
inductive Excused (rules : ClusterRules) (events : List Event)
    (path components : List String) : Prop where
  | small (fits : fits rules ⟨path, components⟩ = true)
  | exempt {creator : Branch} {added : NewModule}
      (created : creation? rules path events = some (creator, added))
      (large : rules.known creator.candidates ≤ components.length)
  | vain {question : Question} {answer : Answer} {located : Bool}
      (asked : .asked ⟨path, components⟩ question ∈ events)
      (answered : .answered ⟨path, components⟩ question answer located ∈ events)
      (undivided : rules.kind answer ≠ .divided)

/-- Every module has a creator, every open question was asked, and every leaf is
excused or still to be examined. -/
structure Tracked (rules : ClusterRules) (events : List Event)
    (progress : Progress) : Prop where
  created : ∀ {path value children},
    find? path progress.state.tree.toStored = some (value, children) →
    ∃ creator added, creation? rules path events = some (creator, added) ∧
      added.stored = value
  asked : ∀ entry ∈ progress.asking, .asked entry.1 entry.2 ∈ events
  leaves : ∀ {path value},
    find? path progress.state.tree.toStored = some (value, .nil) →
    Excused rules events path value.components ∨
      ⟨path, value.components⟩ ∈ progress.pending

section Tracked

variable {rules : ClusterRules} {allowed : Question → Answer → Prop}
  {events : List Event} {event : Event} {earlier later : Progress}

theorem Excused.extend {path components : List String}
    (excused : Excused rules events path components)
    (put : event.put? rules path = none) :
    Excused rules (events ++ [event]) path components := by
  cases excused with
  | small fits => exact .small fits
  | exempt created large =>
    exact .exempt (by rwa [creation?_of_not_put put]) large
  | vain asked answered undivided =>
    exact .vain (List.mem_append_left _ asked)
      (List.mem_append_left _ answered) undivided

/-- An event that puts no modules into the tree keeps track of the leaves when
it excuses the branch that it takes away. -/
theorem Tracked.idle (tracked : Tracked rules events earlier)
    (idle : event.modules rules = [])
    (tree : later.state.tree.toStored = earlier.state.tree.toStored)
    (asked : ∀ entry ∈ later.asking,
      entry ∈ earlier.asking ∨ .asked entry.1 entry.2 = event)
    (taken : ∀ {path value},
      find? path earlier.state.tree.toStored = some (value, .nil) →
      ⟨path, value.components⟩ ∈ earlier.pending →
      Excused rules (events ++ [event]) path value.components ∨
        ⟨path, value.components⟩ ∈ later.pending) :
    Tracked rules (events ++ [event]) later := by
  refine ⟨?_, ?_, ?_⟩
  · intro path value children met
    rw [tree] at met
    rw [creation?_of_not_put (put?_of_idle idle path)]
    exact tracked.created met
  · intro entry member
    rcases asked entry member with old | same
    · exact List.mem_append_left _ (tracked.asked entry old)
    · exact List.mem_append_right _ (List.mem_singleton.2 same)
  · intro path value met
    rw [tree] at met
    rcases tracked.leaves met with excused | pending
    · exact .inl (excused.extend (put?_of_idle idle path))
    · exact taken met pending

/-- An event that divides a branch keeps track of the leaves: the new ones are
to be examined, apart from those that are exempt. -/
theorem Tracked.divide (tracked : Tracked rules events earlier)
    (filled : event.modules rules ≠ []) {inner : StoredTree}
    (located : level? event.branch.path earlier.state.tree.toStored =
      some inner)
    (tree : later.state.tree.toStored =
      changeBelow (putAll (event.modules rules)) event.branch.path
        earlier.state.tree.toStored)
    (asked : ∀ entry ∈ later.asking, entry ∈ earlier.asking)
    (brought : ∀ child ∈ event.children rules, child ∈ later.pending)
    (kept : ∀ branch ∈ earlier.pending, branch ≠ event.branch →
      branch ∈ later.pending) :
    Tracked rules (events ++ [event]) later := by
  refine ⟨?_, ?_, ?_⟩
  · intro path value children met
    rw [tree] at met
    rcases find?_divided filled located met
      with ⟨added, put, same⟩ | ⟨put, former, met, _⟩
    · exact ⟨event.branch, added, creation?_of_put put events, same⟩
    · rw [creation?_of_not_put put]
      exact tracked.created met
  · exact fun entry member => List.mem_append_left _
      (tracked.asked entry (asked entry member))
  · intro path value met
    rw [tree] at met
    rcases find?_divided filled located met
      with ⟨added, put, rfl⟩ | ⟨put, former, met, leaf⟩
    · have member := List.mem_reverse.1 (List.mem_of_find?_eq_some put)
      have here : event.branch.path ++ [added.name] = path := by
        simpa using List.find?_some put
      by_cases smaller : added.components.size < rules.size event.branch
      · refine .inr (brought _ (List.mem_map.2 ⟨added, ?_, by rw [here]; rfl⟩))
        exact List.mem_filter.2 ⟨member, decide_eq_true smaller⟩
      · refine .inl (.exempt (creation?_of_put put events) ?_)
        rw [← size_eq_known]
        exact not_lt.1 smaller
    · obtain ⟨rfl, apart⟩ := leaf rfl
      rcases tracked.leaves met with excused | pending
      · exact .inl (excused.extend put)
      · exact .inr (kept _ pending fun same => apart (by rw [← same]))

theorem tracked_step (occurs : Occurs rules allowed event earlier later)
    (tracked : Tracked rules events earlier) :
    Tracked rules (events ++ [event]) later := by
  cases occurs with
  | @settle branch state next waiting asking prepared =>
    obtain ⟨small, tree, _⟩ := ClusterState.prepare_eq_none prepared
    refine tracked.idle rfl (congrArg ModuleTree.toStored tree)
      (fun entry member => .inl member) fun met pending => ?_
    rw [Progress.pending, Multiset.cons_add, Multiset.mem_cons] at pending
    rcases pending with rfl | pending
    · exact .inl (.small small)
    · exact .inr pending
  | @ask branch question state next waiting asking prepared =>
    obtain ⟨_, _, tree, _⟩ := ClusterState.prepare_eq_some prepared
    refine tracked.idle rfl (congrArg ModuleTree.toStored tree) ?_
      fun met pending => .inr ?_
    · intro entry member
      rcases Multiset.mem_cons.1 member with rfl | old
      · exact .inr rfl
      · exact .inl old
    · simpa [Progress.pending] using pending
  | @absorb branch question answer state next children waiting asking
      answered taken =>
    have asked : .asked branch question ∈ events :=
      tracked.asked (branch, question) (Multiset.mem_cons_self _ _)
    have fewer : ∀ entry ∈ asking, entry ∈ (branch, question) ::ₘ asking :=
      fun entry member => Multiset.mem_cons_of_mem member
    have split {other : Branch} (pending : other ∈
        Progress.pending ⟨state, waiting, (branch, question) ::ₘ asking⟩) :
        other = branch ∨
          other ∈ Progress.pending ⟨next, children + waiting, asking⟩ := by
      rw [Progress.pending, Multiset.map_cons, Multiset.add_cons,
        Multiset.mem_cons] at pending
      refine pending.imp_right fun inside => ?_
      rw [Progress.pending, add_assoc]
      exact Multiset.mem_add.2 (.inr inside)
    cases located : level? branch.path state.tree.toStored with
    | none =>
      have tree := (ClusterState.absorb_lost taken located).1
      refine tracked.idle rfl (congrArg ModuleTree.toStored tree)
        (fun entry member => .inl (fewer entry member)) fun met pending => ?_
      rcases split pending with rfl | pending
      · -- a branch whose location is lost is no leaf
        exact absurd (level?_of_find? met) (by simp [located])
      · exact .inr pending
    | some inner =>
      obtain ⟨tree, brought, _⟩ :=
        ClusterState.absorb_located taken (by rw [located]; rfl)
      by_cases divided : rules.kind answer = .divided
      · refine tracked.divide ?_ located tree fewer ?_ ?_
        · exact ClusterRules.modules_of_divided divided
        · intro child member
          have inside : child ∈ children := by
            rw [brought]
            exact member
          simp [Progress.pending, inside]
        · exact fun other pending apart => (split pending).resolve_left apart
      · have none := ClusterRules.modules_of_undivided divided
        have kept := (ClusterState.absorb_undivided taken divided).1
        refine tracked.idle (by simpa [Event.modules] using none)
          (congrArg ModuleTree.toStored kept)
          (fun entry member => .inl (fewer entry member))
          fun met pending => ?_
        rcases split pending with rfl | pending
        · exact .inl (.vain (List.mem_append_left _ asked)
            (List.mem_append_right _ (List.mem_singleton_self _)) divided)
        · exact .inr pending

/-- A run that begins with seeds keeps track of its leaves. -/
theorem tracked_history {seeds : List String}
    (history : History rules allowed (begin seeds none) events later) :
    Tracked rules events later := by
  induction history with
  | start =>
    have bare : (begin seeds none).state.tree.toStored = .nil := rfl
    refine ⟨?_, ?_, ?_⟩
    · intro path value children met
      rw [bare, find?_empty] at met
      exact absurd met (by simp)
    · exact fun entry absent => absurd absent (Multiset.notMem_zero entry)
    · intro path value met
      rw [bare, find?_empty] at met
      exact absurd met (by simp)
  | extend _ occurs tracked => exact tracked_step occurs tracked

end Tracked

/-! ## Examined leaves -/

/-- A leaf was created by a branch.  It fits the budget, or has as many
components as the branch had known candidates, or its components were shown to
the service in vain. -/
def Examined (rules : ClusterRules) (events : List Event)
    (leaf : Entry Module) : Prop :=
  ∃ creator added,
    creation? rules leaf.path events = some (creator, added) ∧
    added.stored = leaf.value.stored ∧
    (rules.count (rules.listing leaf.value.components.names).withCode ≤
        rules.budget ∨
      rules.known creator.candidates ≤ leaf.value.components.size ∨
      ∃ question answer located,
        .asked ⟨leaf.path, leaf.value.components.names⟩ question ∈ events ∧
        question.listing =
          (rules.listing leaf.value.components.names).summary ∧
        .answered ⟨leaf.path, leaf.value.components.names⟩ question answer
          located ∈ events ∧
        rules.kind answer ≠ .divided)

theorem Tracked.examined {rules : ClusterRules}
    {allowed : Question → Answer → Prop} {events : List Event}
    {first last : Progress} (tracked : Tracked rules events last)
    (history : History rules allowed first events last)
    (ended : last.IsOver) {leaf : Entry Module}
    (member : leaf ∈ last.state.tree.leafModules) :
    Examined rules events leaf := by
  have met := ModuleTree.exists_leafModule_iff.1 ⟨leaf, member, rfl, rfl⟩
  rcases tracked.created met with ⟨creator, added, created, same⟩
  refine ⟨creator, added, created, same, ?_⟩
  have excused := (tracked.leaves met).resolve_right fun pending =>
    Multiset.notMem_zero _ (ended.pending_eq_zero ▸ pending)
  cases excused with
  | small within => exact .inl (of_decide_eq_true within)
  | exempt created' large =>
    rw [created, Option.some.injEq, Prod.mk.injEq] at created'
    obtain ⟨rfl, rfl⟩ := created'
    exact .inr (.inl large)
  | vain asked answered undivided =>
    exact .inr (.inr ⟨_, _, _, asked, (large_of_asked history asked).2,
      answered, undivided⟩)

/-- No call of a run that begins with seeds is spent on a branch that fits the
budget, and when the run is over, every leaf is examined. -/
theorem leaves_examined (rules : ClusterRules)
    (allowed : Question → Answer → Prop) (seeds : List String) :
    (∀ (Memory : Type) (oracle : Oracle (StateM Memory)) (memory : Memory),
      ∃ events, History rules (Returns oracle) (begin seeds none) events
        ⟨remembered rules oracle seeds none memory, 0, 0⟩) ∧
    ∀ events last,
      History rules allowed (begin seeds none) events last →
      last.state.asked = events.filterMap Event.question? ∧
      (∀ branch question, .asked branch question ∈ events →
        rules.budget <
            rules.count (rules.listing branch.candidates).withCode ∧
          question.listing = (rules.listing branch.candidates).summary) ∧
      (last.IsOver → ∀ leaf ∈ last.state.tree.leafModules,
        Examined rules events leaf) := by
  refine ⟨?_, ?_⟩
  · intro Memory oracle memory
    exact remembered_history rules oracle seeds none memory
  intro events last history
  refine ⟨asked_history history, ?_, ?_⟩
  · intro branch question asked
    obtain ⟨large, shown⟩ := large_of_asked history asked
    refine ⟨?_, shown⟩
    simpa [ClusterRules.fits] using large
  · intro ended leaf member
    exact (tracked_history history).examined history ended member

/-- A run on three functions, one of whose modules is divided again: it asks two
questions, and three of the modules are leaves. -/
theorem leaves_examined_sample :
    ∃ events last, History Sample.rules (Returns Sample.service)
        (begin ["a", "b", "c"] none) events last ∧ last.IsOver ∧
      (events.filterMap Event.question?).length = 2 ∧
      (∀ branch question, .asked branch question ∈ events →
        Sample.rules.budget < Sample.rules.count
            (Sample.rules.listing branch.candidates).withCode ∧
          question.listing =
            (Sample.rules.listing branch.candidates).summary) ∧
      last.state.tree.leafModules.map Forest.Entry.path =
        [["x", "p"], ["x", "q"], ["y"]] ∧
      ∀ leaf ∈ last.state.tree.leafModules,
        Examined Sample.rules events leaf := by
  obtain ⟨ends, facts⟩ := leaves_examined Sample.rules
    (Returns Sample.service) ["a", "b", "c"]
  rcases ends Unit Sample.service () with ⟨events, history⟩
  have ended : Progress.IsOver ⟨remembered Sample.rules Sample.service
    ["a", "b", "c"] none (), 0, 0⟩ := ⟨rfl, rfl⟩
  obtain ⟨asked, large, leaves⟩ := facts events _ history
  have same := outcome_eq_remembered Sample.rules Sample.oracle
    ["a", "b", "c"] none
  obtain ⟨-, kept, questions⟩ := Sample.outcome_facts
  rw [same] at kept questions
  exact ⟨events, _, history, ended, asked ▸ questions, large, kept,
    leaves ended⟩

end Clustering

end ModuleAtlas
