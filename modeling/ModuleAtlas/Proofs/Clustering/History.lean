import ModuleAtlas.Proofs.Clustering.Placement

/-!
# Histories of a clustering run

A step of a run is an event: a branch fits the budget, a question is asked, or
the answer to a question is taken in.  A history is the list of the events of a
schedule, the latest one last, so every schedule has a history.

The events account for the run.  Every branch that waited was looked at, and
every question that was asked got its answer, up to what is still to be done.
The counters of a run are the numbers of the events of each kind.
-/

namespace ModuleAtlas

/-- What an answer is worth. -/
inductive AnswerKind where
  | failed
  | rejected
  /-- Fewer than two groups are usable. -/
  | degenerate
  | divided
deriving DecidableEq

namespace ClusterRules

variable (rules : ClusterRules)

/-- A group with a name and a known component. -/
def isUsable (group : Group) : Bool :=
  Text.trim group.name ≠ "" && group.components.any rules.components.contains

/-- The kind of an answer. -/
def kind : Answer → AnswerKind
  | .error _ => .failed
  | .ok reply =>
    match Reply.ofText reply with
    | .unmarked | .malformed _ => .rejected
    | .proposed groups =>
      if 2 ≤ groups.countP rules.isUsable then .divided else .degenerate

theorem isSome_module? (group : Group) :
    (rules.module? group).isSome =
      group.components.any rules.components.contains := by
  have known : (group.components.filter rules.components.contains).isEmpty =
      !group.components.any rules.components.contains := by
    rw [Bool.eq_iff_iff]
    simp
  rw [module?, known]
  cases group.components.any rules.components.contains <;> rfl

/-- The modules of a reply come from its usable groups. -/
theorem length_usable (groups : List Group) :
    (rules.usable groups).length = groups.countP rules.isUsable := by
  rw [usable, named, List.length_filterMap_eq_countP, List.countP_filter]
  refine List.countP_congr fun group _ => ?_
  rw [isSome_module?, isUsable, Bool.and_comm]

end ClusterRules

/-- The kind of the answer with a verdict. -/
def Verdict.kind : Verdict → AnswerKind
  | .failed => .failed
  | .rejected _ => .rejected
  | .degenerate => .degenerate
  | .divided _ => .divided

theorem ClusterRules.kind_judge (rules : ClusterRules) (answer : Answer) :
    (rules.judge answer).1.kind = rules.kind answer := by
  cases answer with
  | error failure => rfl
  | ok reply =>
    rw [judge, kind]
    cases Reply.ofText reply with
    | unmarked => rfl
    | malformed cause => rfl
    | proposed groups =>
      simp only [length_usable]
      split
      · rw [if_neg (by omega)]
        rfl
      · rw [if_pos (by omega)]
        rfl

namespace ClusterRules

variable {rules : ClusterRules} {answer : Answer}

theorem modules_of_divided (divided : rules.kind answer = .divided) :
    (rules.judge answer).1.modules ≠ [] := by
  rw [← kind_judge] at divided
  cases verdict : (rules.judge answer).1 with
  | failed | rejected rejection | degenerate =>
    rw [verdict] at divided
    exact absurd divided (by simp [Verdict.kind])
  | divided modules =>
    rcases judge_eq_divided verdict with ⟨_, _, _, _, _, many⟩
    rintro rfl
    exact absurd many (by simp)

theorem modules_of_undivided (undivided : rules.kind answer ≠ .divided) :
    (rules.judge answer).1.modules = [] := by
  rcases judge_modules_cases rules answer with none | ⟨modules, verdict⟩
  · exact none
  · rw [← kind_judge, verdict] at undivided
    exact absurd rfl undivided

end ClusterRules

namespace ClusterState

variable {rules : ClusterRules} {branch : Branch} {answer : Answer}
  {state next : ClusterState} {children : List Branch}
  (taken : state.absorb rules branch answer = (next, children))

include taken

/-- An answer that does not divide its branch leaves the tree alone and brings
no branches. -/
theorem absorb_undivided (undivided : rules.kind answer ≠ .divided) :
    next.tree = state.tree ∧ children = [] := by
  rw [← rules.kind_judge] at undivided
  rw [absorb] at taken
  generalize rules.judge answer = judged at undivided taken
  rcases judged with ⟨verdict, unknown⟩
  cases verdict with
  | failed | rejected rejection | degenerate =>
    obtain ⟨rfl, rfl⟩ := Prod.mk.inj taken
    exact ⟨rfl, rfl⟩
  | divided modules => exact absurd rfl undivided

theorem absorb_asked : next.asked = state.asked := by
  have next_eq : next = (state.absorb rules branch answer).1 := by rw [taken]
  rw [next_eq]
  exact apply_asked _ _ _ _

/-- An answer counts as a failure, a rejection or a degenerate reply, unless it
divides its branch. -/
theorem absorb_counts :
    next.stats.baseCases = state.stats.baseCases ∧
    next.stats.oracleCalls = state.stats.oracleCalls ∧
    next.stats.oracleFailures = state.stats.oracleFailures
      + (if rules.kind answer = .failed then 1 else 0) ∧
    next.stats.rejectedResponses = state.stats.rejectedResponses
      + (if rules.kind answer = .rejected then 1 else 0) ∧
    next.stats.degenerateResponses = state.stats.degenerateResponses
      + (if rules.kind answer = .degenerate then 1 else 0) := by
  rw [← rules.kind_judge]
  rw [absorb] at taken
  generalize rules.judge answer = judged at taken
  rcases judged with ⟨verdict, unknown⟩
  cases verdict with
  | failed | rejected rejection | degenerate =>
    obtain ⟨rfl, rfl⟩ := Prod.mk.inj taken
    exact ⟨rfl, rfl, rfl, rfl, rfl⟩
  | divided modules =>
    simp only [apply, merge] at taken
    split at taken
    · obtain ⟨rfl, rfl⟩ := Prod.mk.inj taken
      exact ⟨rfl, rfl, rfl, rfl, rfl⟩
    · obtain ⟨rfl, rfl⟩ := Prod.mk.inj taken
      exact ⟨rfl, rfl, rfl, rfl, rfl⟩

end ClusterState

namespace Clustering

open Relation Forest StoredTree

/-! ## Events -/

/-- What happens in one step of a run. -/
inductive Event where
  /-- A branch fits the budget. -/
  | settled (branch : Branch)
  | asked (branch : Branch) (question : Question)
  /-- The answer to the question of a branch is taken in, while the tree has the
  location of the branch or has lost it. -/
  | answered (branch : Branch) (question : Question) (answer : Answer)
      (located : Bool)

namespace Event

/-- The branch that an event is about. -/
def branch : Event → Branch
  | settled branch => branch
  | asked branch _ => branch
  | answered branch .. => branch

/-- The branches that are looked at. -/
def looked : Event → Multiset Branch
  | settled branch => {branch}
  | asked branch _ => {branch}
  | answered .. => 0

/-- The branches that are done with. -/
def finished : Event → Multiset Branch
  | settled branch => {branch}
  | asked .. => 0
  | answered branch .. => {branch}

/-- The questions that are asked. -/
def opened : Event → Multiset (Branch × Question)
  | settled _ => 0
  | asked branch question => {(branch, question)}
  | answered .. => 0

/-- The questions that are answered. -/
def closed : Event → Multiset (Branch × Question)
  | settled _ => 0
  | asked .. => 0
  | answered branch question .. => {(branch, question)}

/-- The question that is asked. -/
def question? : Event → Option Question
  | settled _ => none
  | asked _ question => some question
  | answered .. => none

def isSettled : Event → Bool
  | settled _ => true
  | asked .. => false
  | answered .. => false

def isAsked : Event → Bool
  | settled _ => false
  | asked .. => true
  | answered .. => false

variable (rules : ClusterRules)

/-- Whether an answer of a kind is taken in. -/
def isAnswered (kind : AnswerKind) : Event → Bool
  | settled _ => false
  | asked .. => false
  | answered _ _ answer _ => rules.kind answer = kind

/-- The modules that an event puts into the tree. -/
def modules : Event → List NewModule
  | settled _ => []
  | asked .. => []
  | answered _ _ answer located =>
    if located then (rules.judge answer).1.modules else []

/-- The branches that an event brings. -/
def children (event : Event) : List Branch :=
  ClusterRules.pending event.branch.path (rules.size event.branch)
    (event.modules rules)

end Event

variable (rules : ClusterRules) (allowed : Question → Answer → Prop)

/-- An event takes a run from one progress to the next. -/
inductive Occurs : Event → Progress → Progress → Prop where
  | settle {branch : Branch} {state next : ClusterState}
      {waiting : Multiset Branch} {asking : Multiset (Branch × Question)}
      (fits : state.prepare rules branch = (next, none)) :
      Occurs (.settled branch) ⟨state, branch ::ₘ waiting, asking⟩
        ⟨next, waiting, asking⟩
  | ask {branch : Branch} {question : Question}
      {state next : ClusterState} {waiting : Multiset Branch}
      {asking : Multiset (Branch × Question)}
      (asked : state.prepare rules branch = (next, some question)) :
      Occurs (.asked branch question) ⟨state, branch ::ₘ waiting, asking⟩
        ⟨next, waiting, (branch, question) ::ₘ asking⟩
  | absorb {branch : Branch} {question : Question} {answer : Answer}
      {state next : ClusterState} {children : List Branch}
      {waiting : Multiset Branch} {asking : Multiset (Branch × Question)}
      (answered : allowed question answer)
      (taken : state.absorb rules branch answer = (next, children)) :
      Occurs (.answered branch question answer
          (level? branch.path state.tree.toStored).isSome)
        ⟨state, waiting, (branch, question) ::ₘ asking⟩
        ⟨next, children + waiting, asking⟩

/-- The events of a run so far, the latest one last. -/
inductive History (first : Progress) : List Event → Progress → Prop where
  | start : History first [] first
  | extend {events : List Event} {event : Event} {earlier later : Progress} :
      History first events earlier → Occurs rules allowed event earlier later →
      History first (events ++ [event]) later

variable {rules : ClusterRules} {allowed : Question → Answer → Prop}

theorem step_iff_exists_occurs {first next : Progress} :
    Step rules allowed first next ↔
      ∃ event, Occurs rules allowed event first next := by
  constructor
  · rintro (fits | asked | ⟨answered, taken⟩)
    · exact ⟨_, .settle fits⟩
    · exact ⟨_, .ask asked⟩
    · exact ⟨_, .absorb answered taken⟩
  · rintro ⟨event, fits | asked | ⟨answered, taken⟩⟩
    · exact .settle fits
    · exact .ask asked
    · exact .absorb answered taken

/-- Every schedule has a history, and every history is one of a schedule. -/
theorem schedule_iff_exists_history {first last : Progress} :
    Schedule rules allowed first last ↔
      ∃ events, History rules allowed first events last := by
  constructor
  · intro schedule
    induction schedule with
    | refl => exact ⟨[], .start⟩
    | tail _ step earlier =>
      rcases earlier with ⟨events, history⟩
      rcases step_iff_exists_occurs.1 step with ⟨event, occurs⟩
      exact ⟨events ++ [event], history.extend occurs⟩
  · rintro ⟨events, history⟩
    induction history with
    | start => exact .refl
    | extend _ occurs schedule =>
      exact schedule.tail (step_iff_exists_occurs.2 ⟨_, occurs⟩)

/-! ## What events account for -/

section Occurs

variable {event : Event} {first next : Progress}
  (occurs : Occurs rules allowed event first next)

include occurs

/-- Waiting branches are looked at or come from events. -/
theorem occurs_waiting :
    next.waiting + event.looked =
      first.waiting + (event.children rules : Multiset Branch) := by
  cases occurs with
  | settle | ask =>
    simp [Event.looked, Event.children, Event.modules, ClusterRules.pending,
      ← Multiset.singleton_add, add_comm]
  | @absorb branch question answer state next children waiting asking
      answered taken =>
    have brought : children = Event.children rules (.answered branch question
        answer (level? branch.path state.tree.toStored).isSome) := by
      cases located : level? branch.path state.tree.toStored with
      | none => exact (ClusterState.absorb_lost taken located).2
      | some inner =>
        exact (ClusterState.absorb_located taken (by rw [located]; rfl)).2.1
    rw [Event.looked, add_zero, brought, add_comm]

/-- Open questions are those that were asked and not answered. -/
theorem occurs_asking :
    next.asking + event.closed = first.asking + event.opened := by
  cases occurs with
  | settle => rfl
  | ask | absorb =>
    simp [Event.closed, Event.opened, ← Multiset.singleton_add, add_comm]

/-- Branches that are not done yet are finished or come from events. -/
theorem occurs_pending :
    next.pending + event.finished =
      first.pending + (event.children rules : Multiset Branch) := by
  have outcome : event.looked + event.closed.map Prod.fst =
      event.finished + event.opened.map Prod.fst := by
    cases event <;>
      simp [Event.looked, Event.closed, Event.finished, Event.opened]
  have questions := congrArg (Multiset.map Prod.fst) (occurs_asking occurs)
  rw [Multiset.map_add, Multiset.map_add] at questions
  refine add_right_cancel (b := event.opened.map Prod.fst) ?_
  calc next.pending + event.finished + event.opened.map Prod.fst
      = next.pending + (event.looked + event.closed.map Prod.fst) := by
        rw [outcome, add_assoc]
    _ = (next.waiting + event.looked)
          + (next.asking.map Prod.fst + event.closed.map Prod.fst) :=
        add_add_add_comm _ _ _ _
    _ = _ := by
        rw [occurs_waiting occurs, questions, Progress.pending]
        abel

end Occurs

/-- What every event keeps in balance is in balance along a history. -/
theorem history_balance {Stock : Type} [AddCommMonoid Stock]
    (stock : Progress → Stock) (gone come : Event → Stock)
    (balance : ∀ {event earlier later},
      Occurs rules allowed event earlier later →
      stock later + gone event = stock earlier + come event)
    {first last : Progress} {events : List Event}
    (history : History rules allowed first events last) :
    stock last + (events.map gone).sum =
      stock first + (events.map come).sum := by
  induction history with
  | start => rfl
  | @extend events event earlier later _ occurs sums =>
    simp only [List.map_append, List.map_cons, List.map_nil, List.sum_append,
      List.sum_singleton]
    calc stock later + ((events.map gone).sum + gone event)
        = (stock later + gone event) + (events.map gone).sum := by abel
      _ = (stock earlier + (events.map gone).sum) + come event := by
          rw [balance occurs]
          abel
      _ = _ := by rw [sums, add_assoc]

/-- The counters of a run are the numbers of its events of each kind. -/
structure Counted (rules : ClusterRules) (events : List Event)
    (stats : ClusterStats) : Prop where
  baseCases : stats.baseCases = events.countP Event.isSettled
  oracleCalls : stats.oracleCalls = events.countP Event.isAsked
  oracleFailures : stats.oracleFailures =
    events.countP (Event.isAnswered rules .failed)
  rejectedResponses : stats.rejectedResponses =
    events.countP (Event.isAnswered rules .rejected)
  degenerateResponses : stats.degenerateResponses =
    events.countP (Event.isAnswered rules .degenerate)

theorem counted_step {event : Event} {earlier later : Progress}
    (occurs : Occurs rules allowed event earlier later) {events : List Event}
    (counted : Counted rules events earlier.state.stats) :
    Counted rules (events ++ [event]) later.state.stats := by
  obtain ⟨settled, asked, failed, rejected, degenerate⟩ := counted
  cases occurs with
  | settle prepared =>
    obtain ⟨fits, _, _, added⟩ := ClusterState.prepare_eq_none prepared
    constructor <;>
      simp_all [ClusterStats.add_def, ClusterRules.lookStats, Event.isSettled,
        Event.isAsked, Event.isAnswered]
  | ask prepared =>
    obtain ⟨large, _, _, _, added⟩ := ClusterState.prepare_eq_some prepared
    constructor <;>
      simp_all [ClusterStats.add_def, ClusterRules.lookStats, Event.isSettled,
        Event.isAsked, Event.isAnswered]
  | absorb answered taken =>
    obtain ⟨same, same', failures, rejections, degenerates⟩ :=
      ClusterState.absorb_counts taken
    constructor <;>
      simp_all [Event.isSettled, Event.isAsked, Event.isAnswered]

theorem counted_history {seeds : List String} {resume : Option ModuleTree}
    {events : List Event} {last : Progress}
    (history : History rules allowed (begin seeds resume) events last) :
    Counted rules events last.state.stats := by
  induction history with
  | start =>
    have fresh : (begin seeds resume).state.stats = {} := by
      rw [begin]
      cases resume.filter fun tree => !tree.isEmpty <;> rfl
    rw [fresh]
    exact ⟨rfl, rfl, rfl, rfl, rfl⟩
  | extend _ occurs counted => exact counted_step occurs counted

/-- The state keeps the questions that were asked, in order. -/
theorem asked_history {first last : Progress} {events : List Event}
    (history : History rules allowed first events last) :
    last.state.asked =
      first.state.asked ++ events.filterMap Event.question? := by
  induction history with
  | start => simp
  | extend _ occurs asked =>
    rw [List.filterMap_append, ← List.append_assoc, ← asked]
    cases occurs with
    | settle prepared =>
      rw [(ClusterState.prepare_eq_none prepared).2.2.1]
      exact (List.append_nil _).symm
    | ask prepared =>
      rw [(ClusterState.prepare_eq_some prepared).2.2.2.1]
      rfl
    | absorb answered taken =>
      have kept := ClusterState.absorb_asked taken
      rw [kept]
      exact (List.append_nil _).symm

/-- Only branches that do not fit the budget are asked about, each with its own
listing. -/
theorem large_of_asked {first last : Progress} {events : List Event}
    (history : History rules allowed first events last) {branch : Branch}
    {question : Question} (asked : .asked branch question ∈ events) :
    rules.fits (rules.listing branch.candidates) = false ∧
      question.listing = (rules.listing branch.candidates).summary := by
  induction history with
  | start => exact absurd asked List.not_mem_nil
  | extend _ occurs earlier =>
    rcases List.mem_append.1 asked with old | new
    · exact earlier old
    · obtain rfl := List.mem_singleton.1 new
      cases occurs with
      | ask prepared =>
        obtain ⟨large, rfl, _⟩ := ClusterState.prepare_eq_some prepared
        exact ⟨large, rfl⟩

end Clustering

end ModuleAtlas
