import ModuleAtlas.Proofs.Clustering.History
import ModuleAtlas.Proofs.Clustering.Independence
import ModuleAtlas.Proofs.Clustering.Memory

/-!
# Outcomes of branches

Whatever a service answers, a run goes on.  It raises no error of its own: in a
monad with errors it does what it does in the monad without them.  Each branch
is looked at once and has one outcome.  It fits the budget, or its call fails,
is rejected, is degenerate or names enough groups, and only in the last case
does anything happen to the tree or to the branches still to be examined.
-/

namespace ModuleAtlas

namespace Clustering

open Forest StoredTree

/-- A run without a store raises no error, also where it could. -/
theorem run_raises_nothing {m : Type → Type} [Monad m] [LawfulMonad m]
    (ε : Type) (rules : ClusterRules) (oracle : Oracle m)
    (seeds : List String) (resume : Option ModuleTree) :
    (run rules (fun question => (liftM (oracle question) : ExceptT ε m Answer))
        (fun _ => pure ()) seeds resume).run =
      Except.ok <$> run rules oracle (fun _ => pure ()) seeds resume := by
  have lifted := run_lift (n := ExceptT ε m) rules oracle (fun _ => pure ())
    seeds resume
  simp only [monadLift_pure] at lifted
  rw [← lifted]
  rfl

/-! ## One outcome for each branch -/

section Outcomes

variable {rules : ClusterRules} {allowed : Question → Answer → Prop}

/-- Unless a call divides its branch, nothing happens to the tree or to the
other branches. -/
theorem occurs_undivided {event : Event} {first next : Progress}
    (occurs : Occurs rules allowed event first next)
    (undivided : event.isAnswered rules .divided = false) :
    next.state.tree = first.state.tree ∧ event.children rules = [] ∧
      first.pending = event.finished + next.pending := by
  have idle : next.state.tree = first.state.tree ∧
      event.children rules = [] := by
    cases occurs with
    | settle prepared =>
      exact ⟨(ClusterState.prepare_eq_none prepared).2.1, rfl⟩
    | ask prepared =>
      exact ⟨(ClusterState.prepare_eq_some prepared).2.2.1, rfl⟩
    | @absorb branch question answer state next children waiting asking
        answered taken =>
      have other : rules.kind answer ≠ .divided := by
        simpa [Event.isAnswered] using undivided
      have none := ClusterRules.modules_of_undivided other
      refine ⟨(ClusterState.absorb_undivided taken other).1, ?_⟩
      simp [Event.children, Event.modules, none, ClusterRules.pending]
  have balance := occurs_pending occurs
  rw [idle.2, Multiset.coe_nil, add_zero] at balance
  exact ⟨idle.1, idle.2, by rw [← balance, add_comm]⟩

theorem card_looked (events : List Event) :
    (events.map Event.looked).sum.card =
      events.countP Event.isSettled + events.countP Event.isAsked := by
  induction events with
  | nil => rfl
  | cons event events step =>
    cases event <;>
      simp [step, Event.looked, Event.isSettled, Event.isAsked,
        List.countP_cons] <;> omega

theorem card_opened (events : List Event) :
    (events.map Event.opened).sum.card = events.countP Event.isAsked := by
  induction events with
  | nil => rfl
  | cons event events step =>
    cases event <;>
      simp [step, Event.opened, Event.isAsked, List.countP_cons, add_comm]

/-- Every answer is of one kind. -/
theorem card_closed (rules : ClusterRules) (events : List Event) :
    (events.map Event.closed).sum.card =
      events.countP (Event.isAnswered rules .failed)
        + events.countP (Event.isAnswered rules .rejected)
        + events.countP (Event.isAnswered rules .degenerate)
        + events.countP (Event.isAnswered rules .divided) := by
  induction events with
  | nil => rfl
  | cons event events step =>
    cases event with
    | settled branch | asked branch question =>
      simp [step, Event.closed, Event.isAnswered]
    | answered branch question answer located =>
      cases kind : rules.kind answer <;>
        simp [step, Event.closed, Event.isAnswered, kind] <;> omega

/-- When a run is over, the branches that it began with and those that came
from events were each looked at and finished, and every question was
answered. -/
theorem flow_over {seeds : List String} {resume : Option ModuleTree}
    {events : List Event} {last : Progress}
    (history : History rules allowed (begin seeds resume) events last)
    (ended : last.IsOver) :
    (events.map Event.looked).sum = (begin seeds resume).waiting
        + (events.map fun event =>
          (event.children rules : Multiset Branch)).sum ∧
      (events.map Event.finished).sum = (events.map Event.looked).sum ∧
      (events.map Event.closed).sum = (events.map Event.opened).sum := by
  have looked := history_balance Progress.waiting _ _ occurs_waiting history
  have closed := history_balance Progress.asking _ _ occurs_asking history
  have finished := history_balance Progress.pending _ _ occurs_pending history
  rw [ended.1, zero_add] at looked
  rw [ended.2, begin_asking, zero_add, zero_add] at closed
  rw [ended.pending_eq_zero, zero_add, Progress.pending, begin_asking,
    Multiset.map_zero, add_zero, ← looked] at finished
  exact ⟨looked, finished, closed⟩

end Outcomes

/-- The run with a service that remembers has a history. -/
theorem remembered_history {Memory : Type} (rules : ClusterRules)
    (oracle : Oracle (StateM Memory)) (seeds : List String)
    (resume : Option ModuleTree) (memory : Memory) :
    ∃ events, History rules (Returns oracle) (begin seeds resume) events
      ⟨remembered rules oracle seeds resume memory, 0, 0⟩ :=
  schedule_iff_exists_history.1
    (remembered_ends rules oracle seeds resume memory).schedule

/-- Whatever the service answers, a run raises no error and comes to its end.
What surrounds the answers is taken not to fail: questions are rendered, the
tree is printed, permits to ask are given and tasks are joined.  Events that
divide no branch leave the tree and the other branches alone.  When
the run is over, every branch was looked at and has one outcome, and the
counters say how many have which. -/
theorem branches_accounted (rules : ClusterRules)
    (allowed : Question → Answer → Prop) (seeds : List String)
    (resume : Option ModuleTree) :
    (∀ (m : Type → Type) [Monad m] [LawfulMonad m] (ε : Type)
        (oracle : Oracle m),
      (run rules
          (fun question => (liftM (oracle question) : ExceptT ε m Answer))
          (fun _ => pure ()) seeds resume).run =
        Except.ok <$> run rules oracle (fun _ => pure ()) seeds resume) ∧
    (∀ (Memory : Type) (oracle : Oracle (StateM Memory)) (memory : Memory),
      ∃ events, History rules (Returns oracle) (begin seeds resume) events
        ⟨remembered rules oracle seeds resume memory, 0, 0⟩) ∧
    (∀ event first next, Occurs rules allowed event first next →
      event.isAnswered rules .divided = false →
      next.state.tree = first.state.tree ∧ event.children rules = [] ∧
        first.pending = event.finished + next.pending) ∧
    ∀ events last,
      History rules allowed (begin seeds resume) events last →
      Counted rules events last.state.stats ∧
      (last.IsOver →
        (events.map Event.looked).sum = (begin seeds resume).waiting
            + (events.map fun event =>
              (event.children rules : Multiset Branch)).sum ∧
        (events.map Event.finished).sum = (events.map Event.looked).sum ∧
        last.state.stats.baseCases + last.state.stats.oracleCalls =
          (events.map Event.looked).sum.card ∧
        last.state.stats.oracleCalls =
          last.state.stats.oracleFailures
            + last.state.stats.rejectedResponses
            + last.state.stats.degenerateResponses
            + events.countP (Event.isAnswered rules .divided)) := by
  refine ⟨?_, ?_, ?_, ?_⟩
  · intro m _ _ ε oracle
    exact run_raises_nothing ε rules oracle seeds resume
  · intro Memory oracle memory
    exact remembered_history rules oracle seeds resume memory
  · intro event first next occurs undivided
    exact occurs_undivided occurs undivided
  · intro events last history
    have counted := counted_history history
    refine ⟨counted, fun ended => ?_⟩
    obtain ⟨looked, finished, closed⟩ := flow_over history ended
    refine ⟨looked, finished, ?_, ?_⟩
    · rw [counted.baseCases, counted.oracleCalls, card_looked]
    · rw [counted.oracleCalls, ← card_opened, ← closed,
        card_closed rules, counted.oracleFailures,
        counted.rejectedResponses, counted.degenerateResponses]

namespace Sample

/-- The service of the sample, as one that remembers nothing. -/
def service : Oracle (StateM Unit) := fun question => pure (oracle question)

end Sample

/-- A run on three functions, one of whose modules is divided again. -/
theorem branches_accounted_sample :
    ∃ events last, History Sample.rules (Returns Sample.service)
        (begin ["a", "b", "c"] none) events last ∧ last.IsOver ∧
      (events.map Event.finished).sum = (events.map Event.looked).sum ∧
      last.state.stats.oracleCalls =
        last.state.stats.oracleFailures + last.state.stats.rejectedResponses
          + last.state.stats.degenerateResponses
          + events.countP (Event.isAnswered Sample.rules .divided) := by
  obtain ⟨_, ends, _, accounted⟩ := branches_accounted Sample.rules
    (Returns Sample.service) ["a", "b", "c"] none
  rcases ends Unit Sample.service () with ⟨events, history⟩
  have ended : Progress.IsOver ⟨remembered Sample.rules Sample.service
    ["a", "b", "c"] none (), 0, 0⟩ := ⟨rfl, rfl⟩
  have facts := (accounted events _ history).2 ended
  exact ⟨events, _, history, ended, facts.2.1, facts.2.2.2⟩

end Clustering

end ModuleAtlas
