import ModuleAtlas.Proofs.Clustering.Schedule

/-!
# The run that examines one branch after another

The run has the effects of its service and of its store, and no others.  A
service may answer one question differently from call to call, as it remembers
what it was asked.  The run with such a service is one schedule among all of
them, in which every question gets an answer that the service gives it with some
memory.  A service that answers every question in one way is one that remembers
nothing.
-/

namespace ModuleAtlas

namespace Clustering

open Relation

/-! ## Runs in a larger monad -/

section Lift

variable {m n : Type → Type} [Monad m] [Monad n] [MonadLiftT m n]
  [LawfulMonadLiftT m n] (rules : ClusterRules) (oracle : Oracle m)

theorem foldlM_lift {α β : Type} (change : α → β → m α) (items : List β)
    (start : α) :
    (liftM (items.foldlM change start) : n α) =
      items.foldlM (fun value item => liftM (change value item)) start := by
  induction items generalizing start with
  | nil => exact monadLift_pure start
  | cons item items step =>
    simp only [List.foldlM_cons, monadLift_bind, step]

theorem examine_lift (branch : Branch) (state : ClusterState) :
    (liftM (state.examine rules oracle branch) : n _) =
      state.examine rules (fun question => liftM (oracle question))
        branch := by
  rw [ClusterState.examine, ClusterState.examine]
  rcases state.prepare rules branch with ⟨next, question⟩
  cases question with
  | none => exact monadLift_pure _
  | some question => simp only [monadLift_bind, monadLift_pure]

theorem explore_lift (depth : Nat) (branch : Branch) (state : ClusterState) :
    (liftM (ClusterState.explore rules oracle depth branch state) : n _) =
      ClusterState.explore rules (fun question => liftM (oracle question))
        depth branch state := by
  induction depth generalizing branch state with
  | zero => exact monadLift_pure state
  | succ depth deeper =>
    simp only [ClusterState.explore, monadLift_bind, examine_lift,
      foldlM_lift, deeper]

theorem exploreAll_lift (save : ModuleTree → m Unit)
    (branches : List Branch) (state : ClusterState) :
    (liftM (ClusterState.exploreAll rules oracle save branches state) : n _) =
      ClusterState.exploreAll rules (fun question => liftM (oracle question))
        (fun tree => liftM (save tree)) branches state := by
  induction branches generalizing state with
  | nil => exact monadLift_pure state
  | cons branch rest step =>
    simp only [ClusterState.exploreAll, monadLift_bind, explore_lift, step]

/-- A run has the effects of its service and of its store, and no others. -/
theorem run_lift (save : ModuleTree → m Unit) (seeds : List String)
    (resume : Option ModuleTree) :
    (liftM (run rules oracle save seeds resume) : n _) =
      run rules (fun question => liftM (oracle question))
        (fun tree => liftM (save tree)) seeds resume := by
  rw [run, run]
  cases resume.filter fun tree => !tree.isEmpty with
  | some tree => exact exploreAll_lift rules oracle save _ _
  | none =>
    simp only [runFresh, monadLift_bind, examine_lift, exploreAll_lift]

end Lift

/-! ## Services that remember -/

section Memory

variable {Memory : Type}

/-- The service gives this answer to a question, with some memory. -/
def Returns (oracle : Oracle (StateM Memory)) (question : Question)
    (answer : Answer) : Prop :=
  ∃ memory, ((oracle question).run memory).1 = answer

/-- How a run ends that begins with a memory of the service. -/
def remembered (rules : ClusterRules) (oracle : Oracle (StateM Memory))
    (seeds : List String) (resume : Option ModuleTree) (memory : Memory) :
    ClusterState :=
  ((run rules oracle (fun _ => pure ()) seeds resume).run memory).1

variable (rules : ClusterRules) (oracle : Oracle (StateM Memory))

theorem examine_remembered (branch : Branch) (state : ClusterState)
    (memory : Memory) (waiting : Multiset Branch)
    (asking : Multiset (Branch × Question)) :
    ∃ next children later,
      (state.examine rules oracle branch).run memory =
        ((next, children), later) ∧
      Schedule rules (Returns oracle) ⟨state, branch ::ₘ waiting, asking⟩
        ⟨next, children + waiting, asking⟩ ∧
      ∀ child ∈ children, rules.size child < rules.size branch := by
  rcases prepared : state.prepare rules branch with ⟨next, question⟩
  cases question with
  | none =>
    refine ⟨next, [], memory, ?_, ?_, by simp⟩
    · rw [ClusterState.examine, prepared]
      rfl
    · simpa using ReflTransGen.single (Step.settle prepared)
  | some question =>
    rcases answered : (oracle question).run memory with ⟨answer, later⟩
    rcases taken : next.absorb rules branch answer with ⟨last, children⟩
    refine ⟨last, children, later, ?_, ?_, ?_⟩
    · simp only [ClusterState.examine, prepared, StateT.run_bind, answered]
      exact congrArg (·, later) taken
    · have given : Returns oracle question answer := ⟨memory, by rw [answered]⟩
      exact .tail (.single (.ask prepared)) (.absorb given taken)
    · exact fun child member => size_lt_of_mem_absorb taken member

theorem explore_remembered {depth : Nat} {branch : Branch}
    (deep : rules.size branch < depth) (state : ClusterState)
    (memory : Memory) (waiting : Multiset Branch)
    (asking : Multiset (Branch × Question)) :
    Schedule rules (Returns oracle) ⟨state, branch ::ₘ waiting, asking⟩
      ⟨((ClusterState.explore rules oracle depth branch state).run memory).1,
        waiting, asking⟩ := by
  induction depth generalizing branch state memory waiting asking with
  | zero => exact absurd deep (Nat.not_lt_zero _)
  | succ depth deeper =>
    rcases examine_remembered rules oracle branch state memory waiting asking
      with ⟨next, children, later, examined, schedule, smaller⟩
    apply schedule.trans
    have explored : ∀ (children : List Branch) (state : ClusterState)
        (memory : Memory), (∀ child ∈ children, rules.size child < depth) →
        Schedule rules (Returns oracle)
          ⟨state, (children : Multiset Branch) + waiting, asking⟩
          ⟨((children.foldlM (fun state child =>
            ClusterState.explore rules oracle depth child state)
            state).run memory).1, waiting, asking⟩ := by
      intro children
      induction children with
      | nil =>
        intro state memory _
        rw [Multiset.coe_nil, zero_add]
        exact .refl
      | cons child children step =>
        intro state memory bounds
        rw [← Multiset.cons_coe, Multiset.cons_add, List.foldlM_cons]
        have first := deeper (bounds child List.mem_cons_self) state memory
          (children + waiting) asking
        exact first.trans (step _ _ fun other member =>
          bounds other (List.mem_cons_of_mem _ member))
    rw [ClusterState.explore, StateT.run_bind, examined]
    refine explored children next later fun child member => ?_
    have := smaller child member
    omega

theorem exploreAll_remembered (branches : List Branch) (state : ClusterState)
    (memory : Memory) :
    Schedule rules (Returns oracle) ⟨state, branches, 0⟩
      ⟨((ClusterState.exploreAll rules oracle (fun _ => pure ()) branches
        state).run memory).1, 0, 0⟩ := by
  induction branches generalizing state memory with
  | nil => exact .refl
  | cons branch rest step =>
    rw [← Multiset.cons_coe, ClusterState.exploreAll]
    have first := explore_remembered rules oracle
      (Nat.lt_succ_self (rules.size branch)) state memory rest 0
    exact first.trans (step _ _)

/-- The run with a service that remembers is a schedule that ends. -/
theorem remembered_ends (seeds : List String) (resume : Option ModuleTree)
    (memory : Memory) :
    Ends rules (Returns oracle) (begin seeds resume)
      ⟨remembered rules oracle seeds resume memory, 0, 0⟩ := by
  refine ⟨?_, not_step_of_isOver ⟨rfl, rfl⟩⟩
  rw [begin, remembered, run]
  cases resume.filter fun tree => !tree.isEmpty with
  | some tree => exact exploreAll_remembered rules oracle _ _ memory
  | none =>
    rcases examine_remembered rules oracle ⟨[], seeds⟩ (.start .empty) memory
      0 0 with ⟨next, children, later, examined, schedule, _⟩
    rw [add_zero] at schedule
    apply schedule.trans
    simp only [runFresh, StateT.run_bind, examined]
    exact exploreAll_remembered rules oracle children next later

end Memory

/-! ## Services that answer in one way -/

section Answers

variable (rules : ClusterRules) (oracle : Question → Answer)

/-- A service that answers in one way, as one that remembers nothing. -/
def steady : Oracle (StateM Unit) := fun question => pure (oracle question)

theorem returns_steady : Returns (steady oracle) = Answers oracle := by
  funext question answer
  exact propext ⟨fun ⟨_, same⟩ => same, fun same => ⟨(), same⟩⟩

theorem outcome_eq_remembered (seeds : List String)
    (resume : Option ModuleTree) :
    outcome rules oracle seeds resume =
      remembered rules (steady oracle) seeds resume () := by
  have lifted := run_lift (n := StateM Unit) rules
    (fun question => (pure (oracle question) : Id Answer)) (fun _ => pure ())
    seeds resume
  simp only [monadLift_pure] at lifted
  exact congrArg (fun runs => (runs.run ()).1) lifted

/-- The run with a service that answers in one way is a schedule that ends. -/
theorem outcome_ends (seeds : List String) (resume : Option ModuleTree) :
    Ends rules (Answers oracle) (begin seeds resume)
      ⟨outcome rules oracle seeds resume, 0, 0⟩ := by
  rw [outcome_eq_remembered, ← returns_steady]
  exact remembered_ends rules (steady oracle) seeds resume ()

end Answers

end Clustering

end ModuleAtlas
