import ModuleAtlas.Module.Store
import ModuleAtlas.Proofs.Clustering.Independence
import ModuleAtlas.Proofs.Files

/-!
# Checkpoints of a clustering run

The modules of the first level are examined in tasks of their own, together with
everything that comes from them.  Whenever one of these tasks is done, the run
joins it and then writes the tree as it is at that moment; the other tasks go on
in the meantime.  A run from seeds divides the seeds before there is any task,
and writes the tree then too.

A task does nothing after it was joined, and the run ends when no task is left
and nothing is to be written.  So the tree does not change any more after the
last checkpoint.  The store may be in any place that holds texts.
-/

namespace ModuleAtlas

namespace Clustering

open Relation

/-- What is left to do in one task. -/
structure Task where
  waiting : Multiset Branch
  asking : Multiset (Branch × Question)

namespace Task

/-- The task that is to examine a branch. -/
def examining (branch : Branch) : Task := ⟨{branch}, 0⟩

/-- The task that has nothing left to do. -/
def done : Task := ⟨0, 0⟩

end Task

/-- A run that writes checkpoints into a store, among files of some kind. -/
structure Supervised (σ : Type) where
  state : ClusterState
  /-- The tasks that are not joined. -/
  tasks : Multiset Task
  /-- Whether a task was joined and the checkpoint after it is not written. -/
  due : Bool
  files : σ
  /-- What the file of the store held after each checkpoint. -/
  saved : List (Option String)

namespace Supervised

variable {σ : Type}

/-- The progress of all tasks together. -/
def progress (run : Supervised σ) : Progress :=
  ⟨run.state, (run.tasks.map Task.waiting).sum,
    (run.tasks.map Task.asking).sum⟩

/-- Whether all tasks are joined and all checkpoints written. -/
def IsOver (run : Supervised σ) : Prop := run.tasks = 0 ∧ run.due = false

theorem IsOver.progress_eq {run : Supervised σ} (ended : run.IsOver) :
    run.progress = ⟨run.state, 0, 0⟩ := by
  rw [progress, ended.1]
  rfl

theorem progress_examining {state : ClusterState} {due : Bool}
    {files : σ} {saved : List (Option String)}
    (branches : List Branch) :
    progress ⟨state, branches.map Task.examining, due, files, saved⟩ =
      ⟨state, branches, 0⟩ := by
  rw [progress, Progress.mk.injEq]
  refine ⟨rfl, ?_, ?_⟩
  · rw [Multiset.map_coe, List.map_map, ← Multiset.map_coe]
    exact Multiset.sum_map_singleton _
  · rw [Multiset.map_coe, List.map_map, ← Multiset.map_coe]
    exact Multiset.sum_map_zero

end Supervised

/-- The examination of one branch, and the branches that come from it. -/
inductive Examines (rules : ClusterRules)
    (allowed : Question → Answer → Prop) (branch : Branch)
    (state : ClusterState) : ClusterState → List Branch → Prop where
  | settled {next : ClusterState}
      (fits : state.prepare rules branch = (next, none)) :
      Examines rules allowed branch state next []
  | answered {question : Question} {answer : Answer}
      {asked next : ClusterState} {children : List Branch}
      (prepared : state.prepare rules branch = (asked, some question))
      (given : allowed question answer)
      (taken : asked.absorb rules branch answer = (next, children)) :
      Examines rules allowed branch state next children

theorem examines_of_examine {rules : ClusterRules} {σ : Type}
    {oracle : Oracle (StateM σ)} {branch : Branch} {state next : ClusterState}
    {children : List Branch} {files later : σ}
    (examined : (state.examine rules oracle branch).run files =
      ((next, children), later)) :
    Examines rules (Returns oracle) branch state next children := by
  rcases prepared : state.prepare rules branch with ⟨asked, question⟩
  rw [ClusterState.examine, prepared] at examined
  cases question with
  | none =>
    cases congrArg Prod.fst examined
    exact .settled prepared
  | some question =>
    exact .answered prepared ⟨files, rfl⟩ (congrArg Prod.fst examined)

section Runs

variable (rules : ClusterRules) (allowed : Question → Answer → Prop)
  {σ : Type} [MonadFiles (StateM σ)] (text? : σ → Option String)
  (store : ModuleStore)

/-- The run when its tasks begin. -/
inductive Opens (seeds : List String) (resume : Option ModuleTree) :
    Supervised σ → Prop where
  | resumed {tree : ModuleTree} {files : σ}
      (taken : resume.filter (fun tree => !tree.isEmpty) = some tree) :
      Opens seeds resume
        ⟨.start tree, (resumable tree).map Task.examining, false, files, []⟩
  | fresh {next : ClusterState} {children : List Branch}
      {files later : σ}
      (bare : resume.filter (fun tree => !tree.isEmpty) = none)
      (examined : Examines rules allowed ⟨[], seeds⟩ (.start .empty) next
        children)
      (wrote : Succeeds (store.checkpoint next.tree) files () later) :
      Opens seeds resume ⟨next, children.map Task.examining, false, later,
        [text? later]⟩

/-- One move of the run.  The service may use the files while a task is at
work. -/
inductive Move : Supervised σ → Supervised σ → Prop where
  | work {state next : ClusterState} {task rest : Task}
      {tasks : Multiset Task} {due : Bool} {files later : σ}
      {saved : List (Option String)}
      (step : Step rules allowed ⟨state, task.waiting, task.asking⟩
        ⟨next, rest.waiting, rest.asking⟩) :
      Move ⟨state, task ::ₘ tasks, due, files, saved⟩
        ⟨next, rest ::ₘ tasks, due, later, saved⟩
  | join {state : ClusterState} {tasks : Multiset Task} {files : σ}
      {saved : List (Option String)} :
      Move ⟨state, Task.done ::ₘ tasks, false, files, saved⟩
        ⟨state, tasks, true, files, saved⟩
  | write {state : ClusterState} {tasks : Multiset Task}
      {files later : σ} {saved : List (Option String)}
      (wrote : Succeeds (store.checkpoint state.tree) files () later) :
      Move ⟨state, tasks, true, files, saved⟩
        ⟨state, tasks, false, later,
          saved ++ [text? later]⟩

/-- Moves one after another. -/
abbrev Course : Supervised σ → Supervised σ → Prop :=
  ReflTransGen (Move rules allowed text? store)

end Runs

section Facts

variable {rules : ClusterRules} {allowed : Question → Answer → Prop}
  {σ : Type} [MonadFiles (StateM σ)] {text? : σ → Option String}
  {store : ModuleStore} {seeds : List String} {resume : Option ModuleTree}

/-! ## The steps of the tasks are steps of the run -/

theorem step_beside {first next : Progress}
    (step : Step rules allowed first next) (waiting : Multiset Branch)
    (asking : Multiset (Branch × Question)) :
    Step rules allowed
      ⟨first.state, first.waiting + waiting, first.asking + asking⟩
      ⟨next.state, next.waiting + waiting, next.asking + asking⟩ := by
  cases step with
  | settle fits =>
    rw [Multiset.cons_add]
    exact .settle fits
  | ask prepared =>
    rw [Multiset.cons_add, Multiset.cons_add]
    exact .ask prepared
  | absorb given taken =>
    rw [Multiset.cons_add, add_assoc]
    exact .absorb given taken

theorem schedule_of_move {first next : Supervised σ}
    (move : Move rules allowed text? store first next) :
    Schedule rules allowed first.progress next.progress := by
  cases move with
  | work step =>
    simp only [Supervised.progress, Multiset.map_cons, Multiset.sum_cons]
    exact .single (step_beside step _ _)
  | join =>
    simp only [Supervised.progress, Multiset.map_cons, Multiset.sum_cons,
      Task.done, zero_add]
    exact .refl
  | write wrote => exact .refl

theorem schedule_of_course {first last : Supervised σ}
    (course : Course rules allowed text? store first last) :
    Schedule rules allowed first.progress last.progress := by
  induction course with
  | refl => exact .refl
  | tail _ move earlier => exact earlier.trans (schedule_of_move move)

theorem schedule_of_examines {branch : Branch} {state next : ClusterState}
    {children : List Branch}
    (examined : Examines rules allowed branch state next children) :
    Schedule rules allowed ⟨state, {branch}, 0⟩ ⟨next, children, 0⟩ := by
  cases examined with
  | settled fits => exact .single (.settle fits)
  | answered prepared given taken =>
    exact schedule_of_answered prepared given taken

theorem schedule_of_opens {first : Supervised σ}
    (opens : Opens rules allowed text? store seeds resume first) :
    Schedule rules allowed (begin seeds resume) first.progress := by
  rw [begin]
  cases opens with
  | resumed taken =>
    rw [taken, Supervised.progress_examining]
  | fresh bare examined wrote =>
    rw [bare, Supervised.progress_examining]
    exact schedule_of_examines examined

/-! ## What the checkpoints hold -/

/-- The last checkpoint holds the tree, and so does the file. -/
structure UpToDate (text? : σ → Option String)
    (run : Supervised σ) : Prop where
  saved : run.saved.getLast? = some (some run.state.tree.toText)
  file : text? run.files = some run.state.tree.toText

/-- The run has a moment at which a checkpoint was written after some others,
and the checkpoint holds the tree of that moment. -/
def Moment (rules : ClusterRules) (allowed : Question → Answer → Prop)
    (text? : σ → Option String) (store : ModuleStore)
    (first last : Supervised σ) (earlier : List (Option String))
    (text : Option String) : Prop :=
  ∃ moment, Course rules allowed text? store first moment ∧
    Course rules allowed text? store moment last ∧
    moment.saved = earlier ++ [text] ∧
    text = some moment.state.tree.toText

theorem Moment.tail {first last next : Supervised σ}
    {earlier : List (Option String)} {text : Option String}
    (moment : Moment rules allowed text? store first last earlier text)
    (move : Move rules allowed text? store last next) :
    Moment rules allowed text? store first next earlier text := by
  rcases moment with ⟨moment, before, after, written, same⟩
  exact ⟨moment, before, after.tail move, written, same⟩

/-- One entry of a list with one more at its end is that one or one before. -/
theorem concat_eq_append_cons {α : Type} {items earlier later : List α}
    {last item : α} (same : items ++ [last] = earlier ++ item :: later) :
    items = earlier ∧ last = item ∨
      ∃ between, items = earlier ++ item :: between := by
  rcases List.eq_nil_or_concat later with rfl | ⟨between, final, rfl⟩
  · exact .inl (List.append_inj' same rfl |>.imp_right List.singleton_inj.1)
  · rw [List.concat_eq_append, ← List.cons_append, ← List.append_assoc] at same
    exact .inr ⟨between, (List.append_inj' same rfl).1⟩

theorem exists_leaf (forest : Forest Module) (above : List String)
    (filled : forest.isEmpty = false) :
    ∃ entry ∈ forest.preorder above, entry.isLeaf := by
  induction forest generalizing above with
  | nil => exact Bool.noConfusion filled
  | node name value children rest below _ =>
    cases bare : children.isEmpty with
    | true => exact ⟨_, List.mem_cons_self, bare⟩
    | false =>
      rcases below (above ++ [name]) bare with ⟨entry, member, leaf⟩
      exact ⟨entry, List.mem_cons_of_mem _ (List.mem_append_left _ member),
        leaf⟩

/-- A tree with modules has some without children. -/
theorem resumable_ne_nil {tree : ModuleTree} (filled : tree.isEmpty = false) :
    resumable tree ≠ [] := by
  rcases exists_leaf tree.forest [] filled with ⟨entry, member, leaf⟩
  rw [resumable, ne_eq, List.map_eq_nil_iff]
  exact List.ne_nil_of_mem (List.mem_filter.2 ⟨member, leaf⟩)

section Held

variable (holds : HoldsText store.firstTreePath text?)

include holds

theorem text?_checkpoint {tree : ModuleTree} {files later : σ}
    (wrote : Succeeds (store.checkpoint tree) files () later) :
    text? later = some tree.toText :=
  holds.text?_of_write wrote

/-- Only a run with tasks, or with a checkpoint to write, may hold a tree that
is not written. -/
theorem upToDate_opens {first : Supervised σ}
    (opens : Opens rules allowed text? store seeds resume first)
    (ended : first.IsOver) : UpToDate text? first := by
  cases opens with
  | @resumed tree files taken =>
    have filled : tree.isEmpty = false := by
      simpa using (Option.filter_eq_some_iff.1 taken).2
    have none_left := ended.1
    rw [Multiset.coe_eq_zero, List.map_eq_nil_iff] at none_left
    exact absurd none_left (resumable_ne_nil filled)
  | fresh bare examined wrote =>
    have held := text?_checkpoint holds wrote
    exact ⟨by rw [held]; rfl, held⟩

theorem upToDate_move {first next : Supervised σ}
    (move : Move rules allowed text? store first next) (ended : next.IsOver) :
    UpToDate text? next := by
  cases move with
  | work step => exact absurd ended.1 (Multiset.cons_ne_zero)
  | join => exact absurd ended.2 (by simp)
  | write wrote =>
    have held := text?_checkpoint holds wrote
    exact ⟨by rw [held, List.getLast?_concat], held⟩

theorem upToDate_course {first last : Supervised σ}
    (opens : Opens rules allowed text? store seeds resume first)
    (course : Course rules allowed text? store first last) (ended : last.IsOver) :
    UpToDate text? last := by
  cases course with
  | refl => exact upToDate_opens holds opens ended
  | tail _ move => exact upToDate_move holds move ended

/-- A move writes nothing, or a checkpoint of the tree. -/
theorem saved_move {first next : Supervised σ}
    (move : Move rules allowed text? store first next) :
    next.saved = first.saved ∨
      next.saved = first.saved ++ [some next.state.tree.toText] := by
  cases move with
  | work step => exact .inl rfl
  | join => exact .inl rfl
  | write wrote => exact .inr (by rw [text?_checkpoint holds wrote])

theorem saved_opens {first : Supervised σ}
    (opens : Opens rules allowed text? store seeds resume first) :
    first.saved = [] ∨ first.saved = [some first.state.tree.toText] := by
  cases opens with
  | resumed taken => exact .inl rfl
  | fresh bare examined wrote => exact .inr (by rw [text?_checkpoint holds wrote])

/-- Every checkpoint is the text of a tree that the run went through. -/
theorem moment_of_saved {first last : Supervised σ}
    (opens : Opens rules allowed text? store seeds resume first)
    (course : Course rules allowed text? store first last)
    {earlier later : List (Option String)} {text : Option String}
    (written : last.saved = earlier ++ text :: later) :
    Moment rules allowed text? store first last earlier text := by
  induction course generalizing later with
  | refl =>
    rcases saved_opens holds opens with none_yet | one
    · rw [none_yet] at written
      simp at written
    · rw [one, ← List.nil_append [_]] at written
      rcases concat_eq_append_cons written with ⟨rfl, rfl⟩ | ⟨between, lost⟩
      · exact ⟨first, .refl, .refl, one, rfl⟩
      · simp at lost
  | @tail middle last before move step =>
    rcases saved_move holds move with same | more
    · exact (step (same.symm.trans written)).tail move
    · rw [more] at written
      rcases concat_eq_append_cons written with ⟨rfl, rfl⟩ | ⟨between, old⟩
      · exact ⟨last, before.tail move, .refl, more, rfl⟩
      · exact (step old).tail move

end Held

/-! ## The run that examines one task after another -/

section Sequential

variable {oracle : Oracle (StateM σ)}

/-- A schedule inside a task is a course of the run. -/
theorem course_of_schedule {first last : Progress}
    (schedule : Schedule rules allowed first last) {tasks : Multiset Task}
    {due : Bool} {files : σ} {saved : List (Option String)} :
    Course rules allowed text? store
      ⟨first.state, ⟨first.waiting, first.asking⟩ ::ₘ tasks, due, files, saved⟩
      ⟨last.state, ⟨last.waiting, last.asking⟩ ::ₘ tasks, due, files,
        saved⟩ := by
  induction schedule with
  | refl => exact .refl
  | tail _ step earlier => exact earlier.tail (.work step)

/-- A task that examines its branch and all that comes from it is done. -/
theorem course_of_explore {branch : Branch} {state next : ClusterState}
    {files later : σ}
    (explored : (ClusterState.explore rules oracle (rules.size branch + 1)
      branch state).run files = (next, later))
    (tasks : Multiset Task) (saved : List (Option String)) :
    Course rules (Returns oracle) text? store
      ⟨state, Task.examining branch ::ₘ tasks, false, files, saved⟩
      ⟨next, Task.done ::ₘ tasks, false, later, saved⟩ := by
  have schedule : Schedule rules (Returns oracle) ⟨state, {branch}, 0⟩
      ⟨next, 0, 0⟩ := by
    have remembered := explore_remembered rules oracle
      (Nat.lt_succ_self (rules.size branch)) state files 0 0
    rwa [explored] at remembered
  rcases schedule.cases_head with same | ⟨middle, step, onward⟩
  · exact absurd (congrArg Progress.waiting same)
      (Multiset.singleton_ne_zero branch)
  · have first : Move rules (Returns oracle) text? store
        ⟨state, Task.examining branch ::ₘ tasks, false, files, saved⟩
        ⟨middle.state, ⟨middle.waiting, middle.asking⟩ ::ₘ tasks, false,
          later, saved⟩ := .work step
    exact .head first (course_of_schedule onward)

theorem course_of_exploreAll {branches : List Branch}
    {state last : ClusterState} {files later : σ}
    (ran : Succeeds (ClusterState.exploreAll rules
      (fun question => liftM (oracle question)) store.checkpoint branches
      state : ExceptT Failure (StateM σ) ClusterState)
      files last later) (saved : List (Option String)) :
    ∃ checkpoints, Course rules (Returns oracle) text? store
      ⟨state, branches.map Task.examining, false, files, saved⟩
      ⟨last, 0, false, later, checkpoints⟩ := by
  induction branches generalizing state files saved with
  | nil =>
    rcases succeeds_pure.1 ran with ⟨rfl, rfl⟩
    exact ⟨saved, .refl⟩
  | cons branch rest step =>
    rw [ClusterState.exploreAll, succeeds_bind] at ran
    rcases ran with ⟨next, inner, explored, ran⟩
    rw [← explore_lift, succeeds_lift] at explored
    rcases succeeds_bind.1 ran with ⟨_, written, wrote, ran⟩
    rcases step ran (saved ++ [text? written]) with
      ⟨checkpoints, onward⟩
    have examined : Course rules (Returns oracle) text? store
        ⟨state, (branch :: rest).map Task.examining, false, files, saved⟩
        ⟨next, Task.done ::ₘ (rest.map Task.examining : Multiset Task), false,
          inner, saved⟩ :=
      course_of_explore explored (rest.map Task.examining) saved
    exact ⟨checkpoints,
      ((examined.tail .join).tail (.write wrote)).trans onward⟩

/-- A run that ends well is one of the runs whose tasks finish in any order. -/
theorem course_of_run {state : ClusterState} {files later : σ}
    (ran : Succeeds (run rules (fun question => liftM (oracle question))
      store.checkpoint seeds resume :
        ExceptT Failure (StateM σ) ClusterState) files state later) :
    ∃ first last, Opens rules (Returns oracle) text? store seeds resume first ∧
      Course rules (Returns oracle) text? store first last ∧ last.IsOver ∧
      last.state = state ∧ last.files = later := by
  rw [run] at ran
  cases taken : resume.filter fun tree => !tree.isEmpty with
  | some tree =>
    rw [taken] at ran
    rcases course_of_exploreAll ran [] with ⟨checkpoints, course⟩
    exact ⟨_, _, .resumed taken, course, ⟨rfl, rfl⟩, rfl, rfl⟩
  | none =>
    rw [taken] at ran
    rcases succeeds_bind.1 ran with ⟨⟨next, children⟩, inner, examined, ran⟩
    rcases succeeds_bind.1 ran with ⟨_, written, wrote, ran⟩
    rw [← examine_lift, succeeds_lift] at examined
    rcases course_of_exploreAll ran [text? written]
      with ⟨checkpoints, course⟩
    exact ⟨_, _, .fresh taken (examines_of_examine examined) wrote, course,
      ⟨rfl, rfl⟩, rfl, rfl⟩

end Sequential

/-! ## Every checkpoint is a tree of the run -/

/-- However the tasks of a run take turns, the last checkpoint and the file of
the store hold the tree with which the run ends, and every checkpoint holds the
tree of the moment at which it was written.  The run that examines one task
after another is among these runs whenever it ends well. -/
theorem checkpoints_follow_run (rules : ClusterRules) (store : ModuleStore)
    (holds : HoldsText store.firstTreePath text?) (seeds : List String)
    (resume : Option ModuleTree) :
    (∀ (allowed : Question → Answer → Prop) (first last : Supervised σ),
      Opens rules allowed text? store seeds resume first →
      Course rules allowed text? store first last → last.IsOver →
      UpToDate text? last ∧
      (∀ earlier text later, last.saved = earlier ++ text :: later →
        Moment rules allowed text? store first last earlier text) ∧
      Ends rules allowed (begin seeds resume) ⟨last.state, 0, 0⟩) ∧
    ∀ (oracle : Oracle (StateM σ)) (state : ClusterState) (files later : σ),
      Succeeds (run rules (fun question => liftM (oracle question))
        store.checkpoint seeds resume :
          ExceptT Failure (StateM σ) ClusterState) files state later →
      ∃ first last,
        Opens rules (Returns oracle) text? store seeds resume first ∧
        Course rules (Returns oracle) text? store first last ∧
        last.IsOver ∧ last.state = state ∧ last.files = later := by
  refine ⟨fun allowed first last opens course ended => ?_,
    fun oracle state files later ran => course_of_run ran⟩
  have schedule := (schedule_of_opens opens).trans (schedule_of_course course)
  rw [ended.progress_eq] at schedule
  exact ⟨upToDate_course holds opens course ended,
    fun earlier text later written =>
      moment_of_saved holds opens course written,
    schedule, not_step_of_isOver ⟨rfl, rfl⟩⟩

end Facts

namespace Sample

/-- The oracle that knows two divisions, as a service among files. -/
def fileOracle : Oracle (StateM FileTree) :=
  fun question => pure (oracle question)

/-- A directory for temporary files, below the root of all files. -/
def temporary : FileTree :=
  .node FileTree.rootName .directory (.node "tmp" .directory .nil .nil) .nil

/-- A store with an absolute path, in a directory that is not there yet. -/
def temporaryStore : ModuleStore := ⟨"/tmp/run"⟩

/-- The run that divides three functions and saves the tree. -/
def savedRun : ExceptT Failure (StateM FileTree) ClusterState :=
  run Sample.rules (fun question => liftM (fileOracle question))
    temporaryStore.checkpoint ["a", "b", "c"] none

theorem savedRun_modules :
    (savedRun.run.run temporary).1.toOption.map
        (fun state => state.tree.modules.map Forest.Entry.path) =
      some [["x"], ["x", "p"], ["x", "q"], ["y"]] := by
  decide +kernel

/-- The text of the clustering result in the store. -/
def savedText? (files : FileTree) : Option String :=
  files.readText temporaryStore.firstTreePath

end Sample

/-- Three functions are divided into two modules, one of which is divided
again.  The run takes its course, and its last checkpoint holds the tree. -/
theorem checkpoints_follow_run_divided :
    ∃ state later, Succeeds Sample.savedRun Sample.temporary state later ∧
      state.tree.modules.map Forest.Entry.path =
        [["x"], ["x", "p"], ["x", "q"], ["y"]] ∧
      later.readText "/tmp/run/first_module_tree.json" =
        some state.tree.toText ∧
      ∃ first last earlier,
        Opens Sample.rules (Returns Sample.fileOracle) Sample.savedText?
          Sample.temporaryStore ["a", "b", "c"] none first ∧
        Course Sample.rules (Returns Sample.fileOracle) Sample.savedText?
          Sample.temporaryStore first last ∧
        last.IsOver ∧ last.state = state ∧ last.files = later ∧
        last.saved = earlier ++ [some state.tree.toText] ∧
        ∀ before text after, last.saved = before ++ text :: after →
          Moment Sample.rules (Returns Sample.fileOracle) Sample.savedText?
            Sample.temporaryStore first last before text := by
  have divided := Sample.savedRun_modules
  rcases ran : Sample.savedRun.run.run Sample.temporary with
    ⟨problem | state, later⟩
  · rw [ran] at divided
    exact nomatch divided
  · rw [ran] at divided
    rcases checkpoints_follow_run Sample.rules Sample.temporaryStore
      (FileTree.holdsText _) ["a", "b", "c"] none with ⟨held, among⟩
    rcases among Sample.fileOracle state Sample.temporary later ran with
      ⟨first, last, opens, course, ended, rfl, rfl⟩
    rcases held _ first last opens course ended with ⟨current, moments, -⟩
    rcases List.getLast?_eq_some_iff.1 current.saved with ⟨earlier, written⟩
    exact ⟨_, _, ran, Option.some.inj divided, current.file, first, last,
      earlier, opens, course, ended, rfl, rfl, written, moments⟩

end Clustering

end ModuleAtlas
