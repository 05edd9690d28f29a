import ModuleAtlas.Proofs.Clustering.Placement

/-!
# What a branch brings

Let an oracle answer each question by its module name and its listing alone,
and let no reply name two groups alike.  Then a branch brings the same
modules, the same questions and the same counts whenever it is examined: its
gain is a sum over the branch and everything that comes from it.

The worth of a run under way is what its state shows together with what its
pending branches are going to bring.  No step changes it, so that all
schedules end with the same modules, questions and counts.
-/

namespace ModuleAtlas

/-- What a question shows besides the tree. -/
structure Inquiry where
  moduleName : Option String
  listing : String
deriving DecidableEq

/-- The question without the tree. -/
def Question.inquiry (question : Question) : Inquiry :=
  ⟨question.moduleName, question.listing⟩

namespace Clustering

open Forest StoredTree

/-- The oracle answers by module name and listing alone. -/
def TreeBlind (oracle : Question → Answer) : Prop :=
  ∀ left right : Question,
    left.inquiry = right.inquiry → oracle left = oracle right

/-- No reply of the oracle has two groups with the same trimmed name. -/
def NamesApart (oracle : Question → Answer) : Prop :=
  ∀ (question : Question) (reply : String) (groups : List Group),
    oracle question = .ok reply → Reply.ofText reply = .proposed groups →
    (groups.map fun group => Text.trim group.name).Nodup

theorem NamesApart.modules_nodup {oracle : Question → Answer}
    (names : NamesApart oracle) (rules : ClusterRules) {question : Question}
    {answer : Answer} (answered : Answers oracle question answer) :
    ((rules.judge answer).1.modules.map NewModule.name).Nodup :=
  ClusterRules.judge_names_nodup fun reply groups ok =>
    names question reply groups (Eq.trans answered ok)

/-- Rows of modules, questions asked and counts. -/
abbrev Gain :=
  Multiset (List String × StoredModule) × Multiset Inquiry × ClusterStats

section

variable (rules : ClusterRules) (oracle : Question → Answer)

/-- Whether a branch fits the budget. -/
def fits (branch : Branch) : Bool :=
  rules.fits (rules.listing branch.candidates)

/-- The question of a branch, without the tree. -/
def inquiry (branch : Branch) : Inquiry :=
  ⟨branch.path.getLast?, (rules.listing branch.candidates).summary⟩

/-- The answer to the question of a branch. -/
def reply (branch : Branch) : Answer :=
  oracle (ClusterRules.question branch (rules.listing branch.candidates)
    .empty)

/-- The modules that a branch is divided into. -/
def division (branch : Branch) : List NewModule :=
  if fits rules branch then []
  else (rules.judge (reply rules oracle branch)).1.modules

/-- The branches that come from a branch. -/
def offspring (branch : Branch) : List Branch :=
  ClusterRules.pending branch.path (rules.size branch)
    (division rules oracle branch)

/-- What looking at a branch brings. -/
def lookGain (branch : Branch) : Gain :=
  (0, if fits rules branch then 0 else {inquiry rules branch},
    rules.lookStats branch)

/-- What the answer to the question of a branch brings. -/
def answerGain (branch : Branch) : Gain :=
  ((division rules oracle branch : Multiset NewModule).map
      (NewModule.row branch.path), 0,
    if fits rules branch then 0
    else rules.answerStats (reply rules oracle branch))

/-- What a branch brings with everything that comes from it. -/
def gain (branch : Branch) : Gain :=
  lookGain rules branch + (answerGain rules oracle branch
    + ((offspring rules oracle branch).attach.map fun child =>
        gain child.1).sum)
termination_by rules.size branch
decreasing_by exact size_lt_of_mem_pending child.2

/-- What a branch still brings once it was looked at. -/
def owed (branch : Branch) : Gain :=
  answerGain rules oracle branch
    + ((offspring rules oracle branch).map (gain rules oracle)).sum

/-- What the state of a run shows. -/
def shown (state : ClusterState) : Gain :=
  (rows [] state.tree.toStored,
    (state.asked : Multiset Question).map Question.inquiry, state.stats)

/-- What a run shows and what its pending branches bring. -/
def worth (progress : Progress) : Gain :=
  shown progress.state + (progress.waiting.map (gain rules oracle)).sum
    + (progress.asking.map fun entry => owed rules oracle entry.1).sum

end

variable {rules : ClusterRules} {oracle : Question → Answer}

theorem gain_eq (branch : Branch) :
    gain rules oracle branch =
      lookGain rules branch + owed rules oracle branch := by
  rw [gain, owed, List.attach_map_val]

/-- A branch that fits brings nothing but its count. -/
theorem owed_of_fits {branch : Branch} (fits : fits rules branch = true) :
    owed rules oracle branch = 0 := by
  have none : division rules oracle branch = [] := if_pos fits
  rw [owed, answerGain, offspring, none, if_pos fits]
  rfl

/-- Pending branches are in place and open questions are theirs. -/
structure Sound (rules : ClusterRules) (progress : Progress) : Prop where
  placed : Placed progress.state.tree.toStored progress.pending
  large : ∀ entry ∈ progress.asking, fits rules entry.1 = false
  asked : ∀ entry ∈ progress.asking,
    entry.2.inquiry = inquiry rules entry.1

/-- The answer to an open question is that of its branch. -/
theorem Sound.answer_eq (blind : TreeBlind oracle) {progress : Progress}
    (sound : Sound rules progress) {branch : Branch} {question : Question}
    {answer : Answer} (member : (branch, question) ∈ progress.asking)
    (answered : Answers oracle question answer) :
    answer = reply rules oracle branch := by
  rw [← answered]
  exact blind _ _ (sound.asked _ member)

theorem division_of_large {branch : Branch}
    (large : fits rules branch = false) :
    division rules oracle branch =
      (rules.judge (reply rules oracle branch)).1.modules := by
  rw [division, large]
  rfl

theorem sound_begin (seeds : List String) (resume : Option ModuleTree) :
    Sound rules (begin seeds resume) := by
  refine ⟨placed_begin seeds resume, ?_, ?_⟩ <;> simp [begin_asking]

theorem sound_step {allowed : Question → Answer → Prop}
    (apart : ∀ question answer, allowed question answer →
      ((rules.judge answer).1.modules.map NewModule.name).Nodup)
    {first next : Progress} (step : Step rules allowed first next)
    (sound : Sound rules first) : Sound rules next := by
  rcases sound with ⟨placed, large, asked⟩
  refine ⟨placed_step apart step placed, ?_, ?_⟩
  · exact asking_step step
      (fun _ prepared => (ClusterState.prepare_eq_some prepared).1) large
  · refine asking_step step (fun _ prepared => ?_) asked
    rw [(ClusterState.prepare_eq_some prepared).2.1]
    rfl

theorem shown_prepare_none {branch : Branch} {state next : ClusterState}
    (prepared : state.prepare rules branch = (next, none)) :
    shown next = shown state + lookGain rules branch := by
  rcases ClusterState.prepare_eq_none prepared with ⟨small, tree, asked, stats⟩
  rw [shown, shown, lookGain, fits, if_pos small, tree, asked, stats]
  simp

theorem shown_prepare_some {branch : Branch} {question : Question}
    {state next : ClusterState}
    (prepared : state.prepare rules branch = (next, some question)) :
    shown next = shown state + lookGain rules branch := by
  rcases ClusterState.prepare_eq_some prepared
    with ⟨large, rfl, tree, asked, stats⟩
  have single : ∀ question : Question, ((state.asked ++ [question] :
      List Question) : Multiset Question).map Question.inquiry =
      (state.asked : Multiset Question).map Question.inquiry
        + {question.inquiry} := by
    intro question
    rw [← Multiset.coe_add, Multiset.map_add]
    rfl
  rw [shown, shown, lookGain, fits, if_neg (by simp [large]), tree, asked,
    stats, single]
  simp [inquiry, Question.inquiry, ClusterRules.question]

/-- Dividing a branch in place shows its new modules. -/
theorem shown_absorb {branch : Branch} {answer : Answer}
    {state next : ClusterState} {children : List Branch}
    (taken : state.absorb rules branch answer = (next, children))
    (childless : level? branch.path state.tree.toStored = some .nil)
    (apart : ((rules.judge answer).1.modules.map NewModule.name).Nodup)
    (large : fits rules branch = false)
    (answer_eq : answer = reply rules oracle branch) :
    shown next = shown state + answerGain rules oracle branch ∧
      children = offspring rules oracle branch := by
  rcases ClusterState.absorb_located taken (by rw [childless]; rfl)
    with ⟨tree, children_eq, asked, stats⟩
  rw [answer_eq, ← division_of_large large] at tree children_eq apart
  refine ⟨?_, children_eq⟩
  rw [shown, shown, answerGain, large, tree, asked, stats, answer_eq,
    rows_changeBelow _ _ childless, rows_putAll _ apart]
  simp

theorem worth_step (blind : TreeBlind oracle) (names : NamesApart oracle)
    {first next : Progress} (step : Step rules (Answers oracle) first next)
    (sound : Sound rules first) :
    worth rules oracle next = worth rules oracle first := by
  cases step with
  | @settle branch state next waiting asking prepared =>
    have small := (ClusterState.prepare_eq_none prepared).1
    simp only [worth, Multiset.map_cons, Multiset.sum_cons, gain_eq branch,
      owed_of_fits small, shown_prepare_none prepared, add_zero]
    abel
  | @ask branch question state next waiting asking prepared =>
    simp only [worth, Multiset.map_cons, Multiset.sum_cons, gain_eq branch,
      shown_prepare_some prepared]
    abel
  | @absorb branch question answer state next children waiting asking
      answered taken =>
    have among : (branch, question) ∈ (branch, question) ::ₘ asking :=
      Multiset.mem_cons_self _ _
    have pending : branch ∈ waiting
        + ((branch, question) ::ₘ asking).map Prod.fst :=
      Multiset.mem_add.2 (Or.inr (Multiset.mem_map_of_mem Prod.fst among))
    rcases shown_absorb taken
        (sound.placed.childless branch pending)
        (names.modules_nodup rules answered) (sound.large _ among)
        (sound.answer_eq blind among answered) with ⟨shown_eq, children_eq⟩
    simp only [worth, Multiset.map_cons, Multiset.map_add, Multiset.sum_cons,
      Multiset.sum_add, Multiset.map_coe, Multiset.sum_coe, owed, shown_eq,
      children_eq]
    abel

/-- A schedule keeps the worth of a run. -/
theorem worth_schedule (blind : TreeBlind oracle) (names : NamesApart oracle)
    {first last : Progress}
    (schedule : Schedule rules (Answers oracle) first last)
    (sound : Sound rules first) :
    Sound rules last ∧ worth rules oracle last = worth rules oracle first := by
  induction schedule with
  | refl => exact ⟨sound, rfl⟩
  | tail _ step before =>
    rcases before with ⟨sound, same⟩
    refine ⟨sound_step ?_ step sound, ?_⟩
    · exact fun _ _ answered => names.modules_nodup rules answered
    · exact (worth_step blind names step sound).trans same

/-- What a finished run shows. -/
theorem shown_of_ends (blind : TreeBlind oracle) (names : NamesApart oracle)
    {first last : Progress} (ends : Ends rules (Answers oracle) first last)
    (sound : Sound rules first) :
    shown last.state = worth rules oracle first := by
  rcases ends.isOver (answers_answerable oracle) with ⟨waiting, asking⟩
  rw [← (worth_schedule blind names ends.schedule sound).2, worth, waiting,
    asking]
  simp

end Clustering

end ModuleAtlas
