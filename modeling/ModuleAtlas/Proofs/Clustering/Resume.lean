import ModuleAtlas.Proofs.Clustering.Independence

/-!
# Taking up an interrupted run

A run that takes up a tree knows its leaf modules only.  Some of them were
examined before the interruption and some were not.  When every group of a
reply is smaller than the set it divides, the modules that were examined and
stayed leaves bring nothing when they are examined again, and all others are
the pending branches of the interrupted run.  The leaves therefore bring what
the pending branches were going to bring.
-/

namespace ModuleAtlas

namespace Clustering

open Forest StoredTree

section

variable (rules : ClusterRules) (oracle : Question → Answer)

/-- Every group of a reply has fewer distinct known components than there are
distinct known candidates in its question. -/
def GroupsSmaller : Prop :=
  ∀ (branch : Branch) (tree : ModuleTree) (reply : String)
    (groups : List Group),
    oracle (ClusterRules.question branch
      (rules.listing branch.candidates) tree) = .ok reply →
    Reply.ofText reply = .proposed groups →
    ∀ group ∈ groups,
      (NameSet.ofList
        (group.components.filter rules.components.contains)).size <
          rules.size branch

/-- The modules that come from a branch. -/
def grown (branch : Branch) : Multiset (List String × StoredModule) :=
  (gain rules oracle branch).1

/-- The branch by which a leaf is examined again. -/
def leafBranch (row : List String × StoredModule) : Branch :=
  ⟨row.1, row.2.components⟩

/-- Pending branches are leaves, and what comes from them is what comes from
all leaves. -/
structure Covered (forest : StoredTree) (pending : Multiset Branch) :
    Prop where
  leaf : ∀ branch ∈ pending, branch.path ≠ [] → ∃ description,
    (branch.path, ⟨description, branch.candidates⟩) ∈ leaves [] forest
  balanced : forest ≠ .nil →
    ((leaves [] forest).map fun row =>
        grown rules oracle (leafBranch row)).sum =
      (pending.map (grown rules oracle)).sum

end

variable {rules : ClusterRules} {oracle : Question → Answer}

theorem fst_sum (gains : Multiset Gain) :
    gains.sum.1 = (gains.map Prod.fst).sum :=
  map_multiset_sum (AddMonoidHom.fst _ _) gains

theorem owed_fst (branch : Branch) :
    (owed rules oracle branch).1 = grown rules oracle branch := by
  rw [grown, gain_eq, Prod.fst_add, lookGain, zero_add]

theorem grown_eq (branch : Branch) :
    grown rules oracle branch =
      (division rules oracle branch : Multiset NewModule).map
          (NewModule.row branch.path)
        + ((offspring rules oracle branch : Multiset Branch).map
            (grown rules oracle)).sum := by
  rw [← owed_fst, owed, ← Multiset.sum_coe, ← Multiset.map_coe, Prod.fst_add,
    fst_sum, Multiset.map_map]
  rfl

theorem grown_of_division_nil {branch : Branch}
    (undivided : division rules oracle branch = []) :
    grown rules oracle branch = 0 := by
  rw [grown_eq, offspring, undivided]
  rfl

/-- The modules of a run under way, with those that will come. -/
theorem worth_fst (progress : Progress) :
    (worth rules oracle progress).1 =
      rows [] progress.state.tree.toStored
        + (progress.pending.map (grown rules oracle)).sum := by
  have asked : progress.asking.map
      (fun entry => (owed rules oracle entry.1).1) =
      (progress.asking.map Prod.fst).map (grown rules oracle) := by
    rw [Multiset.map_map]
    exact Multiset.map_congr rfl fun entry _ => owed_fst entry.1
  rw [worth, Prod.fst_add, Prod.fst_add, fst_sum, fst_sum, Multiset.map_map,
    Multiset.map_map, Progress.pending, Multiset.map_add, Multiset.sum_add,
    ← add_assoc, ← asked]
  rfl

/-! ## All modules of a division are examined -/

theorem division_smaller (smaller : GroupsSmaller rules oracle)
    {branch : Branch} {added : NewModule}
    (member : added ∈ division rules oracle branch) :
    added.components.size < rules.size branch := by
  rw [division] at member
  split at member
  · simp at member
  · rcases ClusterRules.exists_group_of_mem_judge member
      with ⟨text, groups, answered, proposed, group, among, usable⟩
    rw [(ClusterRules.module?_eq_some usable).2.2]
    exact smaller branch .empty text groups answered proposed group among

theorem offspring_eq (smaller : GroupsSmaller rules oracle)
    (branch : Branch) :
    offspring rules oracle branch =
      (division rules oracle branch).map fun added =>
        leafBranch (added.row branch.path) := by
  rw [offspring, ClusterRules.pending, List.filter_eq_self.2]
  · rfl
  · intro added member
    exact decide_eq_true (division_smaller smaller member)

/-! ## Leaves cover pending branches -/

theorem Covered.drop {forest : StoredTree} {branch : Branch}
    {pending : Multiset Branch}
    (covered : Covered rules oracle forest (branch ::ₘ pending))
    (undivided : division rules oracle branch = []) :
    Covered rules oracle forest pending := by
  rcases covered with ⟨leaf, balanced⟩
  constructor
  · intro other member
    exact leaf other (Multiset.mem_cons_of_mem member)
  · intro nonempty
    rw [balanced nonempty, Multiset.map_cons, Multiset.sum_cons,
      grown_of_division_nil undivided, zero_add]

/-- The only branch pending on an empty tree is that of the repository. -/
theorem Placed.alone {branch : Branch} {pending : Multiset Branch}
    (placed : Placed .nil (branch ::ₘ pending)) : pending = 0 := by
  rcases placed with ⟨distinct, childless⟩
  have top : ∀ other ∈ branch ::ₘ pending, other.path = [] := by
    intro other member
    have located := childless other member
    cases path : other.path with
    | nil => rfl
    | cons first path' => simp [path] at located
  rw [Multiset.map_cons, Multiset.nodup_cons] at distinct
  apply Multiset.eq_zero_of_forall_notMem
  intro other member
  apply distinct.1
  rw [top branch (Multiset.mem_cons_self _ _),
    ← top other (Multiset.mem_cons_of_mem member)]
  exact Multiset.mem_map_of_mem _ member

theorem Covered.root (smaller : GroupsSmaller rules oracle)
    {branch : Branch} (top : branch.path = [])
    (apart : ((division rules oracle branch).map NewModule.name).Nodup) :
    Covered rules oracle (putAll (division rules oracle branch) .nil)
      (offspring rules oracle branch : Multiset Branch) := by
  have leaves_eq : leaves [] (putAll (division rules oracle branch) .nil) =
      (division rules oracle branch : Multiset NewModule).map
        (NewModule.row branch.path) := by
    rw [leaves_putAll [] apart, top]
  constructor
  · intro child member _
    rw [Multiset.mem_coe, offspring_eq smaller, List.mem_map] at member
    rcases member with ⟨added, among, rfl⟩
    refine ⟨added.description, ?_⟩
    rw [leaves_eq]
    exact Multiset.mem_map_of_mem (NewModule.row branch.path) among
  · intro _
    rw [leaves_eq, offspring_eq smaller, ← Multiset.map_coe,
      Multiset.map_map, Multiset.map_map]
    rfl

/-- Dividing a leaf leaves the other leaves, and brings one leaf for each
pending module. -/
theorem Covered.inner (smaller : GroupsSmaller rules oracle)
    {forest : StoredTree} (ordered : forest.Ordered) {branch : Branch}
    {pending : Multiset Branch}
    (placed : Placed forest (branch ::ₘ pending))
    (covered : Covered rules oracle forest (branch ::ₘ pending))
    (below : branch.path ≠ [])
    (divided : division rules oracle branch ≠ [])
    (apart : ((division rules oracle branch).map NewModule.name).Nodup) :
    Covered rules oracle
      (changeBelow (putAll (division rules oracle branch)) branch.path forest)
      ((offspring rules oracle branch : Multiset Branch) + pending) := by
  rcases covered with ⟨leaf, balanced⟩
  rcases placed with ⟨distinct, _⟩
  rw [Multiset.map_cons, Multiset.nodup_cons] at distinct
  rcases leaf branch (Multiset.mem_cons_self _ _) below with ⟨description, here⟩
  rcases find?_of_mem_leaves ordered here with ⟨path, same, met⟩
  rw [List.nil_append] at same
  rw [← same] at met
  -- the divided leaf, against its modules
  have exchange := leaves_changeBelow (putAll (division rules oracle branch))
    (putAll_grows divided .nil) [] met
  rw [List.nil_append, leaves_putAll _ apart] at exchange
  have remains : ∀ row : List String × StoredModule, row.1 ≠ branch.path →
      (row ∈ leaves [] forest ∨
        row ∈ (division rules oracle branch : Multiset NewModule).map
          (NewModule.row branch.path)) →
      row ∈ leaves [] (changeBelow (putAll (division rules oracle branch))
        branch.path forest) := by
    intro row different member
    rw [← Multiset.mem_add, ← exchange, Multiset.mem_cons] at member
    rcases member with equal | inside
    · exact absurd (congrArg Prod.fst equal) different
    · exact inside
  constructor
  · intro other member nonempty
    rcases Multiset.mem_add.1 member with new | old
    · rw [Multiset.mem_coe, offspring_eq smaller, List.mem_map] at new
      rcases new with ⟨added, among, rfl⟩
      refine ⟨added.description, remains _ ?_ (Or.inr ?_)⟩
      · simp [leafBranch, NewModule.row]
      · exact Multiset.mem_map_of_mem (NewModule.row branch.path) among
    · rcases leaf other (Multiset.mem_cons_of_mem old) nonempty
        with ⟨description', inside⟩
      refine ⟨description', remains _ ?_ (Or.inl inside)⟩
      intro equal
      exact distinct.1 (equal ▸ Multiset.mem_map_of_mem _ old)
  · intro _
    have full : forest ≠ .nil := by
      rintro rfl
      simp at met
    have sums := congrArg (fun rows => (rows.map fun row =>
      grown rules oracle (leafBranch row)).sum) exchange
    simp only [Multiset.map_cons, Multiset.sum_cons, Multiset.map_add,
      Multiset.sum_add, balanced full, Multiset.map_map] at sums
    have cancelled := add_left_cancel (sums.trans (add_assoc _ _ _))
    rw [cancelled, Multiset.map_add, Multiset.sum_add, add_comm,
      offspring_eq smaller, ← Multiset.map_coe, Multiset.map_map]
    rfl

/-- A step of a run keeps its pending branches covered. -/
theorem covered_step (blind : TreeBlind oracle) (names : NamesApart oracle)
    (smaller : GroupsSmaller rules oracle) {first next : Progress}
    (step : Step rules (Answers oracle) first next)
    (sound : Sound rules first)
    (covered : Covered rules oracle first.state.tree.toStored first.pending) :
    Covered rules oracle next.state.tree.toStored next.pending := by
  have placed := sound.placed
  cases effect_of_step step with
  | keep tree pending =>
    rw [tree, pending]
    exact covered
  | @drop branch tree pending spent =>
    rw [pending] at placed covered
    rw [tree]
    rcases spent with small | lost
    · exact covered.drop (if_pos small)
    · have located := placed.childless branch (Multiset.mem_cons_self _ _)
      rw [lost] at located
      exact absurd located (by simp)
  | @grow branch question answer rest among answered before tree after =>
    have apart := names.modules_nodup rules answered
    rw [before] at placed covered
    rw [sound.answer_eq blind among answered,
      ← division_of_large (sound.large _ among)] at tree after apart
    rw [tree, after]
    by_cases undivided : division rules oracle branch = []
    · rw [undivided]
      show Covered rules oracle (changeBelow (fun level => level) branch.path
        first.state.tree.toStored) _
      rw [changeBelow_id, ClusterRules.pending]
      simpa using covered.drop undivided
    · by_cases top : branch.path = []
      · have bare : first.state.tree.toStored = .nil := by
          simpa [top] using
            placed.childless branch (Multiset.mem_cons_self _ _)
        rw [bare] at placed
        rw [placed.alone, add_zero, bare, top, changeBelow_root, ← top]
        exact Covered.root smaller top apart
      · exact covered.inner smaller first.state.tree.toStored_ordered placed
          top undivided apart

theorem covered_begin (seeds : List String) :
    Covered rules oracle (begin seeds none).state.tree.toStored
      (begin seeds none).pending := by
  constructor
  · intro branch member below
    rw [begin] at member
    simp [Progress.pending] at member
    exact absurd (congrArg Branch.path member) below
  · intro nonempty
    exact absurd rfl nonempty

theorem covered_schedule (blind : TreeBlind oracle)
    (names : NamesApart oracle) (smaller : GroupsSmaller rules oracle)
    {seeds : List String} {stopped : Progress}
    (schedule : Schedule rules (Answers oracle) (begin seeds none) stopped) :
    Covered rules oracle stopped.state.tree.toStored stopped.pending := by
  induction schedule with
  | refl => exact covered_begin seeds
  | tail before step covered =>
    exact covered_step blind names smaller step
      (worth_schedule blind names before (sound_begin seeds none)).1 covered

/-! ## The resumed run -/

/-- A run that takes up a tree with modules shows them and what comes from
their leaves. -/
theorem worth_begin_some (seeds : List String) {tree : ModuleTree}
    (filled : tree.isEmpty = false) :
    (worth rules oracle (begin seeds (some tree))).1 =
      rows [] tree.toStored + ((leaves [] tree.toStored).map fun row =>
        grown rules oracle (leafBranch row)).sum := by
  rw [worth_fst, begin_of_filled seeds filled, ModuleTree.leaves_toStored, Multiset.map_map,
    Progress.pending, resumable, ← Multiset.map_coe, Multiset.map_zero,
    add_zero, Multiset.map_map]
  rfl

/-- A fresh run that was stopped anywhere and taken up again from its tree
comes to an end, and ends with the stored tree of the uninterrupted run. -/
theorem resume_completes (rules : ClusterRules) {oracle : Question → Answer}
    (blind : TreeBlind oracle) (names : NamesApart oracle)
    (smaller : GroupsSmaller rules oracle) (seeds : List String)
    {stopped : Progress}
    (schedule : Schedule rules (Answers oracle) (begin seeds none) stopped)
    (tree : ModuleTree)
    (saved : tree.toStored = stopped.state.tree.toStored) :
    Acc (fun next first => Step rules (Answers oracle) first next)
        (begin seeds (some tree)) ∧
      ∀ last full, Ends rules (Answers oracle) (begin seeds (some tree)) last →
        Ends rules (Answers oracle) (begin seeds none) full →
        last.state.tree.toStored = full.state.tree.toStored := by
  refine ⟨(step_wellFounded rules (Answers oracle)).apply _, ?_⟩
  intro last full ends ends'
  cases kept : tree.isEmpty with
  | true =>
    rw [begin_of_isEmpty seeds kept] at ends
    exact (sameResult_of_ends blind names (sound_begin seeds none) ends
      ends').tree
  | false =>
    have nonempty : stopped.state.tree.toStored ≠ .nil := by
      intro bare
      rw [← saved, ← ModuleTree.isEmpty_iff_toStored, kept] at bare
      exact absurd bare (by simp)
    have covered := covered_schedule blind names smaller schedule
    have same : (shown last.state).1 = (shown full.state).1 := by
      calc (shown last.state).1
          = (worth rules oracle (begin seeds (some tree))).1 := by
            rw [shown_of_ends blind names ends (sound_begin seeds _)]
        _ = rows [] stopped.state.tree.toStored
              + (stopped.pending.map (grown rules oracle)).sum := by
            rw [worth_begin_some seeds kept, saved,
              covered.balanced nonempty]
        _ = (worth rules oracle (begin seeds none)).1 := by
            rw [← worth_fst, (worth_schedule blind names schedule
              (sound_begin seeds none)).2]
        _ = (shown full.state).1 := by
            rw [shown_of_ends blind names ends' (sound_begin seeds none)]
    exact ext_of_rows last.state.tree.toStored_ordered
      full.state.tree.toStored_ordered same

namespace Sample

/-- The sets of the three functions, with the text and the size of their
listings. -/
def listings : List (List String × String × Nat) :=
  [([], "", 0), (["a"], "# f.py\n\ta\n", 1), (["b"], "# f.py\n\tb\n", 1),
    (["a", "b"], "# f.py\n\ta\n\tb\n", 2), (["c"], "# f.py\n\tc\n", 1),
    (["a", "c"], "# f.py\n\ta\n\tc\n", 2),
    (["b", "c"], "# f.py\n\tb\n\tc\n", 2),
    (["a", "b", "c"], "# f.py\n\ta\n\tb\n\tc\n", 3)]

theorem listings_correct : ∀ row ∈ listings,
    (Sample.rules.listing row.1).summary = row.2.1 ∧
      (Sample.rules.listing row.1).ids.length = row.2.2 := by
  simp only [listings, List.forall_mem_cons]
  refine ⟨⟨?_, ?_⟩, ⟨?_, ?_⟩, ⟨?_, ?_⟩, ⟨?_, ?_⟩, ⟨?_, ?_⟩, ⟨?_, ?_⟩,
    ⟨?_, ?_⟩, ⟨?_, ?_⟩, by simp⟩ <;> cbv

theorem exists_listing (candidates : List String) : ∃ row ∈ listings,
    (Sample.rules.listing candidates).summary = row.2.1 ∧
      (Sample.rules.listing candidates).ids.length = row.2.2 := by
  have names : Sample.rules.components.names = ["a", "b", "c"] := by cbv
  have same : Sample.rules.listing candidates = Sample.rules.listing
      (["a", "b", "c"].filter fun id => id ∈ candidates) := by
    apply Listing.ofCandidates_congr
    intro id known
    have among : id ∈ ["a", "b", "c"] := names ▸ Keyed.contains_iff.1 known
    simp [among]
  have subset : (["a", "b", "c"].filter fun id => id ∈ candidates) ∈
      listings.map Prod.fst := by
    rw [show listings.map Prod.fst = ["a", "b", "c"].sublists from rfl]
    exact List.mem_sublists.2 List.filter_sublist
  rcases List.mem_map.1 subset with ⟨row, member, set⟩
  rw [same, ← set]
  exact ⟨row, member, listings_correct row member⟩

theorem groupsSmaller : GroupsSmaller Sample.rules Sample.oracle := by
  intro branch tree reply groups answered read group member
  rcases exists_listing branch.candidates with ⟨row, listed, summary, size⟩
  have few := (NameSet.size_ofList_le _).trans
    (List.length_filter_le Sample.rules.components.contains group.components)
  apply lt_of_le_of_lt few
  show _ < (Sample.rules.listing branch.candidates).ids.length
  rw [size]
  rcases oracle_eq_ok answered with ⟨asked, rfl⟩ | ⟨asked, rfl⟩
  · have text : row.2.1 = "# f.py\n\ta\n\tb\n\tc\n" :=
      summary.symm.trans (congrArg Inquiry.listing asked)
    have three : ∀ row ∈ listings,
        row.2.1 = "# f.py\n\ta\n\tb\n\tc\n" → row.2.2 = 3 := by
      simp [listings]
    rw [ofText_whole, Reply.proposed.injEq] at read
    subst read
    rw [three row listed text]
    simp only [List.mem_cons, List.not_mem_nil, or_false] at member
    rcases member with rfl | rfl <;> simp
  · have text : row.2.1 = "# f.py\n\ta\n\tb\n" :=
      summary.symm.trans (congrArg Inquiry.listing asked)
    have two : ∀ row ∈ listings,
        row.2.1 = "# f.py\n\ta\n\tb\n" → row.2.2 = 2 := by
      simp [listings]
    rw [ofText_part, Reply.proposed.injEq] at read
    subst read
    rw [two row listed text]
    simp only [List.mem_cons, List.not_mem_nil, or_false] at member
    rcases member with rfl | rfl <;> simp

/-- The three functions are looked at. -/
def opened : ClusterState × Option Question :=
  (ClusterState.start .empty).prepare Sample.rules ⟨[], ["a", "b", "c"]⟩

theorem opened_answer : opened.2.map Sample.oracle = some (.ok whole) := by
  decide +kernel

/-- The three functions are divided. -/
def divided : ClusterState × List Branch :=
  opened.1.absorb Sample.rules ⟨[], ["a", "b", "c"]⟩ (.ok whole)

/-- The run after that, when no module is examined yet. -/
def interrupted : Progress := ⟨divided.1, divided.2, 0⟩

theorem interrupted_facts :
    interrupted.waiting.card = 2 ∧
      interrupted.state.tree.modules.map Forest.Entry.path =
        [["x"], ["y"]] := by
  rw [interrupted, Multiset.coe_card]
  decide +kernel

theorem schedule_interrupted :
    Schedule Sample.rules (Answers Sample.oracle) (begin ["a", "b", "c"] none)
      interrupted := by
  rcases Option.map_eq_some_iff.1 opened_answer with
    ⟨question, asked, answered⟩
  have prepared : opened = (opened.1, some question) :=
    Prod.ext rfl asked
  have first : begin ["a", "b", "c"] none =
      ⟨.start .empty, {⟨[], ["a", "b", "c"]⟩}, 0⟩ := rfl
  rcases taken : divided with ⟨next, children⟩
  rw [first, interrupted, taken]
  rw [divided] at taken
  exact schedule_of_answered prepared answered taken

end Sample

/-- A run that is interrupted after the first division of three functions, when
two modules wait to be examined.  Taking its tree up divides one of them again,
as the whole run does. -/
theorem resume_completes_sample :
    TreeBlind Sample.oracle ∧ NamesApart Sample.oracle ∧
      GroupsSmaller Sample.rules Sample.oracle ∧
      ∃ stopped last full,
        Schedule Sample.rules (Answers Sample.oracle)
          (begin ["a", "b", "c"] none) stopped ∧
        stopped.waiting.card = 2 ∧
        stopped.state.tree.modules.map Forest.Entry.path = [["x"], ["y"]] ∧
        Ends Sample.rules (Answers Sample.oracle)
          (begin ["a", "b", "c"] (some stopped.state.tree)) last ∧
        Ends Sample.rules (Answers Sample.oracle)
          (begin ["a", "b", "c"] none) full ∧
        full.state.tree.modules.map Forest.Entry.path =
          [["x"], ["x", "p"], ["x", "q"], ["y"]] ∧
        last.state.tree.toStored = full.state.tree.toStored := by
  have ends := outcome_ends Sample.rules Sample.oracle ["a", "b", "c"]
    (some Sample.interrupted.state.tree)
  have ends' := outcome_ends Sample.rules Sample.oracle ["a", "b", "c"] none
  have same := (resume_completes Sample.rules Sample.treeBlind
    Sample.namesApart Sample.groupsSmaller ["a", "b", "c"]
    Sample.schedule_interrupted _ rfl).2 _ _ ends ends'
  exact ⟨Sample.treeBlind, Sample.namesApart, Sample.groupsSmaller,
    Sample.interrupted, _, _, Sample.schedule_interrupted,
    Sample.interrupted_facts.1, Sample.interrupted_facts.2, ends, ends',
    Sample.outcome_facts.1, same⟩

end Clustering

end ModuleAtlas
