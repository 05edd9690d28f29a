import ModuleAtlas.Proofs.Clustering.Independence

/-!
# What the roots of a tree hold

The question for a whole repository lists all known seeds, but nothing makes
the reply give each of them to a group.  The roots of the tree come from this
reply alone, since everything else is put below them.  A root holds the known
components that its group lists, so a seed is in some root exactly when some
group with a name lists it, as long as groups are told apart by their names.
Seeds that the reply leaves out are in no module at all.
-/

namespace ModuleAtlas

namespace Clustering

open Forest StoredTree

/-- The question for the whole repository. -/
def opening (rules : ClusterRules) (seeds : List String) : Question :=
  ClusterRules.question ⟨[], seeds⟩ (rules.listing seeds) .empty

/-- A component is in a root module of a tree. -/
def InRoot (tree : ModuleTree) (id : String) : Prop :=
  ∃ root ∈ tree.forest.roots, id ∈ root.2.components

/-- A group that has a name lists a component. -/
def Listed (groups : List Group) (id : String) : Prop :=
  ∃ group ∈ groups, Text.trim group.name ≠ "" ∧ id ∈ group.components

/-- A fresh run has divided its seeds, or not yet, or never will. -/
inductive Opened (rules : ClusterRules)
    (allowed : Question → Answer → Prop) (seeds : List String)
    (progress : Progress) : Prop where
  | undivided (bare : progress.state.tree.toStored = .nil)
      (only : progress.pending ≤ {⟨[], seeds⟩})
      (asked : ∀ entry ∈ progress.asking, entry.2 = opening rules seeds)
  | divided {answer : Answer} {modules : List NewModule}
      (answered : allowed (opening rules seeds) answer)
      (verdict : (rules.judge answer).1 = .divided modules)
      (roots : progress.state.tree.toStored.roots =
        (putAll modules .nil).roots)
      (rooted : Rooted progress)

section

variable {rules : ClusterRules} {allowed : Question → Answer → Prop}
  {seeds : List String}

theorem opened_begin : Opened rules allowed seeds (begin seeds none) := by
  refine .undivided rfl (le_of_eq ?_) (by simp [begin_asking])
  simp [begin, Progress.pending]

theorem question_of_bare {branch : Branch} {tree : ModuleTree}
    (bare : tree.toStored = .nil) :
    ClusterRules.question branch (rules.listing branch.candidates) tree =
      ClusterRules.question branch (rules.listing branch.candidates)
        .empty := by
  have empty : tree.isEmpty = true := ModuleTree.isEmpty_iff_toStored.2 bare
  have empty' : ModuleTree.empty.isEmpty = true := rfl
  rw [ClusterRules.question, ClusterRules.question, if_pos empty,
    if_pos empty']

theorem opened_step {earlier later : Progress}
    (step : Step rules allowed earlier later)
    (opened : Opened rules allowed seeds earlier) :
    Opened rules allowed seeds later := by
  cases opened with
  | divided answered verdict roots rooted =>
    obtain ⟨rooted', same⟩ := roots_step step rooted
    exact .divided answered verdict (same.trans roots) rooted'
  | undivided bare only asked =>
    have alone : ∀ branch ∈ earlier.pending, branch = ⟨[], seeds⟩ :=
      fun branch member =>
        Multiset.mem_singleton.1 (Multiset.mem_of_le only member)
    have asked' : ∀ entry ∈ later.asking, entry.2 = opening rules seeds := by
      refine asking_step step (fun waits prepared => ?_) asked
      have first := alone _ (Multiset.mem_add.2 (Or.inl waits))
      rw [(ClusterState.prepare_eq_some prepared).2.1, first]
      exact question_of_bare bare
    cases effect_of_step step with
    | keep tree pending =>
      exact .undivided (by rwa [tree]) (by rwa [pending]) asked'
    | @drop branch tree pending spent =>
      refine .undivided (by rwa [tree]) (le_trans ?_ only) asked'
      rw [pending]
      exact Multiset.le_cons_self _ _
    | @grow branch question answer rest asking answered before tree after =>
      have first := alone branch (by simp [before])
      have nothing : rest = 0 := by
        rw [before, first, ← Multiset.cons_zero] at only
        exact Multiset.le_zero.1 ((Multiset.cons_le_cons_iff _).1 only)
      have shown : question = opening rules seeds := asked _ asking
      rw [shown] at answered
      rw [first, bare, changeBelow_root] at tree
      rw [first, nothing, add_zero] at after
      rcases ClusterRules.judge_modules_cases rules answer
        with none | ⟨modules, verdict⟩
      · rw [none] at tree after
        exact .undivided tree (by rw [after]; exact Multiset.zero_le _) asked'
      · refine .divided answered verdict ?_ ?_
        · rw [tree, verdict]
          rfl
        · intro child member
          rw [after] at member
          rcases exists_of_mem_pending (Multiset.mem_coe.1 member)
            with ⟨added, _, rfl⟩
          simp

theorem opened_schedule {progress : Progress}
    (schedule : Schedule rules allowed (begin seeds none) progress) :
    Opened rules allowed seeds progress := by
  induction schedule with
  | refl => exact opened_begin
  | tail _ step opened => exact opened_step step opened

/-! ## Roots of a division -/

theorem contains_of_mem_usable {groups : List Group} {added : NewModule}
    (among : added ∈ rules.usable groups) {id : String}
    (member : id ∈ added.components) :
    rules.components.contains id = true :=
  (ClusterRules.admits_of_mem_usable among).known id member

theorem exists_usable_iff {groups : List Group} {id : String}
    (known : rules.components.contains id = true) :
    (∃ added ∈ rules.usable groups, id ∈ added.components) ↔
      Listed groups id := by
  constructor
  · rintro ⟨added, among, member⟩
    rcases List.mem_filterMap.1 among with ⟨group, kept, usable⟩
    rw [ClusterRules.named, List.mem_filter, decide_eq_true_iff] at kept
    rw [(ClusterRules.module?_eq_some usable).2.2, NameSet.mem_ofList,
      List.mem_filter] at member
    exact ⟨group, kept.1, kept.2, member.1⟩
  · rintro ⟨group, among, name, member⟩
    have listed : id ∈ group.components.filter rules.components.contains :=
      List.mem_filter.2 ⟨member, known⟩
    have usable : rules.module? group = some ⟨Text.trim group.name,
        group.description,
        .ofList (group.components.filter rules.components.contains)⟩ := by
      rw [ClusterRules.module?, if_neg]
      rw [List.isEmpty_iff]
      exact List.ne_nil_of_mem listed
    refine ⟨_, List.mem_filterMap.2 ⟨group, ?_, usable⟩,
      NameSet.mem_ofList.2 listed⟩
    rw [ClusterRules.named, List.mem_filter, decide_eq_true_iff]
    exact ⟨among, name⟩

end

/-- The roots of a tree hold what the roots of its stored form hold. -/
theorem inRoot_iff {tree : ModuleTree} {id : String} :
    InRoot tree id ↔
      ∃ name value, (name, value) ∈ tree.toStored.roots ∧
        id ∈ value.components := by
  rw [ModuleTree.toStored, roots_map]
  constructor
  · rintro ⟨⟨name, value⟩, member, inside⟩
    exact ⟨name, value.stored, List.mem_map_of_mem member, inside⟩
  · rintro ⟨name, value, member, inside⟩
    rcases List.mem_map.1 member with ⟨root, among, same⟩
    obtain ⟨rfl, rfl⟩ := Prod.mk.inj same
    exact ⟨root, among, inside⟩

/-- The question for the whole repository lists all known seeds.  When a fresh
run has put anything into the tree, this question got a reply with groups.
The roots hold nothing that no group lists, and unless two groups are named
alike, a known component is in a root exactly when a group with a name lists
it. -/
theorem inRoot_iff_listed (rules : ClusterRules)
    (allowed : Question → Answer → Prop) (seeds : List String)
    {last : Progress}
    (schedule : Schedule rules allowed (begin seeds none) last)
    (filled : last.state.tree.isEmpty = false) :
    (∀ id ∈ seeds, rules.components.contains id = true →
      ∃ front back, (opening rules seeds).listing =
        front ++ Listing.idLine id ++ back) ∧
    ∃ reply groups, allowed (opening rules seeds) (.ok reply) ∧
      Reply.ofText reply = .proposed groups ∧
      (∀ id, InRoot last.state.tree id →
        rules.components.contains id = true ∧ Listed groups id) ∧
      (((rules.usable groups).map NewModule.name).Nodup →
        ∀ id, rules.components.contains id = true →
          (InRoot last.state.tree id ↔ Listed groups id)) := by
  refine ⟨fun id member known => Listing.exists_around_idLine member known, ?_⟩
  cases opened_schedule schedule with
  | undivided bare =>
    rw [ModuleTree.isEmpty_iff_toStored.2 bare] at filled
    exact absurd filled (by simp)
  | @divided answer modules answered verdict roots =>
    rcases ClusterRules.judge_eq_divided verdict
      with ⟨reply, groups, rfl, proposed, rfl, _⟩
    have listed : ∀ id, InRoot last.state.tree id →
        rules.components.contains id = true ∧ Listed groups id := by
      intro id inside
      rcases inRoot_iff.1 inside with ⟨name, value, member, inside⟩
      rw [roots] at member
      rcases exists_of_mem_roots_putAll member with ⟨added, among, _, rfl⟩
      have known : rules.components.contains id = true :=
        contains_of_mem_usable among inside
      exact ⟨known, (exists_usable_iff known).1 ⟨added, among, inside⟩⟩
    refine ⟨reply, groups, answered, proposed, listed, ?_⟩
    intro distinct id known
    refine ⟨fun inside => (listed id inside).2, fun given => ?_⟩
    rcases (exists_usable_iff known).2 given with ⟨added, among, inside⟩
    refine inRoot_iff.2 ⟨added.name, added.stored, ?_, inside⟩
    rw [roots]
    exact mem_roots_putAll distinct among

namespace Sample

theorem judge_part : (rules.judge (.ok part)).1 =
    .divided [⟨"p", "", ⟨["a"], by decide⟩⟩,
      ⟨"q", "", ⟨["b"], by decide⟩⟩] := by
  rw [ClusterRules.judge, ofText_part]
  cbv

/-- The groups of the reply that lists two functions. -/
def partGroups : List Group :=
  [⟨"p", "", [], ["a"]⟩, ⟨"q", "", [], ["b"]⟩]

theorem nodup_part : ((rules.usable partGroups).map NewModule.name).Nodup := by
  decide

theorem listed_part {id : String} :
    Listed partGroups id ↔ id = "a" ∨ id = "b" := by
  have named : Text.trim "p" ≠ "" ∧ Text.trim "q" ≠ "" := by decide
  simp [Listed, partGroups, named]

theorem three_large : rules.fits (rules.listing ["a", "b", "c"]) = false := by
  decide

/-- A run from three functions can end with the modules of a reply. -/
theorem exists_ends_filled {reply : String} {modules : List NewModule}
    (divided : (rules.judge (.ok reply)).1 = .divided modules) :
    ∃ last, Ends rules (Answers fun _ => .ok reply)
        (begin ["a", "b", "c"] none) last ∧
      last.state.tree.isEmpty = false ∧
      last.state.tree.toStored.roots = (putAll modules .nil).roots := by
  obtain ⟨last, ends, _, same⟩ : ∃ last, Ends rules
      (Answers fun _ => .ok reply) (begin ["a", "b", "c"] none) last ∧
        Rooted last ∧
        last.state.tree.toStored.roots = (putAll modules .nil).roots :=
    exists_ends_divided three_large (fun _ => rfl) divided
  refine ⟨last, ends, ?_, same⟩
  rcases ClusterRules.judge_eq_divided divided with ⟨_, _, _, _, _, many⟩
  have grown : putAll modules .nil ≠ .nil :=
    putAll_grows (by rintro rfl; simp at many) .nil
  rw [← Bool.not_eq_true, ModuleTree.isEmpty_iff_toStored]
  intro bare
  rw [bare] at same
  cases whole : putAll modules .nil with
  | nil => exact grown whole
  | node name value children rest => simp [whole, roots] at same

end Sample

/-- A reply lists two of three functions in groups with different names.  These
two are in roots, and the third is in none. -/
theorem inRoot_iff_listed_sample :
    ∃ last, Schedule Sample.rules (Answers fun _ => .ok Sample.part)
        (begin ["a", "b", "c"] none) last ∧
      last.state.tree.isEmpty = false ∧
      ∃ groups, Reply.ofText Sample.part = .proposed groups ∧
        ((Sample.rules.usable groups).map NewModule.name).Nodup ∧
        (Listed groups "a" ∧ InRoot last.state.tree "a") ∧
        (Listed groups "b" ∧ InRoot last.state.tree "b") ∧
        ¬ Listed groups "c" ∧ ¬ InRoot last.state.tree "c" := by
  rcases Sample.exists_ends_filled Sample.judge_part
    with ⟨last, ends, filled, _⟩
  obtain ⟨_, reply, groups, answered, proposed, _, exactly⟩ :=
    inRoot_iff_listed Sample.rules (Answers fun _ => .ok Sample.part)
      ["a", "b", "c"] ends.schedule filled
  obtain rfl : Sample.part = reply := Except.ok.inj answered
  obtain rfl : Sample.partGroups = groups :=
    Reply.proposed.inj (Sample.ofText_part.symm.trans proposed)
  have distinct := Sample.nodup_part
  have inside : ∀ id, Sample.rules.components.contains id = true →
      (InRoot last.state.tree id ↔ id = "a" ∨ id = "b") :=
    fun id known => (exactly distinct id known).trans Sample.listed_part
  refine ⟨last, ends.schedule, filled, _, proposed, distinct, ⟨?_, ?_⟩,
    ⟨?_, ?_⟩, ?_, ?_⟩
  · exact Sample.listed_part.2 (.inl rfl)
  · exact (inside "a" (by decide)).2 (.inl rfl)
  · exact Sample.listed_part.2 (.inr rfl)
  · exact (inside "b" (by decide)).2 (.inr rfl)
  · exact Sample.listed_part.not.2 (by decide)
  · exact (inside "c" (by decide)).not.2 (by decide)

/-- A reply that does not name one of three seeds leaves it out of the tree. -/
theorem unlisted_seed_lost :
    "c" ∈ ["a", "b", "c"] ∧ Sample.rules.components.contains "c" = true ∧
    ∃ last, Ends Sample.rules (Answers fun _ => .ok Sample.part)
        (begin ["a", "b", "c"] none) last ∧
      last.state.tree.isEmpty = false ∧ ¬ InRoot last.state.tree "c" := by
  refine ⟨by decide, by decide, ?_⟩
  rcases Sample.exists_ends_filled Sample.judge_part
    with ⟨last, ends, filled, same⟩
  refine ⟨last, ends, filled, fun inside => ?_⟩
  rcases inRoot_iff.1 inside with ⟨name, value, member, inside⟩
  rw [same] at member
  rcases exists_of_mem_roots_putAll member with ⟨added, among, _, rfl⟩
  have absent : ∀ added ∈ [
      (⟨"p", "", ⟨["a"], by decide⟩⟩ : NewModule),
      ⟨"q", "", ⟨["b"], by decide⟩⟩], "c" ∉ added.components := by
    decide
  exact absent added among inside

end Clustering

end ModuleAtlas
