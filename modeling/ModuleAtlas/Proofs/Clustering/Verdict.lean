import ModuleAtlas.Clustering.Verdict
import ModuleAtlas.Completion.Provider
import ModuleAtlas.Proofs.Text.Search

/-!
# Modules of a verdict

The modules that an answer divides a set into come from the groups of its
reply, in their order, each with the trimmed name of its group and the known
components of it.  Neither is empty.  The place that a reply proposes for a
group is not read.
-/

namespace ModuleAtlas

/-- A group without the place that is proposed for it. -/
def Group.placeless (group : Group) : Group := { group with path := [] }

/-- The modules that a verdict divides a set into. -/
def Verdict.modules : Verdict → List NewModule
  | .divided modules => modules
  | _ => []

namespace ClusterRules

/-- A new module has a trimmed name and known components, at least one. -/
structure Admits (rules : ClusterRules) (added : NewModule) : Prop where
  named : added.name ≠ ""
  trimmed : Text.trim added.name = added.name
  filled : added.components ≠ .empty
  known : ∀ id ∈ added.components, rules.components.contains id = true

variable {rules : ClusterRules} {answer : Answer}

theorem module?_eq_some {group : Group} {added : NewModule}
    (usable : rules.module? group = some added) :
    added.name = Text.trim group.name ∧
      added.description = group.description ∧
      added.components =
        .ofList (group.components.filter rules.components.contains) := by
  rw [module?] at usable
  split at usable
  · simp at usable
  · rw [Option.some.injEq] at usable
    subst usable
    exact ⟨rfl, rfl, rfl⟩

theorem admits_of_module? {group : Group} {added : NewModule}
    (named : Text.trim group.name ≠ "")
    (usable : rules.module? group = some added) : rules.Admits added := by
  rw [module?] at usable
  split at usable
  · simp at usable
  · next filled =>
    rw [Option.some.injEq] at usable
    subst usable
    refine ⟨named, Text.trim_trim _, fun bare => ?_, fun id inside => ?_⟩
    · rcases List.exists_mem_of_ne_nil _ (mt List.isEmpty_iff.2 filled)
        with ⟨id, inside⟩
      exact NameSet.not_mem_empty id (bare ▸ NameSet.mem_ofList.2 inside)
    · exact (List.mem_filter.1 (NameSet.mem_ofList.1 inside)).2

theorem admits_of_mem_usable {groups : List Group} {added : NewModule}
    (member : added ∈ rules.usable groups) : rules.Admits added := by
  rcases List.mem_filterMap.1 member with ⟨group, among, usable⟩
  refine admits_of_module? ?_ usable
  simpa using (List.mem_filter.1 among).2

/-- An answer that divides a set is a reply with at least two usable
groups. -/
theorem judge_eq_divided {modules : List NewModule}
    (divided : (rules.judge answer).1 = .divided modules) :
    ∃ reply groups, answer = .ok reply ∧
      Reply.ofText reply = .proposed groups ∧
      modules = rules.usable groups ∧ 2 ≤ modules.length := by
  cases answer with
  | error failure => simp [judge] at divided
  | ok reply =>
    rw [judge] at divided
    split at divided
    · simp at divided
    · simp at divided
    · next groups proposed =>
      dsimp only at divided
      split at divided
      · simp at divided
      · next many =>
        rw [Verdict.divided.injEq] at divided
        subst divided
        exact ⟨reply, groups, rfl, proposed, rfl, by omega⟩

theorem judge_modules_cases (rules : ClusterRules) (answer : Answer) :
    (rules.judge answer).1.modules = [] ∨
      ∃ modules, (rules.judge answer).1 = .divided modules := by
  cases (rules.judge answer).1 with
  | failed => exact Or.inl rfl
  | rejected rejection => exact Or.inl rfl
  | degenerate => exact Or.inl rfl
  | divided modules => exact Or.inr ⟨modules, rfl⟩

/-- An answer adds admissible modules only. -/
theorem admits_of_mem_judge {added : NewModule}
    (member : added ∈ (rules.judge answer).1.modules) :
    rules.Admits added := by
  rcases judge_modules_cases rules answer with none | ⟨modules, divided⟩
  · rw [none] at member
    exact absurd member List.not_mem_nil
  · rcases judge_eq_divided divided with ⟨_, groups, _, _, rfl, _⟩
    rw [divided] at member
    exact admits_of_mem_usable member

theorem usable_names_sublist (rules : ClusterRules) (groups : List Group) :
    ((rules.usable groups).map NewModule.name).Sublist
      (groups.map fun group => Text.trim group.name) := by
  have kept : ∀ groups : List Group,
      ((groups.filterMap rules.module?).map NewModule.name).Sublist
        (groups.map fun group => Text.trim group.name) := by
    intro groups
    induction groups with
    | nil => exact .slnil
    | cons group rest step =>
      rw [List.filterMap_cons]
      split
      · exact .cons _ step
      · next added usable =>
        rw [List.map_cons, List.map_cons, (module?_eq_some usable).1]
        exact step.cons_cons _
  exact (kept _).trans (List.filter_sublist.map _)

/-- Groups with different names make modules with different names. -/
theorem judge_names_nodup
    (apart : ∀ reply groups, answer = .ok reply →
      Reply.ofText reply = .proposed groups →
      (groups.map fun group => Text.trim group.name).Nodup) :
    ((rules.judge answer).1.modules.map NewModule.name).Nodup := by
  rcases judge_modules_cases rules answer with none | ⟨modules, divided⟩
  · rw [none]
    exact .nil
  · rcases judge_eq_divided divided
      with ⟨reply, groups, answered, proposed, rfl, _⟩
    rw [divided]
    exact (apart reply groups answered proposed).sublist
      (usable_names_sublist rules groups)

/-- Every module of an answer is made of a group of its reply. -/
theorem exists_group_of_mem_judge {added : NewModule}
    (member : added ∈ (rules.judge answer).1.modules) :
    ∃ reply groups, answer = .ok reply ∧
      Reply.ofText reply = .proposed groups ∧
      ∃ group ∈ groups, rules.module? group = some added := by
  rcases judge_modules_cases rules answer with none | ⟨modules, divided⟩
  · simp [none] at member
  · rcases judge_eq_divided divided
      with ⟨reply, groups, answered, proposed, rfl, _⟩
    rw [divided] at member
    rcases List.mem_filterMap.1 member with ⟨group, among, usable⟩
    exact ⟨reply, groups, answered, proposed, group,
      (List.mem_filter.1 among).1, usable⟩

/-! ## Proposed places -/

theorem named_placeless (groups : List Group) :
    named (groups.map Group.placeless) =
      (named groups).map Group.placeless := by
  rw [named, named, List.filter_map]
  rfl

theorem usable_placeless (rules : ClusterRules) (groups : List Group) :
    rules.usable (groups.map Group.placeless) = rules.usable groups := by
  rw [usable, usable, named_placeless, List.filterMap_map]
  rfl

theorem unknownInGroups_placeless (rules : ClusterRules)
    (groups : List Group) :
    rules.unknownInGroups (groups.map Group.placeless) =
      rules.unknownInGroups groups := by
  rw [unknownInGroups, unknownInGroups, named_placeless, List.flatMap_map]
  rfl

/-- Replies that differ in the proposed places only are judged alike. -/
theorem judge_congr (rules : ClusterRules) {reply other : String}
    {groups others : List Group}
    (proposed : Reply.ofText reply = .proposed groups)
    (proposed' : Reply.ofText other = .proposed others)
    (alike : groups.map Group.placeless = others.map Group.placeless) :
    rules.judge (.ok reply) = rules.judge (.ok other) := by
  have usable : rules.usable groups = rules.usable others := by
    rw [← usable_placeless, alike, usable_placeless]
  have unknown : rules.unknownInGroups groups =
      rules.unknownInGroups others := by
    rw [← unknownInGroups_placeless, alike, unknownInGroups_placeless]
  simp only [judge, proposed, proposed', usable, unknown]

end ClusterRules

end ModuleAtlas
