import ModuleAtlas.Proofs.Graph.DepthFirst

/-!
# Collecting the nodes that lead to each other

A search against the arrows, started from the nodes of a first search with
the one finished last in front, collects groups.  Each group holds exactly the
nodes that lead to one of its members and are reached from it, every node is
in one group, and no arrow leads from a group to one that stands behind it.
-/

namespace ModuleAtlas.Search

open Relation

universe u

variable {α : Type u} {next back : α → List α}

/-- Two nodes lead to each other. -/
def Mutual (next : α → List α) (left right : α) : Prop :=
  Reaches next left right ∧ Reaches next right left

theorem Mutual.symm {left right : α} (both : Mutual next left right) :
    Mutual next right left :=
  ⟨both.2, both.1⟩

theorem Mutual.trans {left middle right : α}
    (first : Mutual next left middle) (second : Mutual next middle right) :
    Mutual next left right :=
  ⟨ReflTransGen.trans first.1 second.1,
    ReflTransGen.trans second.2 first.2⟩

/-- The division of some nodes into the classes of nodes that lead to each
other, with arrows from later groups to earlier ones only. -/
structure Division (next : α → List α) (met : List α)
    (groups : List (List α)) : Prop where
  members : groups.flatten.Perm met
  nonempty : ∀ group ∈ groups, group ≠ []
  classes : ∀ group ∈ groups, ∀ node ∈ group, ∀ other,
    other ∈ group ↔ Mutual next node other
  ordered : groups.Pairwise fun earlier later =>
    ∀ node ∈ earlier, ∀ other ∈ later, other ∉ next node

/-- Arrows against arrows. -/
def Opposite (next back : α → List α) : Prop :=
  ∀ source target, source ∈ back target ↔ target ∈ next source

theorem Opposite.reaches (opposite : Opposite next back)
    {source target : α} (walk : Reaches back target source) :
    Reaches next source target := by
  induction walk with
  | refl => exact ReflTransGen.refl
  | tail _ arrow step =>
    exact ReflTransGen.head ((opposite _ _).1 arrow) step

theorem Opposite.symm (opposite : Opposite next back) :
    Opposite back next :=
  fun source target => (opposite target source).symm

/-- Collecting among some nodes, between two starts: what was met is finished,
and divided. -/
structure Collecting (next back : α → List α) (nodes : Finset α)
    (progress : Search α × List (List α)) : Prop where
  sound : Sound back progress.1
  inside : ∀ node ∈ progress.1.met, node ∈ nodes
  finished : progress.1.finished.Perm progress.1.met
  division : Division next progress.1.met progress.2

namespace Collecting

variable {nodes : Finset α} {progress : Search α × List (List α)}

theorem closed (collecting : Collecting next back nodes progress)
    {node source : α} (met : node ∈ progress.1.met)
    (arrow : source ∈ back node) : source ∈ progress.1.met :=
  collecting.sound.closed node (collecting.finished.mem_iff.2 met)
    source arrow

/-- Against the arrows, what was met leads to what was met. -/
theorem closed_reaches (collecting : Collecting next back nodes progress)
    {node source : α} (met : node ∈ progress.1.met)
    (walk : Reaches back node source) : source ∈ progress.1.met := by
  induction walk with
  | refl => exact met
  | tail _ arrow step => exact collecting.closed step arrow

/-- A node that was not met leads to the next start through nodes that were
not met either. -/
theorem reachesWithin (opposite : Opposite next back)
    (collecting : Collecting next back nodes progress) {start node : α}
    {rest : List α}
    (left : ∀ other, Reaches back start other →
      other ∈ progress.1.met ∨ other ∈ start :: rest)
    (walk : Reaches back start node) (new : node ∉ progress.1.met) :
    ReachesWithin next (start :: rest) node start := by
  induction walk with
  | refl => exact ReflTransGen.refl
  | @tail middle node walk arrow step =>
    have middle_new : middle ∉ progress.1.met :=
      fun met => new (collecting.closed met arrow)
    have middle_left := (left middle walk).resolve_left middle_new
    have node_left := (left node (ReflTransGen.tail walk arrow)).resolve_left
      new
    exact ReflTransGen.head
      ⟨⟨node_left, middle_left⟩, (opposite _ _).1 arrow⟩
      (step middle_new)

/-- What the visit of a start newly meets is the class of the start. -/
theorem fresh_class (opposite : Opposite next back)
    (collecting : Collecting next back nodes progress) {start : α}
    {rest fresh order : List α} {after : Search α}
    (layered : Layered next (start :: rest))
    (left : ∀ other, Reaches back start other →
      other ∈ progress.1.met ∨ other ∈ start :: rest)
    (new : start ∉ progress.1.met)
    (visited : Visited back [start] progress.1 after)
    (gains : Gains progress.1 after fresh order)
    (finished : after.finished.Perm after.met) (node : α) :
    node ∈ fresh ↔ Mutual next start node := by
  have closed_after : ∀ other, Reaches back start other →
      other ∈ after.met := by
    intro other walk
    induction walk with
    | refl => exact visited.targets_met start (List.mem_singleton_self start)
    | tail _ arrow step =>
      exact visited.sound.closed _ (finished.mem_iff.2 step) _ arrow
  have distinct := visited.sound.distinct
  rw [gains.met] at distinct
  have apart := (List.nodup_append.1 distinct).2.2
  constructor
  · intro member
    have node_new : node ∉ progress.1.met :=
      fun met => apart node member node met rfl
    have walk : Reaches back start node := by
      rcases visited.gains with ⟨fresh', order', gains', origin⟩
      have same : fresh' = fresh :=
        List.append_cancel_right (gains'.met.symm.trans gains.met)
      rcases origin node (same ▸ member) with ⟨target, inside, walk⟩
      rwa [List.mem_singleton.1 inside] at walk
    refine ⟨?_, opposite.reaches walk⟩
    by_cases same : node = start
    · rw [same]
      exact ReflTransGen.refl
    · have node_left := ((left node walk).resolve_left node_new)
      exact layered.1 node ((List.mem_cons.1 node_left).resolve_left same)
        (collecting.reachesWithin opposite left walk node_new)
  · rintro ⟨forth, back_walk⟩
    have walk : Reaches back start node :=
      opposite.symm.reaches back_walk
    have met := closed_after node walk
    rw [gains.met] at met
    apply (List.mem_append.1 met).resolve_right
    intro old
    apply new
    exact collecting.closed_reaches old (opposite.symm.reaches forth)

/-- The class of a start that was not met goes in front of the groups. -/
theorem cons_division {fresh : List α} {start : α} {after : Search α}
    (opposite : Opposite next back)
    (collecting : Collecting next back nodes progress)
    (met : after.met = fresh ++ progress.1.met) (distinct : after.met.Nodup)
    (inside : start ∈ fresh)
    (fresh_class : ∀ node, node ∈ fresh ↔ Mutual next start node) :
    Division next after.met (fresh :: progress.2) where
  members := by
    rw [met, List.flatten_cons]
    exact collecting.division.members.append_left fresh
  nonempty := by
    intro group member
    rcases List.mem_cons.1 member with same | old
    · exact same ▸ List.ne_nil_of_mem inside
    · exact collecting.division.nonempty group old
  classes := by
    intro group member node node_inside other
    rcases List.mem_cons.1 member with same | old
    · subst same
      have start_node := (fresh_class node).1 node_inside
      rw [fresh_class other]
      exact ⟨start_node.symm.trans, start_node.trans⟩
    · exact collecting.division.classes group old node node_inside other
  ordered := by
    refine List.pairwise_cons.2 ⟨?_, collecting.division.ordered⟩
    intro later member node node_inside other other_inside arrow
    have other_met : other ∈ progress.1.met :=
      collecting.division.members.mem_iff.1
        (List.mem_flatten_of_mem member other_inside)
    have node_met := collecting.closed other_met ((opposite _ _).2 arrow)
    rw [met] at distinct
    exact (List.nodup_append.1 distinct).2.2 node node_inside node node_met rfl

end Collecting

theorem collecting_start {nodes : Finset α} :
    Collecting next back nodes
      ((start, []) : Search α × List (List α)) where
  sound := sound_start
  inside := by simp [start]
  finished := List.Perm.refl _
  division := ⟨List.Perm.refl _, by simp, by simp, List.Pairwise.nil⟩

section Collect

variable [DecidableEq α] {nodes : Finset α} {depth : Nat}
  {progress : Search α × List (List α)}

/-- A start that was met changes nothing. -/
theorem visit_of_met {search : Search α} {start : α}
    (known : start ∈ search.met) : visit next depth search start = search := by
  cases depth with
  | zero => rfl
  | succ depth => simp [visit, known]

/-- Taking one more start keeps what was met divided into classes. -/
theorem Collecting.step (opposite : Opposite next back)
    (explores : Explores back nodes depth) (large : nodes.card ≤ depth)
    (collecting : Collecting next back nodes progress) {start : α}
    {rest : List α} (layered : Layered next (start :: rest))
    (start_inside : start ∈ nodes)
    (closed : ∀ other, Reaches back start other → other ∈ nodes)
    (left : ∀ node ∈ nodes, node ∈ progress.1.met ∨ node ∈ start :: rest) :
    Collecting next back nodes (collectFrom back depth progress start) ∧
      ∀ node ∈ nodes,
        node ∈ (collectFrom back depth progress start).1.met ∨
          node ∈ rest := by
  have visited := explores progress.1 start collecting.sound start_inside
    ((Finset.card_le_card Finset.sdiff_subset).trans large)
  rcases visited.gains with ⟨fresh, order, gains, origin⟩
  have taken : (visit back depth progress.1 start).met.take
      ((visit back depth progress.1 start).met.length
        - progress.1.met.length) = fresh := by
    rw [gains.met, List.length_append, Nat.add_sub_cancel]
    exact List.take_left
  have finished : (visit back depth progress.1 start).finished.Perm
      (visit back depth progress.1 start).met := by
    rw [gains.finished, gains.met]
    exact gains.same.append collecting.finished
  have start_met := visited.targets_met start (List.mem_singleton_self start)
  have left_after : ∀ node ∈ nodes,
      node ∈ (visit back depth progress.1 start).met ∨ node ∈ rest := by
    intro node member
    rcases left node member with known | waits
    · exact Or.inl (gains.met_subset known)
    · rcases List.mem_cons.1 waits with same | behind
      · exact Or.inl (same ▸ start_met)
      · exact Or.inr behind
  have inside_after : ∀ node ∈ (visit back depth progress.1 start).met,
      node ∈ nodes := by
    intro node member
    rw [gains.met] at member
    rcases List.mem_append.1 member with new | old
    · rcases origin node new with ⟨target, same, walk⟩
      exact closed node (List.mem_singleton.1 same ▸ walk)
    · exact collecting.inside node old
  unfold collectFrom
  simp only [taken]
  refine ⟨⟨visited.sound, inside_after, finished, ?_⟩, left_after⟩
  by_cases known : start ∈ progress.1.met
  · have same : visit back depth progress.1 start = progress.1 :=
      visit_of_met known
    have empty : fresh = [] := by
      have met := gains.met
      rw [same] at met
      exact List.append_cancel_right (met.symm.trans (List.nil_append _).symm)
    simp only [empty, List.isEmpty_nil, if_true, same]
    exact collecting.division
  · have fresh_class := collecting.fresh_class opposite layered
      (fun other walk => left other (closed other walk)) known visited gains
      finished
    have inside : start ∈ fresh :=
      (fresh_class start).2 ⟨ReflTransGen.refl, ReflTransGen.refl⟩
    have filled : fresh.isEmpty = false := by
      cases fresh with
      | nil => exact absurd inside List.not_mem_nil
      | cons head tail => rfl
    rw [filled]
    exact Collecting.cons_division opposite collecting gains.met
      visited.sound.distinct inside fresh_class

/-- Collecting from all starts of a layered list that holds whatever was not
met divides what was met, which is everything in the end. -/
theorem Collecting.run (opposite : Opposite next back)
    (explores : Explores back nodes depth) (large : nodes.card ≤ depth)
    (closed : ∀ node ∈ nodes, ∀ other, Reaches back node other →
      other ∈ nodes) (starts : List α) :
    ∀ progress : Search α × List (List α), Layered next starts →
      (∀ node ∈ starts, node ∈ nodes) → Collecting next back nodes progress →
      (∀ node ∈ nodes, node ∈ progress.1.met ∨ node ∈ starts) →
      Collecting next back nodes
          (starts.foldl (collectFrom back depth) progress) ∧
        ∀ node ∈ nodes,
          node ∈ (starts.foldl (collectFrom back depth) progress).1.met := by
  induction starts with
  | nil =>
    intro progress _ _ collecting left
    refine ⟨collecting, ?_⟩
    intro node member
    exact (left node member).resolve_right List.not_mem_nil
  | cons head rest step =>
    intro progress layered inside collecting left
    have head_inside := inside head List.mem_cons_self
    have next_progress := collecting.step opposite explores large layered
      head_inside (closed head head_inside) left
    exact step _ layered.2
      (fun node member => inside node (List.mem_cons_of_mem _ member))
      next_progress.1 next_progress.2

end Collect

section TwoSearches

variable [DecidableEq α] {depth : Nat} {nodes : List α}

/-- The first search meets and finishes exactly the nodes. -/
theorem visitAll_nodes
    (closed : ∀ node ∈ nodes, ∀ target ∈ next node, target ∈ nodes)
    (large : nodes.length ≤ depth) :
    Sound next (start.visitAll next depth nodes) ∧
      ∀ node, node ∈ (start.visitAll next depth nodes).finished ↔
        node ∈ nodes := by
  have explores : Explores next nodes.toFinset depth :=
    Search.explores (by simpa using closed) depth
  have visited := explores.visitAll nodes start sound_start (by simp)
    ((Finset.card_le_card Finset.sdiff_subset).trans
      ((List.toFinset_card_le nodes).trans large))
  rcases visited.gains with ⟨fresh, order, gains, origin⟩
  refine ⟨visited.sound, ?_⟩
  intro node
  have met : (start.visitAll next depth nodes).met = fresh :=
    gains.met.trans (List.append_nil fresh)
  have finished : (start.visitAll next depth nodes).finished = order :=
    gains.finished.trans (List.append_nil order)
  rw [finished, gains.same.mem_iff]
  constructor
  · intro member
    rcases origin node member with ⟨target, inside, walk⟩
    exact walk.closed closed inside
  · intro member
    rw [← met]
    exact visited.targets_met node member

/-- The groups that two searches collect, one along the arrows and one against
them, divide the nodes. -/
theorem collect_division (opposite : Opposite next back)
    (distinct : nodes.Nodup)
    (closed : ∀ node ∈ nodes, ∀ target ∈ next node, target ∈ nodes)
    (closed_back : ∀ node ∈ nodes, ∀ source ∈ back node, source ∈ nodes)
    (large : nodes.length ≤ depth) :
    Division next nodes (collect back depth
      (start.visitAll next depth nodes).finished).2 := by
  rcases visitAll_nodes closed large with ⟨sound, finished⟩
  have explores : Explores back nodes.toFinset depth :=
    Search.explores (by simpa using closed_back) depth
  have done := Collecting.run opposite explores
    ((List.toFinset_card_le nodes).trans large)
    (fun node member other walk => List.mem_toFinset.2
      (walk.closed closed_back (List.mem_toFinset.1 member)))
    (start.visitAll next depth nodes).finished (start, []) sound.layered
    (fun node member => List.mem_toFinset.2 ((finished node).1 member))
    collecting_start
    (fun node member => Or.inr
      ((finished node).2 (List.mem_toFinset.1 member)))
  have division := done.1.division
  refine { division with members := division.members.trans ?_ }
  apply (List.perm_ext_iff_of_nodup done.1.sound.distinct distinct).2
  intro node
  constructor
  · intro met
    exact List.mem_toFinset.1 (done.1.inside node met)
  · intro member
    exact done.2 node (List.mem_toFinset.2 member)

end TwoSearches

end ModuleAtlas.Search
