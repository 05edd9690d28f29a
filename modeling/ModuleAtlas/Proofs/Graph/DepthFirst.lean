import Mathlib.Data.Finset.Card
import Mathlib.Data.Finset.SDiff
import Mathlib.Logic.Relation
import ModuleAtlas.Graph.Search

/-!
# What a depth-first search meets and finishes

A visit adds the same nodes to both lists of a search.  Every node it adds is
reachable from its start, and every arrow out of a finished node leads to a
node that was met; the depth bound is never felt as long as it is at least the
number of nodes that were not met.

The finished nodes are *layered*: a node that leads to one finished after it,
without passing through nodes finished later still, is reachable from that
node in turn.  This is what a second search, against the arrows, needs in
order to collect exactly the nodes that lead to each other.
-/

namespace ModuleAtlas.Search

open Relation

universe u

variable {α : Type u} {next : α → List α}

/-- A node leads to another one along arrows. -/
def Reaches (next : α → List α) : α → α → Prop :=
  ReflTransGen fun source target => target ∈ next source

/-- A node leads to another one along arrows between nodes of a list. -/
def ReachesWithin (next : α → List α) (inside : List α) : α → α → Prop :=
  ReflTransGen fun source target =>
    (source ∈ inside ∧ target ∈ inside) ∧ target ∈ next source

theorem Reaches.closed {inside : List α}
    (closed : ∀ node ∈ inside, ∀ target ∈ next node, target ∈ inside)
    {source target : α} (member : source ∈ inside)
    (walk : Reaches next source target) : target ∈ inside := by
  induction walk with
  | refl => exact member
  | tail _ arrow step => exact closed _ step _ arrow

/-- In a list with the latest node first, a node is reachable from every later
node that it leads to through the nodes up to that one. -/
def Layered (next : α → List α) : List α → Prop
  | [] => True
  | last :: earlier =>
    (∀ node ∈ earlier, ReachesWithin next (last :: earlier) node last →
      Reaches next last node) ∧ Layered next earlier

/-- What holds of a search between two visits of its starts. -/
structure Sound (next : α → List α) (search : Search α) : Prop where
  distinct : search.met.Nodup
  finished_met : ∀ node ∈ search.finished, node ∈ search.met
  closed : ∀ node ∈ search.finished, ∀ target ∈ next node,
    target ∈ search.met
  layered : Layered next search.finished

theorem sound_start : Sound next (start : Search α) where
  distinct := List.nodup_nil
  finished_met := by simp [start]
  closed := by simp [start]
  layered := trivial

/-- A search goes on from another one by meeting and finishing some nodes. -/
structure Gains (before after : Search α) (fresh order : List α) : Prop where
  met : after.met = fresh ++ before.met
  finished : after.finished = order ++ before.finished
  same : order.Perm fresh

namespace Gains

theorem refl (search : Search α) : Gains search search [] [] :=
  ⟨rfl, rfl, List.Perm.refl _⟩

theorem trans {first second third : Search α}
    {fresh order fresh' order' : List α}
    (left : Gains first second fresh order)
    (right : Gains second third fresh' order') :
    Gains first third (fresh' ++ fresh) (order' ++ order) where
  met := by rw [right.met, left.met, List.append_assoc]
  finished := by rw [right.finished, left.finished, List.append_assoc]
  same := right.same.append left.same

theorem met_subset {before after : Search α} {fresh order : List α}
    (gains : Gains before after fresh order) {node : α}
    (member : node ∈ before.met) : node ∈ after.met := by
  rw [gains.met]
  exact List.mem_append_right _ member

end Gains

/-- The outcome of visiting some targets in turn. -/
structure Visited (next : α → List α) (targets : List α)
    (before after : Search α) : Prop where
  sound : Sound next after
  gains : ∃ fresh order, Gains before after fresh order ∧
    ∀ node ∈ fresh, ∃ target ∈ targets, Reaches next target node
  targets_met : ∀ target ∈ targets, target ∈ after.met

theorem Visited.refl {search : Search α} {targets : List α}
    (sound : Sound next search)
    (known : ∀ target ∈ targets, target ∈ search.met) :
    Visited next targets search search :=
  ⟨sound, ⟨[], [], Gains.refl search, by simp⟩, known⟩

theorem Visited.cons {first second third : Search α} {target : α}
    {targets : List α} (head : Visited next [target] first second)
    (tail : Visited next targets second third) :
    Visited next (target :: targets) first third := by
  rcases head.gains with ⟨fresh, order, headGains, headOrigin⟩
  rcases tail.gains with ⟨fresh', order', tailGains, tailOrigin⟩
  refine ⟨tail.sound, ⟨_, _, headGains.trans tailGains, ?_⟩, ?_⟩
  · intro node member
    rcases List.mem_append.1 member with new | old
    · rcases tailOrigin node new with ⟨origin, inside, walk⟩
      exact ⟨origin, List.mem_cons_of_mem _ inside, walk⟩
    · rcases headOrigin node old with ⟨origin, inside, walk⟩
      rw [List.mem_singleton] at inside
      exact ⟨origin, inside ▸ List.mem_cons_self, walk⟩
  · intro node member
    rcases List.mem_cons.1 member with same | inside
    · exact tailGains.met_subset
        (head.targets_met node (List.mem_singleton.2 same))
    · exact tail.targets_met node inside

/-- Leaving a node after its neighbours keeps the finished nodes layered: a
walk from a node finished before the entry of `node` would have to pass, on its
way, from the nodes finished then to one that was not even met. -/
theorem layered_leave {before after : Search α} {node : α}
    {fresh order : List α} (sound : Sound next before)
    (new : node ∉ before.met)
    (gains : Gains { before with met := node :: before.met } after
      fresh order)
    (distinct : after.met.Nodup) (layered : Layered next after.finished)
    (below : ∀ other ∈ fresh, Reaches next node other) :
    Layered next (node :: after.finished) := by
  refine ⟨?_, layered⟩
  intro other member walk
  rw [gains.finished] at member
  rcases List.mem_append.1 member with inside | old
  · exact below other (gains.same.mem_iff.1 inside)
  · exfalso
    have stays : ∀ last, ReachesWithin next (node :: after.finished) other
        last → last ∈ before.finished := by
      intro last walk
      induction walk with
      | refl => exact old
      | @tail middle last _ arrow step =>
        rcases arrow with ⟨⟨-, inside⟩, target⟩
        have met := sound.closed middle step last target
        rcases List.mem_cons.1 inside with same | finished
        · exact absurd (same ▸ met) new
        · rw [gains.finished] at finished
          rcases List.mem_append.1 finished with added | kept
          · rw [gains.met] at distinct
            exact absurd (List.mem_cons_of_mem _ met)
              ((List.nodup_append.1 distinct).2.2 last
                (gains.same.mem_iff.1 added) last · rfl)
          · exact kept
    exact new (sound.finished_met node (stays node walk))

/-- Entering a node that was not met, visiting its neighbours and leaving it
is a visit of the node. -/
theorem Visited.leave {before after : Search α} {node : α}
    (sound : Sound next before) (new : node ∉ before.met)
    (inner : Visited next (next node)
      { before with met := node :: before.met } after) :
    Visited next [node] before
      { after with finished := node :: after.finished } := by
  rcases inner.gains with ⟨fresh, order, gains, origin⟩
  have below : ∀ other ∈ fresh, Reaches next node other := by
    intro other member
    rcases origin other member with ⟨target, arrow, walk⟩
    exact ReflTransGen.head arrow walk
  have node_met : node ∈ after.met := gains.met_subset List.mem_cons_self
  refine ⟨⟨inner.sound.distinct, ?_, ?_, ?_⟩, ?_, ?_⟩
  · intro other member
    rcases List.mem_cons.1 member with same | finished
    · exact same ▸ node_met
    · exact inner.sound.finished_met other finished
  · intro other member target arrow
    rcases List.mem_cons.1 member with same | finished
    · exact inner.targets_met target (same ▸ arrow)
    · exact inner.sound.closed other finished target arrow
  · exact layered_leave sound new gains inner.sound.distinct
      inner.sound.layered below
  · refine ⟨fresh ++ [node], node :: order, ⟨?_, ?_, ?_⟩, ?_⟩
    · rw [gains.met, List.append_assoc, List.singleton_append]
    · rw [gains.finished, List.cons_append]
    · exact (gains.same.cons node).trans
        (List.perm_append_singleton node fresh).symm
    · intro other member
      refine ⟨node, List.mem_singleton_self node, ?_⟩
      rcases List.mem_append.1 member with inside | same
      · exact below other inside
      · rw [List.mem_singleton.1 same]
        exact ReflTransGen.refl
  · intro target member
    rw [List.mem_singleton.1 member]
    exact node_met

section Depth

variable [DecidableEq α] {nodes : Finset α}

/-- How many nodes were not met yet. -/
def unmet (nodes : Finset α) (search : Search α) : Nat :=
  (nodes \ search.met.toFinset).card

theorem Gains.unmet_le {before after : Search α} {fresh order : List α}
    (gains : Gains before after fresh order) :
    unmet nodes after ≤ unmet nodes before := by
  apply Finset.card_le_card
  apply Finset.sdiff_subset_sdiff subset_rfl
  intro node member
  exact List.mem_toFinset.2 (gains.met_subset (List.mem_toFinset.1 member))

theorem unmet_enter_lt {search : Search α} {node : α}
    (inside : node ∈ nodes) (new : node ∉ search.met) :
    unmet nodes { search with met := node :: search.met } <
      unmet nodes search := by
  apply Finset.card_lt_card
  constructor
  · apply Finset.sdiff_subset_sdiff subset_rfl
    intro other member
    simpa using Or.inr (List.mem_toFinset.1 member)
  · intro reverse
    have kept := reverse (Finset.mem_sdiff.2
      ⟨inside, fun member => new (List.mem_toFinset.1 member)⟩)
    exact (Finset.mem_sdiff.1 kept).2 (by simp)

/-- Enough depth for every node that was not met: what a visit to that depth
does to any sound search. -/
def Explores (next : α → List α) (nodes : Finset α) (depth : Nat) : Prop :=
  ∀ (search : Search α) (node : α), Sound next search → node ∈ nodes →
    unmet nodes search ≤ depth →
    Visited next [node] search (visit next depth search node)

theorem Explores.visitAll {depth : Nat}
    (explores : Explores next nodes depth) (targets : List α) :
    ∀ search : Search α, Sound next search →
      (∀ target ∈ targets, target ∈ nodes) → unmet nodes search ≤ depth →
      Visited next targets search (visitAll next depth search targets) := by
  induction targets with
  | nil =>
    intro search sound _ _
    exact Visited.refl sound (by simp)
  | cons target targets step =>
    intro search sound inside enough
    have head := explores search target sound
      (inside target List.mem_cons_self) enough
    rcases head.gains with ⟨fresh, order, gains, -⟩
    have tail := step (visit next depth search target) head.sound
      (fun other member => inside other (List.mem_cons_of_mem _ member))
      (gains.unmet_le.trans enough)
    exact head.cons tail

/-- A visit explores everything, given the depth and nodes that no arrow
leaves. -/
theorem explores (inside : ∀ node ∈ nodes, ∀ target ∈ next node,
    target ∈ nodes) (depth : Nat) : Explores next nodes depth := by
  induction depth with
  | zero =>
    intro search node sound member enough
    have none_left : nodes \ search.met.toFinset = ∅ :=
      Finset.card_eq_zero.1 (Nat.le_zero.1 enough)
    apply Visited.refl sound
    intro target same
    rw [List.mem_singleton.1 same]
    exact List.mem_toFinset.1 (Finset.sdiff_eq_empty_iff_subset.1 none_left
      member)
  | succ depth step =>
    intro search node sound member enough
    unfold visit
    split
    · next known =>
      apply Visited.refl sound
      intro target same
      rw [List.mem_singleton.1 same]
      exact known
    · next new =>
      have entered : Sound next { search with met := node :: search.met } :=
        ⟨List.nodup_cons.2 ⟨new, sound.distinct⟩,
          fun other finished =>
            List.mem_cons_of_mem _ (sound.finished_met other finished),
          fun other finished target arrow =>
            List.mem_cons_of_mem _
              (sound.closed other finished target arrow),
          sound.layered⟩
      have fewer := unmet_enter_lt member new
      exact Visited.leave sound new
        (step.visitAll (next node) _ entered (inside node member) (by omega))

end Depth

end ModuleAtlas.Search
