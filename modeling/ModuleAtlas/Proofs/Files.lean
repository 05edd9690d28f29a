import Mathlib.Data.Option.Basic
import ModuleAtlas.Files.Documents
import ModuleAtlas.Proofs.Module.Location

/-!
# Files that were written are read back

An action on files may fail at any of its steps.  When it ends well, every step
of it did.  A file can only be written below a directory, in place of something
that is no directory; the path that led to its directory is therefore as it was,
and the path of the file leads to what was written.
-/

namespace ModuleAtlas

/-! ## Actions that end well -/

section Success

variable {ε σ α β : Type}

/-- An action ends with a value, and leaves this behind. -/
def Succeeds (action : ExceptT ε (StateM σ) α) (before : σ) (value : α)
    (after : σ) : Prop :=
  action.run.run before = (.ok value, after)

theorem succeeds_pure {given value : α} {before after : σ} :
    Succeeds (pure given : ExceptT ε (StateM σ) α) before value after ↔
      given = value ∧ before = after := by
  rw [Succeeds, ← Except.ok.injEq (ε := ε) given value]
  exact Prod.mk.injEq .. ▸ Iff.rfl

theorem not_succeeds_throw {problem : ε} {value : α} {before after : σ} :
    ¬ Succeeds (throw problem : ExceptT ε (StateM σ) α) before value after :=
  fun ended => nomatch congrArg Prod.fst ended

theorem succeeds_lift {action : StateM σ α} {value : α} {before after : σ} :
    Succeeds (liftM action : ExceptT ε (StateM σ) α) before value after ↔
      action.run before = (value, after) := by
  rcases ran : action.run before with ⟨given, later⟩
  have lifted : (liftM action : ExceptT ε (StateM σ) α).run.run before =
      (.ok given, later) :=
    congrArg (fun last : α × σ => (Except.ok (ε := ε) last.1, last.2)) ran
  rw [Succeeds, lifted, Prod.mk.injEq, Prod.mk.injEq, Except.ok.injEq]

theorem run_bind_of_ok {action : ExceptT ε (StateM σ) α}
    {onward : α → ExceptT ε (StateM σ) β} {middle : α} {before inner : σ}
    (ran : Succeeds action before middle inner) :
    (action >>= onward).run.run before = (onward middle).run.run inner := by
  rw [ExceptT.run_bind, StateT.run_bind, ran]
  rfl

theorem run_bind_of_error {action : ExceptT ε (StateM σ) α}
    {onward : α → ExceptT ε (StateM σ) β} {problem : ε} {before inner : σ}
    (ran : action.run.run before = (.error problem, inner)) :
    (action >>= onward).run.run before = (.error problem, inner) := by
  rw [ExceptT.run_bind, StateT.run_bind, ran]
  rfl

/-- An action that ends well went well at its first step and after it. -/
theorem succeeds_bind {action : ExceptT ε (StateM σ) α}
    {onward : α → ExceptT ε (StateM σ) β} {value : β} {before after : σ} :
    Succeeds (action >>= onward) before value after ↔
      ∃ middle inner, Succeeds action before middle inner ∧
        Succeeds (onward middle) inner value after := by
  constructor
  · intro ended
    rcases ran : action.run.run before with ⟨problem | middle, inner⟩
    · rw [Succeeds, run_bind_of_error ran] at ended
      exact nomatch congrArg Prod.fst ended
    · exact ⟨middle, inner, ran, (run_bind_of_ok ran).symm.trans ended⟩
  · rintro ⟨middle, inner, ran, ended⟩
    exact (run_bind_of_ok ran).trans ended

end Success

/-! ## The path of a written file -/

namespace FileTree

open Forest

theorem isDirectory_iff {tree : FileTree} {place : List String} :
    tree.isDirectory place = true ↔
      place = [] ∨ valueAt? place tree = some .directory := by
  rw [isDirectory, Bool.or_eq_true, List.isEmpty_iff, valueAt?]
  rcases tree.find? place with _ | ⟨entry, children⟩
  · simp
  · cases entry <;> simp

/-- All directories on the way to a place, and the place itself. -/
def Open (tree : FileTree) (place : List String) : Prop :=
  ∀ above, above <+: place → tree.isDirectory above

theorem open_root (tree : FileTree) : tree.Open [] := by
  intro above inside
  rw [List.prefix_nil.1 inside]
  rfl

theorem Open.above {tree : FileTree} {place above : List String}
    (ways : tree.Open place) (inside : above <+: place) : tree.Open above :=
  fun other within => ways other (within.trans inside)

theorem Open.append {tree : FileTree} {place : List String} {name : String}
    (ways : tree.Open place) (here : tree.isDirectory (place ++ [name])) :
    tree.Open (place ++ [name]) := by
  intro above inside
  rcases List.prefix_concat_iff.1 inside with rfl | within
  · exact here
  · exact ways above within

/-- The start of a path that leads into a directory is open. -/
theorem open_startOf {tree : FileTree} {path : String}
    (here : tree.isDirectory (startOf path)) : tree.Open (startOf path) := by
  rw [startOf] at here ⊢
  split
  · next absolute =>
    rw [if_pos absolute] at here
    exact (open_root tree).append here
  · exact open_root tree

/-- A segment leads to where the walk is, to the directory above it, or to an
entry of the directory. -/
theorem follow_eq_ok {tree : FileTree} {place next : List String}
    {segment : String} (followed : tree.follow place segment = .ok next) :
    tree.isDirectory place ∧
      (next = place ∨ next = place.dropLast ∨ next = place ++ [segment]) := by
  unfold follow at followed
  split at followed
  · exact nomatch followed
  · next entered =>
    refine ⟨by simpa using entered, ?_⟩
    split at followed
    · exact .inl (Except.ok.inj followed).symm
    · split at followed
      · split at followed
        · exact nomatch followed
        · split at followed
          · exact .inl (Except.ok.inj followed).symm
          · exact .inr (.inl (Except.ok.inj followed).symm)
      · split at followed
        · exact nomatch followed
        · dsimp only at followed
          split at followed
          · exact .inr (.inr (Except.ok.inj followed).symm)
          · exact nomatch followed

/-- A name leads to the entry of the directory that has it. -/
theorem follow_name {tree : FileTree} {place : List String} {name : String}
    (here : tree.isDirectory place) (named : Path.isName name) :
    tree.follow place name =
      if (tree.find? (place ++ [name])).isSome then .ok (place ++ [name])
      else .error .missing := by
  have busy : Path.isIdle name = false ∧ name ≠ ".." := by
    simp only [Path.isName, Bool.and_eq_true, Bool.not_eq_true',
      decide_eq_true_eq] at named
    exact named.1
  simp [follow, here, busy, named]

/-- A walk follows its first segment and then the others. -/
theorem walk_cons {tree : FileTree} {start last segments : List String}
    {segment : String}
    (walked : (segment :: segments).foldlM tree.follow start = .ok last) :
    ∃ next, tree.follow start segment = .ok next ∧
      segments.foldlM tree.follow next = .ok last := by
  rw [List.foldlM_cons] at walked
  rcases followed : tree.follow start segment with problem | next
  · rw [followed] at walked
    exact nomatch walked
  · rw [followed] at walked
    exact ⟨next, rfl, walked⟩

/-- A walk begins in a directory if it ends in one. -/
theorem isDirectory_of_walk {tree : FileTree} {segments : List String}
    {place last : List String} (here : tree.isDirectory last)
    (walked : segments.foldlM tree.follow place = .ok last) :
    tree.isDirectory place := by
  cases segments with
  | nil => exact Except.ok.inj walked ▸ here
  | cons segment segments =>
    rcases walk_cons walked with ⟨next, followed, -⟩
    exact (follow_eq_ok followed).1

theorem Open.follow {tree : FileTree} {place next : List String}
    {segment : String} (ways : tree.Open place)
    (followed : tree.follow place segment = .ok next)
    (here : tree.isDirectory next) : tree.Open next := by
  rcases (follow_eq_ok followed).2 with rfl | rfl | rfl
  · exact ways
  · exact ways.above (List.dropLast_prefix place)
  · exact ways.append here

theorem Open.walk {tree : FileTree} {start last segments : List String}
    (ways : tree.Open start) (here : tree.isDirectory last)
    (walked : segments.foldlM tree.follow start = .ok last) :
    tree.Open last := by
  induction segments generalizing start with
  | nil => exact Except.ok.inj walked ▸ ways
  | cons segment segments step =>
    rcases walk_cons walked with ⟨next, followed, onward⟩
    exact step (ways.follow followed (isDirectory_of_walk here onward)) onward

section Put

variable {tree : FileTree} {place : List String} {name : String}
  (entry : FileNode)

/-- A new entry is seen at its place and below it, and nowhere else. -/
theorem valueAt?_putBelow_of_apart {other : List String}
    (away : ¬ place ++ [name] <+: other) :
    valueAt? other (tree.putBelow place name entry) = valueAt? other tree := by
  rw [valueAt?, valueAt?, putBelow]
  by_cases above : other <+: place
  · rcases above with ⟨rest, rfl⟩
    rcases List.eq_nil_or_concat other with rfl | ⟨front, last, rfl⟩
    · simp
    · rw [List.concat_eq_append, find?_changeBelow_above _ (by simp),
        Option.map_map]
      rfl
  · by_cases below : place <+: other
    · rcases below with ⟨_ | ⟨first, rest⟩, rfl⟩
      · exact absurd (by simp) above
      · have different : name ≠ first := by
          rintro rfl
          exact away ⟨rest, by simp⟩
        rw [find?_changeBelow_below, find?_append]
        congr 2
        funext level
        rw [find?_insert, if_neg different]
    · rw [find?_changeBelow_of_apart _ below above]

theorem find?_putBelow_self {level : FileTree}
    (located : level? place tree = some level) :
    find? (place ++ [name]) (tree.putBelow place name entry) =
      some (entry, nil) := by
  rw [putBelow, find?_changeBelow_below, located, Option.bind_some,
    find?_insert, if_pos rfl, if_pos rfl]

variable (closed : tree.isDirectory (place ++ [name]) = false)

include closed

/-- The ways through the tree do not pass what is put in place of a file. -/
theorem Open.apart {other : List String} (ways : tree.Open other) :
    ¬ place ++ [name] <+: other := by
  intro inside
  rw [ways _ inside] at closed
  exact Bool.noConfusion closed

theorem isDirectory_putBelow {other : List String} (ways : tree.Open other) :
    (tree.putBelow place name entry).isDirectory other := by
  have same : valueAt? other (tree.putBelow place name entry) =
      valueAt? other tree :=
    valueAt?_putBelow_of_apart entry (ways.apart closed)
  rw [isDirectory_iff, same, ← isDirectory_iff]
  exact ways other (List.prefix_refl other)

theorem follow_putBelow (named : Path.isName name)
    {start next : List String} {segment : String}
    (ways : tree.Open start) (onward : tree.Open next)
    (followed : tree.follow start segment = .ok next) :
    (tree.putBelow place name entry).follow start segment = .ok next := by
  have here : tree.isDirectory start := (follow_eq_ok followed).1
  by_cases inside : place ++ [name] <+: start ++ [segment]
  · exfalso
    rcases List.prefix_concat_iff.1 inside with same | within
    · rcases List.append_inj' same rfl with ⟨samePlace, sameName⟩
      rw [← samePlace, ← List.singleton_inj.1 sameName] at followed
      rw [← samePlace] at here
      rw [follow_name here named] at followed
      split at followed
      · cases Except.ok.inj followed
        exact onward.apart closed (List.prefix_refl _)
      · exact nomatch followed
    · exact ways.apart closed within
  · have met : ((tree.putBelow place name entry).find?
        (start ++ [segment])).isSome =
        (tree.find? (start ++ [segment])).isSome := by
      rw [← Option.isSome_map (f := Prod.fst)]
      exact (congrArg Option.isSome
        (valueAt?_putBelow_of_apart entry inside)).trans Option.isSome_map
    rw [← followed]
    simp only [follow, here, isDirectory_putBelow entry closed ways, met]

/-- A walk to a directory is the same after a file was written. -/
theorem walk_putBelow (named : Path.isName name)
    {start last segments : List String} (ways : tree.Open start)
    (here : tree.isDirectory last)
    (walked : segments.foldlM tree.follow start = .ok last) :
    segments.foldlM (tree.putBelow place name entry).follow start =
      .ok last := by
  induction segments generalizing start with
  | nil => exact walked
  | cons segment segments step =>
    rcases walk_cons walked with ⟨next, followed, rest⟩
    have onward : tree.Open next :=
      ways.follow followed (isDirectory_of_walk here rest)
    rw [List.foldlM_cons,
      follow_putBelow entry closed named ways onward followed]
    exact step onward rest

end Put

/-- The way into a directory is as it was after an entry was put there, unless a
directory was replaced. -/
theorem followAll_putBelow {tree : FileTree} {path name : String}
    {front place : List String} (entry : FileNode)
    (closed : tree.isDirectory (place ++ [name]) = false)
    (named : Path.isName name) (here : tree.isDirectory place)
    (walk : tree.followAll (startOf path) front = .ok place) :
    (tree.putBelow place name entry).followAll (startOf path) front =
        .ok place ∧
      (tree.putBelow place name entry).isDirectory place = true := by
  have start : tree.Open (startOf path) :=
    open_startOf (isDirectory_of_walk here walk)
  exact ⟨walk_putBelow entry closed named start here walk,
    isDirectory_putBelow entry closed (start.walk here walk)⟩

/-- The level of a directory. -/
theorem exists_level_of_isDirectory {tree : FileTree} {place : List String}
    (here : tree.isDirectory place) :
    ∃ level, level? place tree = some level := by
  rcases isDirectory_iff.1 here with rfl | entered
  · exact ⟨tree, level?_root tree⟩
  · rw [valueAt?, Option.map_eq_some_iff] at entered
    rcases entered with ⟨found, met, -⟩
    exact ⟨found.2, level?_of_find? met⟩

/-- A file is put into a directory, in place of nothing or of a file. -/
theorem write?_eq_some {tree later : FileTree} {path : String}
    {content : FileNode} (written : tree.write? path content = some later) :
    canLead path = true ∧ ∃ front name place,
      Path.segments path = front ++ [name] ∧
      tree.followAll (startOf path) front = .ok place ∧
      Path.isName name = true ∧
      tree.isDirectory place = true ∧
      tree.isDirectory (place ++ [name]) = false ∧
      later = tree.putBelow place name content := by
  simp only [write?, Option.bind_eq_bind, Option.bind_eq_some_iff] at written
  rcases written with ⟨_, within, name, ends, place, walked, put⟩
  rcases Option.ite_none_right_eq_some.1 put with ⟨fits, ⟨⟩⟩
  simp only [Bool.and_eq_true, Bool.not_eq_true'] at fits
  rcases fits with ⟨⟨named, here⟩, closed⟩
  refine ⟨(Option.guard_eq_some' _).1 within, _, name, place,
    (List.dropLast_append_getLast? name ends).symm, ?_, named, here, closed,
    rfl⟩
  cases reached :
      tree.followAll (startOf path) (Path.segments path).dropLast with
  | error problem =>
    rw [reached] at walked
    exact nomatch walked
  | ok last =>
    rw [reached] at walked
    exact congrArg Except.ok (Option.some.inj walked)

/-- What is written to a file is read from it. -/
theorem readText_write? {tree later : FileTree} {path content : String}
    (written : tree.write? path (.text content) = some later) :
    later.readText path = some content := by
  rcases write?_eq_some written with ⟨within, front, name, place, ended, walk,
    named, here, closed, rfl⟩
  rcases exists_level_of_isDirectory here with ⟨level, located⟩
  rcases followAll_putBelow (.text content) closed named here walk with
    ⟨again, inside⟩
  have met : (tree.putBelow place name (.text content)).find?
      (place ++ [name]) = some (.text content, nil) :=
    find?_putBelow_self _ located
  have landed : (tree.putBelow place name (.text content)).followAll
      (startOf path) (Path.segments path) = .ok (place ++ [name]) := by
    rw [followAll] at again ⊢
    rw [ended, List.foldlM_append, again]
    change (tree.putBelow place name _).follow place name >>= pure = _
    rw [follow_name inside named, met]
    rfl
  rw [readText, locate?, if_pos within, landed]
  change Option.bind (some (place ++ [name])) _ = _
  rw [Option.bind_some, met]

theorem write?_of_writeText {path text : String} {files later : FileTree}
    (asked : (MonadFiles.writeText path text : StateM FileTree Bool).run
      files = (true, later)) :
    files.write? path (.text text) = some later := by
  simp only [MonadFiles.writeText, StateT.run_bind, StateT.run_get] at asked
  cases written : files.write? path (.text text) with
  | none =>
    simp only [pure_bind, written] at asked
    exact nomatch congrArg Prod.fst asked
  | some next =>
    simp only [pure_bind, written] at asked
    exact congrArg (fun ended : Bool × FileTree => some ended.2) asked

end FileTree

/-! ## A file that holds texts -/

/-- The file at a path holds texts, seen in the state of the files: reading it
gives its text and changes nothing, and after it was written it holds what was
written to it. -/
structure HoldsText {σ : Type} [MonadFiles (StateM σ)] (path : String)
    (text? : σ → Option String) : Prop where
  readText (files : σ) :
    (MonadFiles.readText path : StateM σ _).run files = (text? files, files)
  writeText {text : String} {files later : σ} :
    (MonadFiles.writeText path text : StateM σ _).run files = (true, later) →
      text? later = some text

theorem FileTree.holdsText (path : String) :
    HoldsText path (FileTree.readText · path) where
  readText _ := rfl
  writeText asked := readText_write? (write?_of_writeText asked)

namespace HoldsText

variable {σ : Type} [MonadFiles (StateM σ)] {path : String}
  {text? : σ → Option String} (holds : HoldsText path text?)

include holds

/-- A text is read as a document. -/
theorem succeeds_read {text : String} {files : σ}
    (held : text? files = some text) :
    Succeeds (Documents.read path : ExceptT Failure (StateM σ) String)
      files text files := by
  have asked : Succeeds (MonadFiles.readText path :
      ExceptT Failure (StateM σ) _) files (some text) files :=
    succeeds_lift.2 (held ▸ holds.readText files)
  exact succeeds_bind.2 ⟨some text, files, asked, succeeds_pure.2 ⟨rfl, rfl⟩⟩

/-- A document that was written is there to be read. -/
theorem text?_of_write {text : String} {files later : σ}
    (written : Succeeds
      (Documents.write path text : ExceptT Failure (StateM σ) Unit)
      files () later) :
    text? later = some text := by
  rcases succeeds_bind.1 written with ⟨_, inner, -, written⟩
  rcases succeeds_bind.1 written with ⟨possible, last, asked, ended⟩
  cases possible with
  | false => exact absurd ended not_succeeds_throw
  | true =>
    rcases succeeds_pure.1 ended with ⟨-, rfl⟩
    exact holds.writeText (succeeds_lift.1 asked)

end HoldsText

end ModuleAtlas
