import Mathlib.Logic.Function.Iterate
import ModuleAtlas.Proofs.Files

/-!
# Places that keep texts

A place with files is seen through what some of its paths lead to.  It keeps
the texts of these paths when a file that was written holds what was written to
it, and neither writing to one of the others nor making the directories above
them changes what it holds.  A write that fails may leave anything at its own
path.
-/

namespace ModuleAtlas

/-! ## Actions that leave something as it was -/

section Sparing

variable {ε σ α β τ : Type}

/-- However an action ends, something of the state is afterwards as it was. -/
def Spares (action : ExceptT ε (StateM σ) α) (view : σ → τ) : Prop :=
  ∀ before, view (action.run.run before).2 = view before

variable {view : σ → τ}

theorem spares_pure (value : α) :
    Spares (pure value : ExceptT ε (StateM σ) α) view :=
  fun _ => rfl

theorem spares_throw (problem : ε) :
    Spares (throw problem : ExceptT ε (StateM σ) α) view :=
  fun _ => rfl

theorem spares_lift {action : StateM σ α}
    (spares : ∀ before, view (action.run before).2 = view before) :
    Spares (liftM action : ExceptT ε (StateM σ) α) view :=
  spares

theorem spares_bind {action : ExceptT ε (StateM σ) α}
    {onward : α → ExceptT ε (StateM σ) β} (first : Spares action view)
    (others : ∀ value, Spares (onward value) view) :
    Spares (action >>= onward) view := by
  intro before
  rcases ran : action.run.run before with ⟨problem | value, inner⟩
  · rw [run_bind_of_error ran, ← first before, ran]
  · rw [run_bind_of_ok ran, others value inner, ← first before, ran]

theorem Spares.of_succeeds {action : ExceptT ε (StateM σ) α}
    (spares : Spares action view) {before after : σ} {value : α}
    (ended : Succeeds action before value after) : view after = view before := by
  rw [← spares before, ended]

end Sparing

/-! ## Keeping texts -/

/-- The text of a file. -/
def FileNode.text? : FileNode → Option String
  | .text content => some content
  | .directory | .binary => none

/-- What some paths lead to is changed by nothing but the writing of files,
each write at its own path.  Other paths may lead anywhere. -/
structure KeepsTexts {σ : Type} [MonadFiles (StateM σ)]
    (node? : σ → String → Option FileNode) (paths : List String) : Prop where
  holds {path : String} (kept : path ∈ paths) :
    HoldsText path fun files => (node? files path).bind FileNode.text?
  isPresent {path : String} (kept : path ∈ paths) (files : σ) :
    (MonadFiles.isPresent path : StateM σ _).run files =
      ((node? files path).isSome, files)
  makeDirectory {path other : String} (kept : path ∈ paths)
    (kept' : other ∈ paths) (level : Nat) (files : σ) :
    node? ((MonadFiles.makeDirectory (Path.parent^[level + 1] path) :
      StateM σ _).run files).2 other = node? files other
  writeText {path other : String} (kept : path ∈ paths)
    (kept' : other ∈ paths) (apart : other ≠ path) (text : String)
    (files : σ) :
    node? ((MonadFiles.writeText path text : StateM σ _).run files).2 other =
      node? files other

namespace KeepsTexts

variable {σ : Type} [MonadFiles (StateM σ)]
  {node? : σ → String → Option FileNode} {paths : List String}
  (keeps : KeepsTexts node? paths) {path other : String}
  (kept : path ∈ paths)

include keeps kept

section Sparing

variable (kept' : other ∈ paths)

include kept'

/-- Making the directory of a file and those above it changes no file. -/
theorem spares_makeWithin (levels level : Nat) :
    Spares (MonadFiles.makeWithin levels (Path.parent^[level + 1] path) :
      ExceptT Failure (StateM σ) Bool) (node? · other) := by
  induction levels generalizing level with
  | zero => exact spares_pure false
  | succ levels step =>
    have made : Spares (MonadFiles.makeDirectory (Path.parent^[level + 1] path) :
        ExceptT Failure (StateM σ) MakeOutcome) (node? · other) :=
      spares_lift (keeps.makeDirectory kept kept' level)
    rw [MonadFiles.makeWithin]
    split
    · exact spares_pure true
    · refine spares_bind made fun outcome => ?_
      cases outcome with
      | there => exact spares_pure true
      | refused => exact spares_pure false
      | homeless =>
        -- The directory above is made first, and then this one is tried again.
        rw [← Function.iterate_succ_apply' Path.parent]
        refine spares_bind (step (level + 1)) fun held => ?_
        cases held with
        | false => exact spares_pure false
        | true => exact spares_bind made fun _ => spares_pure _

theorem spares_ensureParent :
    Spares (Documents.ensureParent path : ExceptT Failure (StateM σ) Unit)
      (node? · other) := by
  rw [Documents.ensureParent]
  split
  · refine spares_bind (keeps.spares_makeWithin kept kept' _ 0) fun made => ?_
    cases made with
    | false => exact spares_throw _
    | true => exact spares_pure _
  · exact spares_pure _

/-- Writing a document changes no other file. -/
theorem spares_write (apart : other ≠ path) (text : String) :
    Spares (Documents.write path text : ExceptT Failure (StateM σ) Unit)
      (node? · other) := by
  refine spares_bind (keeps.spares_ensureParent kept kept') fun _ =>
    spares_bind (spares_lift (keeps.writeText kept kept' apart text))
      fun done => ?_
  cases done with
  | false => exact spares_throw _
  | true => exact spares_pure _

end Sparing

/-- A document that was written is there to be read. -/
theorem node?_of_write {text : String} {files later : σ}
    (written : Succeeds
      (Documents.write path text : ExceptT Failure (StateM σ) Unit)
      files () later) :
    node? later path = some (.text text) := by
  have held := (keeps.holds kept).text?_of_write written
  rcases Option.bind_eq_some_iff.1 held with ⟨_ | content | _, met, same⟩
  · exact nomatch same
  · rw [met, ← Option.some.inj same]
  · exact nomatch same

theorem succeeds_read {text : String} {files : σ}
    (held : node? files path = some (.text text)) :
    Succeeds (Documents.read path : ExceptT Failure (StateM σ) String)
      files text files :=
  (keeps.holds kept).succeeds_read (by rw [held]; rfl)

theorem succeeds_isPresent (files : σ) :
    Succeeds (MonadFiles.isPresent path :
      ExceptT Failure (StateM σ) Bool) files (node? files path).isSome files :=
  succeeds_lift.2 (keeps.isPresent kept files)

end KeepsTexts

/-! ## The barest place that keeps texts -/

/-- Texts by path.  Every path may be written, and directories are there
without being made. -/
structure TextMap where
  text? : String → Option String

namespace TextMap

/-- Put a text at a path. -/
def put (files : TextMap) (path text : String) : TextMap where
  text? other := if other = path then some text else files.text? other

instance : MonadFiles (StateM TextMap) where
  readText path := return (← get).text? path
  writeText path text := modifyGet fun files => (true, files.put path text)
  makeDirectory _ := return .there
  isPresent path := return ((← get).text? path).isSome

/-- What a path leads to. -/
def node? (files : TextMap) (path : String) : Option FileNode :=
  (files.text? path).map .text

theorem bind_node? (files : TextMap) (path : String) :
    (files.node? path).bind FileNode.text? = files.text? path := by
  rw [node?]
  cases files.text? path <;> rfl

theorem keepsTexts (paths : List String) : KeepsTexts node? paths where
  holds {path} _ :=
    { readText := fun files => congrArg (·, files) (bind_node? files path).symm
      writeText := fun written => by
        cases written
        exact (bind_node? _ path).trans (if_pos rfl) }
  isPresent _ _ := by
    rw [node?, Option.isSome_map]
    rfl
  makeDirectory _ _ _ _ := rfl
  writeText _ _ apart _ _ := congrArg (Option.map _) (if_neg apart)

theorem succeeds_makeDirectories (path : String) (files : TextMap) :
    Succeeds (MonadFiles.makeDirectories path :
      ExceptT Failure (StateM TextMap) Bool) files true files := by
  rw [MonadFiles.makeDirectories, MonadFiles.makeWithin]
  split <;> rfl

/-- Documents can be written at every path. -/
theorem succeeds_write (path text : String) (files : TextMap) :
    Succeeds (Documents.write path text :
      ExceptT Failure (StateM TextMap) Unit) files () (files.put path text) := by
  have held : Succeeds (Documents.ensureParent path :
      ExceptT Failure (StateM TextMap) Unit) files () files := by
    rw [Documents.ensureParent]
    split
    · exact succeeds_bind.2 ⟨true, files, succeeds_makeDirectories _ files, rfl⟩
    · rfl
  exact succeeds_bind.2 ⟨(), files, held, rfl⟩

end TextMap

end ModuleAtlas
