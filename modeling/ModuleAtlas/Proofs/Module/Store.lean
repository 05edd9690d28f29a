import ModuleAtlas.Module.Store
import ModuleAtlas.Proofs.Files.Kept
import ModuleAtlas.Proofs.Module.Persistence

/-!
# A store gives back what was last put into it

The three files of a store have paths of their own, so that writing one of them
leaves the others.  Of any number of writes to a file the last one counts, and
what it wrote is read back when the tree is not nested too deeply for its text
to be read at all.
-/

namespace ModuleAtlas

/-! ## Paths of a store -/

/-- Different relative paths below one directory are different paths. -/
theorem Path.join_inj {base first second : String}
    (relative : Path.isAbsolute first = false)
    (relative' : Path.isAbsolute second = false) :
    Path.join base first = Path.join base second ↔ first = second := by
  simp only [Path.join, relative, relative', Bool.false_or]
  split
  · rfl
  · split <;> exact String.append_right_inj _

namespace ModuleStore

variable (store : ModuleStore)

/-- The paths of the files of a store. -/
def paths : List String :=
  [store.firstTreePath, store.workingTreePath, store.recordPath]

theorem firstTreePath_mem : store.firstTreePath ∈ store.paths :=
  List.mem_cons_self

theorem workingTreePath_mem : store.workingTreePath ∈ store.paths :=
  List.mem_cons_of_mem _ List.mem_cons_self

theorem recordPath_mem : store.recordPath ∈ store.paths :=
  List.mem_cons_of_mem _ (List.mem_cons_of_mem _ List.mem_cons_self)

/-- A file tree keeps the files of a store, unless the path of the store leads
upwards. -/
theorem keepsTexts_fileTree (inside : ".." ∉ Path.segments store.directory) :
    KeepsTexts FileTree.node? store.paths := by
  have named : ∀ name ∈ [firstTreeName, workingTreeName, recordName],
      Path.isName name = true ∧ '/' ∉ name.toList := by decide
  exact FileTree.keepsTexts inside named

theorem firstTreePath_ne_workingTreePath :
    store.firstTreePath ≠ store.workingTreePath :=
  (Path.join_inj (by decide) (by decide)).not.2 (by decide)

theorem firstTreePath_ne_recordPath :
    store.firstTreePath ≠ store.recordPath :=
  (Path.join_inj (by decide) (by decide)).not.2 (by decide)

theorem workingTreePath_ne_recordPath :
    store.workingTreePath ≠ store.recordPath :=
  (Path.join_inj (by decide) (by decide)).not.2 (by decide)

end ModuleStore

/-! ## Calls of a store -/

/-- A call that writes to a store. -/
inductive StoreCall where
  | checkpoint (tree : ModuleTree)
  | saveFinal (tree : ModuleTree)
  | saveRecord (record : RunRecord)

namespace StoreCall

def run {m : Type → Type} [Monad m] [MonadFiles m] (store : ModuleStore) :
    StoreCall → ExceptT Failure m Unit
  | checkpoint tree => store.checkpoint tree
  | saveFinal tree => store.saveFinal tree
  | saveRecord record => store.saveRecord record

/-- The tree that a call makes the clustering result. -/
def firstTree? : StoreCall → Option ModuleTree
  | checkpoint tree | saveFinal tree => some tree
  | saveRecord _ => none

/-- The tree that a call makes the working copy. -/
def workingTree? : StoreCall → Option ModuleTree
  | saveFinal tree => some tree
  | checkpoint _ | saveRecord _ => none

theorem firstTree?_of_workingTree? {call : StoreCall} {tree : ModuleTree}
    (put : call.workingTree? = some tree) : call.firstTree? = some tree := by
  cases call with
  | saveFinal => exact put
  | checkpoint | saveRecord => exact nomatch put

end StoreCall

namespace ModuleTree

/-- No path of a module has more names than so many. -/
def NestedWithin (tree : ModuleTree) (depth : Nat) : Prop :=
  ∀ entry ∈ tree.modules, entry.path.length ≤ depth

theorem nestedWithin_iff_height {tree : ModuleTree} {depth : Nat} :
    tree.NestedWithin depth ↔ tree.toStored.height ≤ depth := by
  rw [toStored, Forest.height_map, Forest.height_le_iff []]
  simp [NestedWithin, modules]

/-- The text of a tree is read as a tree of the same stored form. -/
theorem ofText?_toText {tree : ModuleTree} (nested : tree.NestedWithin 63) :
    ofText? tree.toText = some (ofStored tree.toStored) := by
  rw [ofText?, toText, StoredTree.ofText?_pretty tree.toStored_ordered,
    if_pos (nestedWithin_iff_height.1 nested), Option.map_some]

end ModuleTree

namespace KeepsTexts

variable {σ : Type} [MonadFiles (StateM σ)]
  {node? : σ → String → Option FileNode} {store : ModuleStore}
  (keeps : KeepsTexts node? store.paths)

include keeps

/-! ## What a call changes -/

theorem spares_checkpoint {path : String} (tree : ModuleTree)
    (kept : path ∈ store.paths) (apart : path ≠ store.firstTreePath) :
    Spares (store.checkpoint tree : ExceptT Failure (StateM σ) Unit)
      (node? · path) :=
  keeps.spares_write store.firstTreePath_mem kept apart _

theorem spares_saveRecord {path : String} (record : RunRecord)
    (kept : path ∈ store.paths) (apart : path ≠ store.recordPath) :
    Spares (store.saveRecord record : ExceptT Failure (StateM σ) Unit)
      (node? · path) :=
  keeps.spares_write store.recordPath_mem kept apart _

variable {call : StoreCall} {files later : σ}

theorem firstTree_of_run
    (wrote : Succeeds (call.run store : ExceptT Failure (StateM σ) Unit)
      files () later) :
    node? later store.firstTreePath =
      (call.firstTree?.map fun tree => .text tree.toText).or
        (node? files store.firstTreePath) := by
  have kept := store.firstTreePath_mem
  cases call with
  | checkpoint tree => exact keeps.node?_of_write kept wrote
  | saveFinal tree =>
    -- The working copy is written after the result, at another path.
    rcases succeeds_bind.1 wrote with ⟨_, inner, first, second⟩
    have spared := keeps.spares_write store.workingTreePath_mem kept
      store.firstTreePath_ne_workingTreePath tree.toText
    exact (spared.of_succeeds second).trans (keeps.node?_of_write kept first)
  | saveRecord record =>
    exact (keeps.spares_saveRecord record kept
      store.firstTreePath_ne_recordPath).of_succeeds wrote

theorem workingTree_of_run
    (wrote : Succeeds (call.run store : ExceptT Failure (StateM σ) Unit)
      files () later) :
    node? later store.workingTreePath =
      (call.workingTree?.map fun tree => .text tree.toText).or
        (node? files store.workingTreePath) := by
  have kept := store.workingTreePath_mem
  cases call with
  | checkpoint tree =>
    exact (keeps.spares_checkpoint tree kept
      store.firstTreePath_ne_workingTreePath.symm).of_succeeds wrote
  | saveFinal tree =>
    rcases succeeds_bind.1 wrote with ⟨_, inner, -, second⟩
    exact keeps.node?_of_write kept second
  | saveRecord record =>
    exact (keeps.spares_saveRecord record kept
      store.workingTreePath_ne_recordPath).of_succeeds wrote

end KeepsTexts

/-! ## Many calls -/

/-- Where each call either puts something or leaves what is there, the last
thing put stands after many calls. -/
theorem last_of_forM {ε σ α τ : Type} {act : α → ExceptT ε (StateM σ) Unit}
    {view : σ → Option τ} {given : α → Option τ}
    (step : ∀ {call before after}, Succeeds (act call) before () after →
      view after = (given call).or (view before))
    {calls : List α} {start finish : σ}
    (ran : Succeeds (calls.forM act) start () finish) :
    view finish = (calls.filterMap given).getLast?.or (view start) := by
  induction calls generalizing start with
  | nil =>
    rcases succeeds_pure.1 ran with ⟨-, rfl⟩
    rfl
  | cons call rest further =>
    rcases succeeds_bind.1 ran with ⟨_, inner, first, others⟩
    rw [further others, step first, ← Option.or_assoc]
    cases put : given call with
    | none => rw [List.filterMap_cons_none put, Option.or_none]
    | some value =>
      rw [List.filterMap_cons_some put, List.getLast?_cons]
      cases (rest.filterMap given).getLast? <;> rfl

/-! ## Loading -/

/-- A load gives a tree of the stored form that is asked for, or none where
none is, and changes nothing. -/
def Recalls {σ : Type} (load : ExceptT Failure (StateM σ) (Option ModuleTree))
    (files : σ) (tree? : Option ModuleTree) : Prop :=
  ∃ loaded?, Succeeds load files loaded? files ∧
    loaded?.map ModuleTree.toStored = tree?.map ModuleTree.toStored

namespace KeepsTexts

variable {σ : Type} [MonadFiles (StateM σ)]
  {node? : σ → String → Option FileNode} {store : ModuleStore}
  (keeps : KeepsTexts node? store.paths)

include keeps

section Calls

variable {path : String} (kept : path ∈ store.paths)

include kept

/-- The text of a tree at a path is loaded as that tree. -/
theorem recalls_loadFrom {files : σ} {tree? : Option ModuleTree}
    (held : node? files path = tree?.map fun tree => .text tree.toText)
    (nested : ∀ tree, tree? = some tree → tree.NestedWithin 63) :
    Recalls (ModuleStore.loadFrom path) files tree? := by
  have present := keeps.succeeds_isPresent kept files
  rw [held] at present
  cases tree? with
  | none => exact ⟨none, succeeds_bind.2 ⟨_, _, present, rfl⟩, rfl⟩
  | some tree =>
    refine ⟨some (.ofStored tree.toStored),
      succeeds_bind.2 ⟨_, _, present, succeeds_bind.2
        ⟨_, _, keeps.succeeds_read kept held, ?_⟩⟩, ?_⟩
    · rw [ModuleTree.ofText?_toText (nested tree rfl)]
      rfl
    · rw [Option.map_some, Option.map_some, tree.toStored_ofStored_toStored]

/-- The last tree that calls put at a path is loaded from there. -/
theorem recalls_of_calls {calls : List StoreCall} {start later : σ}
    {given : StoreCall → Option ModuleTree}
    (step : ∀ {call before after},
      Succeeds (call.run store : ExceptT Failure (StateM σ) Unit)
          before () after →
        node? after path =
          ((given call).map fun tree => .text tree.toText).or
            (node? before path))
    (nested : ∀ call ∈ calls, ∀ tree, given call = some tree →
      tree.NestedWithin 63)
    (wrote : Succeeds (calls.forM (StoreCall.run store) :
      ExceptT Failure (StateM σ) Unit) start () later)
    (vacant : calls.filterMap given = [] → node? start path = none) :
    Recalls (ModuleStore.loadFrom path) later
      (calls.filterMap given).getLast? := by
  have held := last_of_forM step wrote
  rw [← List.map_filterMap, List.getLast?_map] at held
  refine keeps.recalls_loadFrom kept ?_ fun tree last => ?_
  · cases last : (calls.filterMap given).getLast? with
    | none =>
      rw [held, last, vacant (List.getLast?_eq_none_iff.1 last)]
      rfl
    | some tree =>
      rw [held, last]
      rfl
  · rcases List.mem_filterMap.1 (List.mem_of_getLast? last) with
      ⟨call, member, put⟩
    exact nested call member tree put

end Calls

/-- After calls that end well, each tree file is loaded as the last tree that
was put there, and as none when nothing ever was.  No checkpoint touches the
working copy or the record, and no record touches a tree, however they end. -/
theorem recalls_last :
    (∀ (calls : List StoreCall) (start later : σ),
      (∀ call ∈ calls, ∀ tree, call.firstTree? = some tree →
        tree.NestedWithin 63) →
      Succeeds (calls.forM (StoreCall.run store) :
        ExceptT Failure (StateM σ) Unit) start () later →
      ((calls.filterMap StoreCall.firstTree? = [] →
          node? start store.firstTreePath = none) →
        Recalls store.loadFirst later
          (calls.filterMap StoreCall.firstTree?).getLast?) ∧
      ((calls.filterMap StoreCall.workingTree? = [] →
          node? start store.workingTreePath = none) →
        Recalls store.loadWorking later
          (calls.filterMap StoreCall.workingTree?).getLast?)) ∧
    (∀ tree : ModuleTree,
      Spares (store.checkpoint tree : ExceptT Failure (StateM σ) Unit)
          (node? · store.workingTreePath) ∧
        Spares (store.checkpoint tree : ExceptT Failure (StateM σ) Unit)
          (node? · store.recordPath)) ∧
    ∀ record : RunRecord,
      Spares (store.saveRecord record : ExceptT Failure (StateM σ) Unit)
          (node? · store.firstTreePath) ∧
        Spares (store.saveRecord record : ExceptT Failure (StateM σ) Unit)
          (node? · store.workingTreePath) := by
  have first := store.firstTreePath_mem
  have working := store.workingTreePath_mem
  refine ⟨fun calls start later nested wrote => ⟨?_, ?_⟩,
    fun tree => ⟨?_, ?_⟩, fun record => ⟨?_, ?_⟩⟩
  · exact keeps.recalls_of_calls first keeps.firstTree_of_run nested wrote
  · exact keeps.recalls_of_calls working keeps.workingTree_of_run
      (fun call member tree put =>
        nested call member tree (StoreCall.firstTree?_of_workingTree? put))
      wrote
  · exact keeps.spares_checkpoint tree working
      store.firstTreePath_ne_workingTreePath.symm
  · exact keeps.spares_checkpoint tree store.recordPath_mem
      store.firstTreePath_ne_recordPath.symm
  · exact keeps.spares_saveRecord record first store.firstTreePath_ne_recordPath
  · exact keeps.spares_saveRecord record working
      store.workingTreePath_ne_recordPath

end KeepsTexts

/-- Every call of a store ends well where every path may be written. -/
theorem TextMap.exists_succeeds_forM (store : ModuleStore)
    (calls : List StoreCall) (files : TextMap) :
    ∃ later, Succeeds (calls.forM (StoreCall.run store) :
      ExceptT Failure (StateM TextMap) Unit) files () later := by
  induction calls generalizing files with
  | nil => exact ⟨files, rfl⟩
  | cons call rest step =>
    have here : ∃ inner, Succeeds (call.run store :
        ExceptT Failure (StateM TextMap) Unit) files () inner := by
      cases call with
      | checkpoint tree => exact ⟨_, succeeds_write _ _ files⟩
      | saveFinal tree =>
        exact ⟨_, succeeds_bind.2
          ⟨(), _, succeeds_write _ _ files, succeeds_write _ _ _⟩⟩
      | saveRecord record => exact ⟨_, succeeds_write _ _ files⟩
    rcases here with ⟨inner, ended⟩
    rcases step inner with ⟨later, others⟩
    exact ⟨later, succeeds_bind.2 ⟨(), inner, ended, others⟩⟩

namespace ModuleStore

namespace Sample

/-- A tree of so many modules, each the only one below the one before it. -/
def nest (depth : Nat) : ModuleTree :=
  .ofStored (ModuleTable.Sample.chain depth)

theorem nestedWithin_nest (depth : Nat) : (nest depth).NestedWithin depth := by
  rw [ModuleTree.nestedWithin_iff_height, nest, ModuleTree.toStored_ofStored
    (ModuleTable.Sample.ordered_chain depth), Forest.height_map,
    ModuleTable.Sample.height_chain]

/-- A result that is saved, and another one that is not final. -/
def calls (depth : Nat) : List StoreCall :=
  [.saveFinal (nest 1), .checkpoint (nest depth)]

theorem nestedWithin_calls {depth : Nat} (fits : depth ≤ 63) :
    ∀ call ∈ calls depth, ∀ tree, call.firstTree? = some tree →
      tree.NestedWithin 63 := by
  intro call member tree put
  rcases List.mem_pair.1 member with rfl | rfl
  · obtain rfl := Option.some.inj put
    exact fun entry inside =>
      (nestedWithin_nest 1 entry inside).trans (by decide)
  · obtain rfl := Option.some.inj put
    exact fun entry inside => (nestedWithin_nest depth entry inside).trans fits

theorem last_firstTree (depth : Nat) :
    ((calls depth).filterMap StoreCall.firstTree?).getLast? =
      some (nest depth) := rfl

theorem last_workingTree (depth : Nat) :
    ((calls depth).filterMap StoreCall.workingTree?).getLast? =
      some (nest 1) := rfl

/-- The calls that write files of two trees, two directories below where they
start. -/
def filed : ExceptT Failure (StateM FileTree) Unit :=
  (calls 2).forM (StoreCall.run ⟨"out/docs"⟩)

theorem filed_succeeds : (filed.run.run .nil).1 = .ok () := by
  decide +kernel

end Sample

/-- The clustering result is the later tree, the working copy the earlier one,
among texts by path and in a file tree. -/
theorem recalls_last_nest :
    (∃ later, Succeeds ((Sample.calls 63).forM (StoreCall.run ⟨"docs"⟩) :
        ExceptT Failure (StateM TextMap) Unit) ⟨fun _ => none⟩ () later ∧
      Recalls (loadFirst ⟨"docs"⟩) later (some (Sample.nest 63)) ∧
      Recalls (loadWorking ⟨"docs"⟩) later (some (Sample.nest 1))) ∧
    ∃ later, Succeeds Sample.filed .nil () later ∧
      Recalls (loadFirst ⟨"out/docs"⟩) later (some (Sample.nest 2)) ∧
      Recalls (loadWorking ⟨"out/docs"⟩) later (some (Sample.nest 1)) := by
  constructor
  · rcases TextMap.exists_succeeds_forM ⟨"docs"⟩ (Sample.calls 63)
      ⟨fun _ => none⟩ with ⟨later, wrote⟩
    have keeps := TextMap.keepsTexts (paths ⟨"docs"⟩)
    have recalled := keeps.recalls_last.1 (Sample.calls 63) ⟨fun _ => none⟩
      later (Sample.nestedWithin_calls (le_refl 63)) wrote
    rw [Sample.last_firstTree, Sample.last_workingTree] at recalled
    exact ⟨later, wrote, recalled.1 nofun, recalled.2 nofun⟩
  · have ended := Sample.filed_succeeds
    rcases ran : Sample.filed.run.run .nil with ⟨outcome, later⟩
    rw [ran] at ended
    obtain rfl : outcome = .ok () := ended
    have keeps := keepsTexts_fileTree ⟨"out/docs"⟩ (by decide)
    have recalled := keeps.recalls_last.1 (Sample.calls 2) .nil later
      (Sample.nestedWithin_calls (by decide)) ran
    rw [Sample.last_firstTree, Sample.last_workingTree] at recalled
    exact ⟨later, ran, recalled.1 nofun, recalled.2 nofun⟩

end ModuleStore

end ModuleAtlas
