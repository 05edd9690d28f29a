import ModuleAtlas.Proofs.Json.Decoding
import ModuleAtlas.Proofs.Module.Restoring
import ModuleAtlas.Proofs.Module.Table

/-!
# The text of a module tree is read back

Each level of modules takes two levels of containers, one for the record of
the modules and one for the record of a module, whose components and children
are containers again.  So the limit of the reader is a limit on the length of
paths.  Within it, whatever strings the names, descriptions and components
are, the text of a tree is read as the tree that was stored; beyond it, the
text is not read at all.
-/

namespace ModuleAtlas

universe u v

namespace Forest

variable {α : Type u} {β : Type v}

/-! ## Height -/

/-- The length of the longest path. -/
def height : Forest α → Nat
  | nil => 0
  | node _ _ children rest => max (children.height + 1) rest.height

theorem height_map (change : α → β) (forest : Forest α) :
    (forest.map change).height = forest.height := by
  induction forest with
  | nil => rfl
  | node name value children rest below beside =>
    rw [map, height, height, below, beside]

theorem height_le_iff {forest : Forest α} {depth : Nat}
    (above : List String) :
    forest.height ≤ depth ↔ ∀ entry ∈ preorder above forest,
      entry.path.length ≤ above.length + depth := by
  induction forest generalizing above depth with
  | nil => simp [height, preorder]
  | node name value children rest below beside =>
    have inner : children.height + 1 ≤ depth ↔
        (above ++ [name]).length ≤ above.length + depth ∧
          ∀ entry ∈ preorder (above ++ [name]) children,
            entry.path.length ≤ above.length + depth := by
      cases depth with
      | zero => simp
      | succ depth =>
        rw [Nat.add_le_add_iff_right, below (above ++ [name]),
          List.length_append, List.length_singleton, Nat.add_assoc,
          Nat.add_comm 1 depth]
        simp
    rw [height, Nat.max_le, inner, beside above, preorder,
      List.forall_mem_cons, List.forall_mem_append, and_assoc]
    rfl

end Forest

open Forest Json

namespace StoredTree

/-! ## Reading a level -/

/-- Read a module, with so many levels of containers inside it, and put it on
a level. -/
def readModule (levels : Nat) (level : StoredTree)
    (field : List Piece × Written) : Option StoredTree := do
  let name ← pieceText? field.1
  let fields ← Fields.decode ["description", "components", "children"]
    (levels + 1) field.2
  let description ← fields.optional "description" "" Decoder.text
  let components ← fields.optional "components" [] Decoder.text.list
  let children ← match fields.get? "children" with
    | none => some .nil
    | some written => decode levels written
  some (level.insert name ⟨description, components⟩ children)

theorem decode_record (levels : Nat) (fields : List (List Piece × Written)) :
    decode (levels + 2) (.record fields) =
      fields.foldlM (readModule levels) .nil := rfl

/-- A printed module is read when what is below it is. -/
theorem readModule_document (levels : Nat) (level : StoredTree)
    (name : String) (value : StoredModule) (children : StoredTree) :
    readModule (levels + 1) level (escapedPieces name,
        document (.record [("description", .text value.description),
          ("components", .ofTexts value.components),
          ("children", children.toJson)])) =
      (decode (levels + 1) (document children.toJson)).map
        (level.insert name value) := by
  have found : Fields.decode ["description", "components", "children"]
      (levels + 2)
      (document (.record [("description", .text value.description),
        ("components", .ofTexts value.components),
        ("children", children.toJson)])) =
      some ⟨[("description", some (document (.text value.description))),
        ("components", some (document (.ofTexts value.components))),
        ("children", some (document children.toJson))], false,
        levels + 1⟩ :=
    Fields.decode_document (levels + 1) (by simp)
  rw [readModule, pieceText?_escaped, found]
  simp only [Option.bind_eq_bind, Option.bind_some, Fields.optional,
    Fields.get?, lookupRow, String.reduceEq, if_true, if_false,
    Option.join_some, text_document, texts_document]
  cases decode (levels + 1) (document children.toJson) <;> rfl

/-! ## Reading a printed level -/

/-- What is stored as a level is read as one when its modules are. -/
theorem decode_of_foldlM {tree : StoredTree}
    (folded : ∀ depth,
      (documentFields tree.toFields).foldlM (readModule (2 * depth + 1)) .nil =
        if tree.height ≤ depth + 1 then some tree else none)
    (depth : Nat) :
    decode (2 * depth + 1) (document tree.toJson) =
      if tree.height ≤ depth then some tree else none := by
  cases depth with
  | zero =>
    cases tree with
    | nil => rfl
    | node name value children rest =>
      rw [if_neg (by simp [height])]
      rfl
  | succ depth =>
    rw [Nat.mul_add, Nat.add_right_comm, toJson, document, decode_record,
      folded]

/-- The modules of a printed level are read one after another as long as
there are levels of containers for what is below them. -/
theorem foldlM_readModule {todo done : StoredTree} (ordered : todo.Ordered)
    (precedes : done.Precedes todo) (depth : Nat) :
    (documentFields todo.toFields).foldlM (readModule (2 * depth + 1)) done =
      if todo.height ≤ depth + 1 then some (done.append todo) else none := by
  induction todo generalizing done depth with
  | nil => simp [toFields, height]
  | node name value children rest below beside =>
    have inner := decode_of_foldlM
      (below ordered.2.1 (nil_precedes children)) depth
    have others := beside ordered.2.2
      (precedes.next ordered value children) depth
    rw [toFields, documentFields, List.foldlM_cons, ← toJson,
      readModule_document, inner, height]
    by_cases deep : children.height ≤ depth
    · rw [if_pos deep, Option.map_some, precedes.insert]
      show List.foldlM _ (done.append _) _ = _
      rw [others, append_assoc]
      simp [deep, append]
    · rw [if_neg deep, if_neg (by omega)]
      rfl

/-- A printed stored form is read when it is not too high for the levels of
containers that are allowed. -/
theorem decode_document {tree : StoredTree} (ordered : tree.Ordered)
    (depth : Nat) :
    decode (2 * depth + 1) (document tree.toJson) =
      if tree.height ≤ depth then some tree else none :=
  decode_of_foldlM (foldlM_readModule ordered (nil_precedes tree)) depth

/-- There are no numbers in a stored form. -/
theorem numbers_toJson (tree : StoredTree) : numbers tree.toJson = [] := by
  induction tree with
  | nil => rfl
  | node name value children rest below beside =>
    rw [toJson, numbers, fieldNumbers_eq_flatMap] at below beside ⊢
    rw [toFields, List.flatMap_cons, beside]
    simp [numbers, ofTexts, below]

/-- The text of a stored form is read up to the height that fits the levels
of containers of a document. -/
theorem ofText?_pretty {tree : StoredTree} (ordered : tree.Ordered) :
    ofText? tree.toJson.pretty =
      if tree.height ≤ 63 then some tree else none := by
  have read : Written.ofText? tree.toJson.pretty =
      some (document tree.toJson) := by
    apply Json.ofText?_pretty
    rw [numbers_toJson]
    simp
  rw [ofText?, decodeText?, read, Option.bind_some]
  exact decode_document ordered 63

end StoredTree

namespace ModuleTable

/-! ## Tables of modules -/

/-- No full path of a module has more names than so many. -/
def NestedWithin (table : ModuleTable) (depth : Nat) : Prop :=
  ∀ slot ∈ table.slotsInUse, ∀ entry, table.get? slot = some entry →
    entry.path.length ≤ depth

instance (table : ModuleTable) (depth : Nat) :
    Decidable (table.NestedWithin depth) :=
  inferInstanceAs (Decidable (∀ slot ∈ table.slotsInUse,
    ∀ entry ∈ table.get? slot, entry.path.length ≤ depth))

example : Sample.grown.NestedWithin 2 ∧ ¬ Sample.grown.NestedWithin 1 := by
  decide

theorem nestedWithin_iff_height {table : ModuleTable} {tree : ModuleTree}
    (laid : LaysOut table tree) (sound : tree.Sound) {depth : Nat} :
    table.NestedWithin depth ↔ tree.toStored.height ≤ depth := by
  rw [ModuleTree.toStored, height_map, height_le_iff [], NestedWithin,
    laid.slotsInUse sound]
  simp only [List.mem_map, forall_exists_index, and_imp,
    forall_apply_eq_imp_iff₂, ModuleTree.modules, List.length_nil,
    Nat.zero_add]
  refine forall₂_congr fun entry member => ?_
  rcases laid.held_of_find? (ModuleTree.mem_modules.1 member) with
    ⟨held, stands, shows⟩
  simp [stands, shows.path]

theorem nestedWithin_ofStored {stored : StoredTree}
    (ordered : stored.Ordered) {depth : Nat} :
    (ofStored stored).NestedWithin depth ↔ stored.height ≤ depth := by
  rcases LaysOut.ofStored stored with ⟨laid, sound⟩
  rw [nestedWithin_iff_height laid sound,
    ModuleTree.toStored_ofStored ordered, height_map]

/-- What is restored from the stored form of a table has the same stored
form. -/
theorem toStored_ofStored_toStored {table : ModuleTable}
    (reached : Reached table) :
    (ofStored table.toStored).toStored = table.toStored := by
  rcases reached.exists_tree with ⟨tree, laid, sound⟩
  rcases LaysOut.ofStored table.toStored with ⟨laid', sound'⟩
  rw [laid'.toStored sound', laid.toStored sound,
    ModuleTree.toStored_ofStored_toStored]

/-- The text of a table is read when no full path has more than 63 names, and
only then.  What is read has the same stored form, and the same text. -/
theorem toText_read_back {table : ModuleTable} (reached : Reached table) :
    ((ofText? table.toText).isSome = true ↔ table.NestedWithin 63) ∧
      ∀ loaded, ofText? table.toText = some loaded →
        loaded.toStored = table.toStored ∧ loaded.toText = table.toText := by
  rcases reached.exists_tree with ⟨tree, laid, sound⟩
  have same := laid.toStored sound
  have ordered : table.toStored.Ordered := same ▸ tree.toStored_ordered
  have read : StoredTree.ofText? table.toText =
      if table.toStored.height ≤ 63 then some table.toStored else none :=
    StoredTree.ofText?_pretty ordered
  constructor
  · rw [nestedWithin_iff_height laid sound, ← same, ofText?, read,
      Option.isSome_map]
    simp
  · intro loaded met
    rw [ofText?, read, Option.map_eq_some_iff] at met
    rcases met with ⟨stored, met, rfl⟩
    rcases Option.ite_none_right_eq_some.1 met with ⟨_, ⟨⟩⟩
    have restored := toStored_ofStored_toStored reached
    exact ⟨restored, by rw [toText, restored, toText]⟩

namespace Sample

/-- A chain of modules, each the only one below the one before it. -/
def chain : Nat → StoredTree
  | 0 => .nil
  | depth + 1 => .node "\"\n" ⟨"\u0001", ["b"]⟩ (chain depth) .nil

theorem ordered_chain (depth : Nat) : (chain depth).Ordered := by
  induction depth with
  | zero => trivial
  | succ depth step =>
    exact ⟨fun _ member => absurd member List.not_mem_nil, step, trivial⟩

theorem height_chain (depth : Nat) : (chain depth).height = depth := by
  induction depth with
  | zero => rfl
  | succ depth step => simp [chain, height, step]

end Sample

/-- A chain is read back at the limit and refused beyond it. -/
theorem toText_read_back_chain :
    (∃ loaded, ofText? (ofStored (Sample.chain 63)).toText = some loaded ∧
        loaded.toText = (ofStored (Sample.chain 63)).toText) ∧
      ofText? (ofStored (Sample.chain 64)).toText = none := by
  have nested : ∀ depth,
      (ofStored (Sample.chain depth)).NestedWithin 63 ↔ depth ≤ 63 := by
    intro depth
    rw [nestedWithin_ofStored (Sample.ordered_chain depth),
      Sample.height_chain]
  have kept := toText_read_back (.restored (Sample.chain 63))
  have lost := toText_read_back (.restored (Sample.chain 64))
  rw [nested] at kept lost
  obtain ⟨loaded, met⟩ := Option.isSome_iff_exists.1 (kept.1.2 (by decide))
  exact ⟨⟨loaded, met, (kept.2 loaded met).2⟩,
    Option.not_isSome_iff_eq_none.1 (mt lost.1.1 (by decide))⟩

end ModuleTable

end ModuleAtlas
