import ModuleAtlas.Proofs.Literal.Acceptance

/-!
# Every spelling is read

The spellings of a literal are derivations of its value: its integers are
numbers that may stand in a literal, its strings use no escape that only the
reader takes, and its parts are no deeper than the literal says.  So every
spelling is read as the value of the literal.
-/

namespace ModuleAtlas.Literal

/-! ## Numbers and strings -/

theorem Digits.begins {value : Nat} {digits : List Char}
    (spelled : Digits value digits) :
    ∃ c tail, digits = c :: tail ∧ c.isDigit = true := by
  cases spelled with
  | mk first => exact ⟨_, _, rfl, first⟩

/-- Without underscores, digits are digits alone. -/
theorem Digits.plain {value : Nat} {digits : List Char}
    (spelled : Digits value digits) :
    digits.filter (· ≠ '_') ≠ [] ∧
      (∀ c ∈ digits.filter (· ≠ '_'), c.isDigit = true) ∧
      Decimal.digitsValue (digits.filter (· ≠ '_')) = value := by
  cases spelled with
  | @mk first more digit digits =>
    have apart : first ≠ '_' := by
      rintro rfl
      exact absurd digit (by decide)
    rw [List.filter_cons_of_pos (by simpa using apart)]
    refine ⟨List.cons_ne_nil _ _, fun c member => ?_, rfl⟩
    rcases List.mem_cons.mp member with rfl | member
    · exact digit
    · rw [List.mem_filter, decide_eq_true_eq] at member
      exact (digits c member.1).resolve_right member.2

theorem Numeral.begins {value : Int} {text : List Char}
    (spelled : Numeral value text) :
    ∃ c tail, text = c :: tail ∧ (c = '-' ∨ c = '+' ∨ c.isDigit = true) := by
  cases spelled with
  | bare digits =>
    rcases digits.begins with ⟨c, tail, rfl, digit⟩
    exact ⟨c, tail, rfl, .inr (.inr digit)⟩
  | plus => exact ⟨_, _, rfl, .inr (.inl rfl)⟩
  | minus => exact ⟨_, _, rfl, .inl rfl⟩

/-- Without underscores, a numeral is an integer. -/
theorem Numeral.isInteger {value : Int} {text : List Char}
    (spelled : Numeral value text) :
    IsInteger value (text.filter (· ≠ '_')) := by
  cases spelled with
  | bare digits =>
    obtain ⟨nonempty, plain, rfl⟩ := digits.plain
    exact .mk .none nonempty plain
  | plus digits =>
    obtain ⟨nonempty, plain, rfl⟩ := digits.plain
    exact .mk .plus nonempty plain
  | minus digits =>
    obtain ⟨nonempty, plain, rfl⟩ := digits.plain
    exact .mk .minus nonempty plain

theorem fitsWord_toInt (value : Int64) : FitsWord value.toInt :=
  ⟨value.le_toInt, value.toInt_lt⟩

theorem Numeral.stands {value : Int64} {text : List Char}
    (numeral : Numeral value.toInt text) :
    NumberStands (.int value.toInt) text := by
  rcases numeral.begins with ⟨c, tail, rfl, starts⟩
  exact .mk starts (.int numeral.isInteger (fitsWord_toInt value))

theorem Quoted.quotation {value : String} {text : List Char}
    (quoted : Quoted value text) (plus : Prop) :
    Quotation plus value text := by
  cases quoted with
  | mk quote stands => exact .mk quote (stands.imp fun _ _ => .strict)

/-! ## Literals -/

/-- The entry with the value that its literal has. -/
def EntrySpelling.field (spelling : EntrySpelling) : Field :=
  ⟨spelling.name, spelling.key, spelling.beforeColon, spelling.behindColon,
    spelling.value.meaning, spelling.text⟩

theorem EntrySpelling.Keyed.field {spelling : EntrySpelling}
    (keyed : spelling.Keyed) (plus : Prop) : spelling.field.Stands plus :=
  ⟨.text (keyed.key.quotation plus), keyed.beforeColon, keyed.behindColon⟩

theorem room_of_deeper {α β : Type} {items : List α} (value : α → β)
    {height : α → Nat} {depth : Nat}
    (deeper : ∀ item ∈ items, height item < depth) :
    items.map value = [] ∨ depth - 1 < depth := by
  refine eq_nil_or (List.forall_mem_map.2 fun item member => ?_)
  exact Nat.sub_one_lt_of_lt (deeper item member)

/-- A spelling of a literal is derived with its value, and with the depth of the
literal. -/
theorem Spelled.derives {tree : Tree} {text : List Char}
    (spelled : Spelled tree text) (plus : Prop) {depth : Nat}
    (shallow : tree.depth ≤ depth) :
    Derives plus depth tree.meaning text := by
  induction spelled generalizing depth with
  | null member => exact .null member
  | true member => exact .true member
  | false member => exact .false member
  | int numeral => exact .number numeral.stands
  | text quoted => exact .text (quoted.quotation plus)
  | @list _ _ items inside brackets _ separated step =>
    have deeper : ∀ item ∈ items, item.1.depth < depth := fun item member =>
      (Tree.depth_lt_itemsDepth (List.mem_map_of_mem member)).trans_le shallow
    let part := fun item : Tree × List Char => (item.1.meaning, item.2)
    have parts : ∀ item ∈ items.map part,
        Derives plus (depth - 1) item.1 item.2 := by
      refine List.forall_mem_map.2 fun item member => ?_
      exact step item member (Nat.le_sub_one_of_lt (deeper item member))
    have apart : Separated ((items.map part).map Prod.snd) inside := by
      rwa [List.map_map]
    have derived :=
      Derives.list brackets (room_of_deeper part deeper) parts apart
    rw [List.map_map] at derived
    rw [Tree.meaning, Tree.itemMeanings_eq_map, List.map_map]
    exact derived
  | @mapping entries inside keyed _ separated step =>
    have deeper : ∀ entry ∈ entries, entry.value.depth < depth :=
      fun entry member => (Tree.depth_lt_entriesDepth
        (List.mem_map_of_mem member)).trans_le shallow
    have fields : ∀ field ∈ entries.map EntrySpelling.field,
        field.Stands plus := by
      refine List.forall_mem_map.2 fun entry member => ?_
      exact (keyed entry member).field plus
    have parts : ∀ field ∈ entries.map EntrySpelling.field,
        Derives plus (depth - 1) field.value field.text := by
      refine List.forall_mem_map.2 fun entry member => ?_
      exact step entry member (Nat.le_sub_one_of_lt (deeper entry member))
    have apart : Separated
        ((entries.map EntrySpelling.field).map Field.chars) inside := by
      rwa [List.map_map]
    refine .mapping (room_of_deeper EntrySpelling.field deeper) fields parts
      apart (Keyed.ascending _) fun name => ?_
    rw [lookupRow_ofList, Tree.entryMeanings_eq_map, List.map_map,
      List.map_map]
    rfl

/-- The reader takes every spelling of a literal. -/
theorem read_wholly {tree : Tree} (shallow : tree.depth ≤ 64)
    {text : List Char} (spelled : Wholly tree text) :
    read text = .ok tree.meaning := by
  cases spelled with
  | mk before spelled behind =>
    have derived := spelled.derives True shallow
    exact read_iff_literally.2 (.mk before derived behind)

/-- A text that spells a literal is read as the value of the literal, in which
a repeated key has its last value. -/
theorem read_spelled {tree : Tree} (shallow : tree.depth ≤ 64)
    {text : List Char} (spelled : Wholly tree text) :
    read text = .ok tree.meaning ∧
    ∀ entries : List (String × Tree), ∃ rows,
      (Tree.mapping entries).meaning = .record rows ∧ Ascending rows ∧
      ∀ name, lookupRow name rows =
        (lookupRow name entries.reverse).map Tree.meaning :=
  ⟨read_wholly shallow spelled, Tree.meaning_mapping⟩

/-- Two entries with one key, and most of what spellings may differ in. -/
def sampleTree : Tree :=
  .mapping [("a", .int (-70)), ("a", .list [.null, .text "A\n'"])]

/-- A list in parentheses with a comma behind its last item. -/
def sampleList : List Char :=
  ['(', 'N', 'o', 'n', 'e', ',', '"', '\\', 'u', '0', '0', '4', '1', '\\', 'n',
    '\'', '"', ',', ')']

def sampleSpelling : List Char :=
  ['#', ',', '\n', '{', '\'', 'a', '\'', ':', '-', '0', '7', '_', '0', ' ', ',',
    '"', '\\', 'a', '"', ':'] ++ sampleList ++ ['}', '#']

theorem wholly_sample : Wholly sampleTree sampleSpelling := by
  have itself : List.Forall₂ (Stands '"') ['a'] [['\\', 'a']] :=
    .cons (.itself (by decide)) .nil
  have escapes : List.Forall₂ (Stands '"') ['A', '\n', '\'']
      [['\\', 'u', '0', '0', '4', '1'], ['\\', 'n'], ['\'']] :=
    .cons (.code rfl (List.all_eq_true.mp (by decide)) (by decide))
      (.cons .newline
      (.cons (.raw (by decide) (by decide) (by decide)) .nil))
  have first : Quoted "a" ['\'', 'a', '\''] := .raw (.inr rfl) (by decide)
  have second : Quoted "a" _ := @Quoted.mk _ "a" _ (.inl rfl) itself
  have string : Quoted "A\n'" _ := @Quoted.mk _ "A\n'" _ (.inl rfl) escapes
  have number : Numeral (-70 : Int64).toInt ['-', '0', '7', '_', '0'] :=
    .minus (@Digits.mk '0' ['7', '_', '0'] rfl
      (List.all_iff_forall_prop.mp (by decide)))
  have items : Separated ["None".toList,
      ['"', '\\', 'u', '0', '0', '4', '1', '\\', 'n', '\'', '"']] _ :=
    .more .none .none (.more .none .none (.none .none))
  have list : Spelled (.list [.null, .text "A\n'"]) sampleList :=
    @Spelled.list '(' ')' [(.null, _), (.text "A\n'", _)] _ (by decide)
      (List.forall_mem_cons.mpr ⟨.null (by decide),
        List.forall_mem_singleton.mpr (.text string)⟩) items
  let spellings : List EntrySpelling :=
    [⟨"a", ['\'', 'a', '\''], [], [], .int (-70), ['-', '0', '7', '_', '0']⟩,
      ⟨"a", ['"', '\\', 'a', '"'], [], [], .list [.null, .text "A\n'"],
        sampleList⟩]
  have entries : Separated (spellings.map EntrySpelling.chars) _ :=
    .more .none (.blank (c := ' ') rfl .none) (.last .none .none)
  have mapping : Spelled sampleTree _ :=
    @Spelled.mapping spellings _
      (List.forall_mem_cons.mpr ⟨⟨first, .none, .none⟩,
        List.forall_mem_singleton.mpr ⟨second, .none, .none⟩⟩)
      (List.forall_mem_cons.mpr ⟨.int number,
        List.forall_mem_singleton.mpr list⟩) entries
  have comment : Space ['#', ',', '\n'] :=
    @Space.comment [','] [] (by decide) .none
  exact .mk comment mapping (@Gap.lastComment [] (by decide))

theorem read_spelled_sample :
    sampleTree.depth ≤ 64 ∧ Wholly sampleTree sampleSpelling ∧
    read sampleSpelling =
      .ok (.record [("a", .list [.null, .text "A\n'"])]) := by
  have shallow : sampleTree.depth ≤ 64 := by decide
  exact ⟨shallow, wholly_sample, (read_spelled shallow wholly_sample).1⟩

end ModuleAtlas.Literal
