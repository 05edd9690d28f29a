import ModuleAtlas.Proofs.Literal.Completeness
import ModuleAtlas.Proofs.Text.Search
import ModuleAtlas.Reply

/-!
# Written replies

A reply is written as a literal: a mapping from names to mappings with a
description, a path and components.  The literal stands between the markers,
alone or on the lines of a code fence.  Prose surrounds the markers.  Nothing of
the frame gets in the way of the literal, so the reply proposes the groups that
were written, in ascending order of their names.
-/

namespace ModuleAtlas

open Literal (Tree)

/-- A group as a reply proposes it: texts are trimmed, and blank ones left
out. -/
def Group.cleaned (group : Group) : Group where
  name := group.name
  description := group.description
  path := (group.path.map Text.trim).filter (· ≠ "")
  components := (group.components.map Text.trim).filter (· ≠ "")

namespace Literal

/-! ## Literals on lines -/

theorem gap_of_blank {text : List Char}
    (blank : ∀ c ∈ text, Text.isBlank c = true) : Gap text [] := by
  induction text with
  | nil => exact .stop []
  | cons c text step =>
    rw [List.forall_mem_cons] at blank
    exact .blank blank.1 (step blank.2)

/-- What is cut off at the end of a last gap leaves a gap. -/
theorem Gap.of_prefix {text kept rest : List Char} (gap : Gap text rest)
    (last : rest = []) (start : kept <+: text) : Gap kept [] := by
  induction gap generalizing kept with
  | stop =>
    obtain rfl := List.prefix_nil.mp (last ▸ start)
    exact .stop []
  | blank blank _ step =>
    rcases List.prefix_cons_iff.mp start with rfl | ⟨kept, rfl, within⟩
    · exact .stop []
    · exact .blank blank (step last within)
  | @comment line _ _ inside _ step =>
    rcases List.prefix_cons_iff.mp start with rfl | ⟨kept, rfl, within⟩
    · exact .stop []
    rcases List.prefix_or_prefix_of_prefix within (List.prefix_append line _)
      with part | ⟨behind, rfl⟩
    · exact .lastComment fun newline => inside (part.subset newline)
    rw [List.prefix_append_right_inj] at within
    rcases List.prefix_cons_iff.mp within with rfl | ⟨kept, rfl, further⟩
    · exact .lastComment (by rwa [List.append_nil])
    · exact .comment inside (step last further)
  | lastComment inside =>
    rcases List.prefix_cons_iff.mp start with rfl | ⟨kept, rfl, within⟩
    · exact .stop []
    · exact .lastComment fun newline => inside (within.subset newline)

/-- A line may end behind a last gap, even where a comment does. -/
theorem Gap.line {text blanks rest : List Char} (gap : Gap text rest)
    (last : rest = []) (blank : ∀ c ∈ blanks, Text.isBlank c = true) :
    Gap (text ++ '\n' :: blanks) [] := by
  induction gap with
  | stop =>
    rw [last]
    exact .blank rfl (gap_of_blank blank)
  | blank first _ step => exact .blank first (step last)
  | comment inside _ step =>
    rw [List.cons_append, List.append_assoc]
    exact .comment inside (step last)
  | lastComment inside => exact .comment inside (gap_of_blank blank)

/-- In front of a visible character, trimming leaves a space. -/
theorem Space.trimmed {space : List Char} (spaced : Space space) {c : Char}
    (visible : Text.isBlank c = false) (rest : List Char) :
    ∃ kept, Space kept ∧
      (space ++ c :: rest).dropWhile Text.isBlank = kept ++ c :: rest := by
  induction spaced with
  | none => exact ⟨[], .none, List.dropWhile_cons_of_neg (by simp [visible])⟩
  | blank blank _ step =>
    rw [List.cons_append, List.dropWhile_cons_of_pos blank]
    exact step
  | comment inside spaced =>
    have apart : ¬ Text.isBlank '#' = true := by decide
    exact ⟨_, .comment inside spaced, List.dropWhile_cons_of_neg apart⟩

theorem Spelled.braces {entries : List (String × Tree)} {text : List Char}
    (spelled : Spelled (.mapping entries) text) :
    ∃ inside, text = '{' :: (inside ++ ['}']) := by
  cases spelled with
  | mapping => exact ⟨_, rfl⟩

namespace Wholly

theorem line {tree : Tree} {text blanks : List Char}
    (spelled : Wholly tree text)
    (blank : ∀ c ∈ blanks, Text.isBlank c = true) :
    Wholly tree (text ++ '\n' :: blanks) := by
  cases spelled with
  | mk before spelled behind =>
    rw [List.append_assoc, List.append_assoc]
    exact .mk before spelled (behind.line rfl blank)

variable {entries : List (String × Tree)} {text : List Char}
  (spelled : Wholly (.mapping entries) text)

include spelled

theorem trimmed : Wholly (.mapping entries) (Text.trimList text) := by
  cases spelled with
  | @mk before _ behind spaced inner gap =>
    rcases inner.braces with ⟨inside, rfl⟩
    rcases spaced.trimmed (c := '{') (by decide)
      (inside ++ '}' :: behind) with ⟨kept, spaced, left⟩
    have whole : before ++ ('{' :: (inside ++ ['}']) ++ behind) =
        before ++ '{' :: (inside ++ '}' :: behind) := by simp
    have right : Text.trimEndList (kept ++ '{' :: (inside ++ '}' :: behind)) =
        kept ++ ('{' :: (inside ++ ['}']) ++ Text.trimEndList behind) := by
      have last := Text.trimEndList_visible (c := '}') (by decide)
        (kept ++ '{' :: inside) behind
      simpa using last
    rw [whole, Text.trimList, left, right]
    exact .mk spaced inner
      (gap.of_prefix rfl (Text.trimEndList_prefix behind))

/-- A mapping starts with what starts a gap, or with its brace. -/
theorem begins :
    ∃ c tail, text = c :: tail ∧
      (Text.isBlank c = true ∨ c ∈ ['#', '{']) := by
  cases spelled with
  | mk spaced inner gap =>
    rcases inner.braces with ⟨inside, rfl⟩
    cases spaced with
    | none => exact ⟨'{', _, rfl, .inr (by decide)⟩
    | blank blank => exact ⟨_, _, rfl, .inl blank⟩
    | comment => exact ⟨'#', _, rfl, .inr (by decide)⟩

end Wholly

end Literal

namespace Reply

/-! ## Frames -/

/-- The character of a fence. -/
def tick : Char := Char.ofNat 96

theorem fence_eq : fence.toList = [tick, tick, tick] := by decide

/-- A literal stands alone, or on the lines of a fence. -/
inductive Framed (literal : List Char) : List Char → Prop where
  | bare : Framed literal literal
  | fenced {front tag indent back : List Char} :
      (∀ c ∈ front, Text.isBlank c = true) →
      '\n' ∉ tag → ¬ closeMarker.toList <:+: tag →
      (∀ c ∈ indent, Text.isBlank c = true) →
      (∀ c ∈ back, Text.isBlank c = true) →
      Framed literal (front ++ (fence.toList ++ (tag ++ '\n' ::
        (literal ++ '\n' :: (indent ++ (fence.toList ++ back))))))

/-- The lines of a fence are taken out of it. -/
theorem unfence_fenced {front tag back : List Char}
    (blankFront : ∀ c ∈ front, Text.isBlank c = true) (oneLine : '\n' ∉ tag)
    (inside : List Char) (blankBack : ∀ c ∈ back, Text.isBlank c = true) :
    unfence (front ++ (fence.toList ++ (tag ++ '\n' ::
        (inside ++ (fence.toList ++ back))))) = Text.trimList inside := by
  have visible : Text.isBlank tick = false := by decide
  have trimmed : Text.trimList (front ++ (fence.toList ++ (tag ++ '\n' ::
      (inside ++ (fence.toList ++ back))))) =
      fence.toList ++ (tag ++ '\n' :: (inside ++ fence.toList)) := by
    have last := Text.trimEndList_visible visible
      (fence.toList ++ (tag ++ '\n' :: (inside ++ [tick, tick]))) back
    rw [Text.trimEndList_blank blankBack] at last
    rw [Text.trimList_blank blankFront, fence_eq, List.cons_append,
      Text.trimList_visible visible]
    simpa [fence_eq] using last
  have opened : Text.afterStart? fence.toList
      (fence.toList ++ (tag ++ '\n' :: (inside ++ fence.toList))) =
      some (tag ++ '\n' :: (inside ++ fence.toList)) :=
    Text.afterStart?_eq_some_iff.mpr rfl
  have body : ((tag ++ '\n' :: (inside ++ fence.toList)).dropWhile
      (· ≠ '\n')).drop 1 = inside ++ fence.toList := by
    rw [List.dropWhile_append_of_pos fun c member => by
        simpa using fun same : c = '\n' => oneLine (same ▸ member),
      List.dropWhile_cons_of_neg (by simp)]
    rfl
  have ended : Text.trimEndList (inside ++ fence.toList) =
      inside ++ fence.toList := by
    have last := Text.trimEndList_concat visible (inside ++ [tick, tick])
    simpa [fence_eq] using last
  simp only [unfence, trimmed, opened, body, ended, Text.beforeEnd?_append,
    Option.getD_some]

/-- The literal in a frame is what the frame is taken off. -/
theorem Framed.unfence {entries : List (String × Tree)}
    {literal region : List Char} (framed : Framed literal region)
    (spelled : Literal.Wholly (.mapping entries) literal) :
    Literal.Wholly (.mapping entries) (unfence region) := by
  cases framed with
  | bare =>
    have trimmed := spelled.trimmed
    have unfenced : Text.afterStart? fence.toList (Text.trimList literal) =
        none := by
      rcases trimmed.begins with ⟨c, tail, begins, starts⟩
      apply Text.afterStart?_eq_none
      rintro ⟨rest, same⟩
      rw [begins, fence_eq] at same
      obtain rfl : tick = c := (List.cons.inj same).1
      exact absurd starts (by decide)
    rwa [Reply.unfence, unfenced]
  | @fenced front tag indent back blankFront oneLine _ blankIndent blankBack =>
    have taken := unfence_fenced blankFront oneLine
      (literal ++ '\n' :: indent) blankBack
    rw [List.append_assoc, List.cons_append] at taken
    rw [taken]
    exact (spelled.line blankIndent).trimmed

/-- A frame adds no closing marker. -/
theorem Framed.unmarked {literal region : List Char}
    (framed : Framed literal region)
    (absent : ¬ closeMarker.toList <:+: literal) :
    ¬ closeMarker.toList <:+: region := by
  have first : '<' ∈ closeMarker.toList := by decide
  have blank {text : List Char}
      (blank : ∀ c ∈ text, Text.isBlank c = true) :
      ¬ closeMarker.toList <:+: text :=
    Text.absent_of_mem first fun member =>
      absurd (blank _ member) (by decide)
  have ticks : tick ∉ closeMarker.toList := by decide
  have lines : '\n' ∉ closeMarker.toList := by decide
  have nothing : ¬ closeMarker.toList <:+: [] :=
    Text.absent_of_mem first List.not_mem_nil
  have fenced {text : List Char} (absent : ¬ closeMarker.toList <:+: text) :
      ¬ closeMarker.toList <:+: tick :: tick :: text :=
    Text.absent_wall ticks nothing (Text.absent_wall ticks nothing absent)
  cases framed with
  | bare => exact absent
  | fenced blankFront _ tagged blankIndent blankBack =>
    rw [fence_eq]
    exact Text.absent_wall ticks (blank blankFront)
      (fenced (Text.absent_wall lines tagged (Text.absent_wall lines absent
        (Text.absent_wall ticks (blank blankIndent)
          (fenced (blank blankBack))))))

theorem region?_marked {before region : List Char}
    (unopened : ¬ openMarker.toList <:+: before)
    (unclosed : ¬ closeMarker.toList <:+: region) (after : List Char) :
    region? (before ++ (openMarker.toList ++ (region ++
      (closeMarker.toList ++ after)))) = some region := by
  have opens : openMarker.toList =
      '<' :: "GROUPED_COMPONENTS>".toList := by decide
  have closes : closeMarker.toList =
      '<' :: "/GROUPED_COMPONENTS>".toList := by decide
  rw [opens] at unopened
  rw [closes] at unclosed
  have opened := Text.splitAt?_absent (by decide) unopened
    (region ++ (closeMarker.toList ++ after))
  have closed := Text.splitAt?_absent (by decide) unclosed after
  rw [← opens] at opened
  rw [← closes] at closed
  simp only [region?, opened, closed, Option.bind_eq_bind, Option.bind_some]

/-! ## Groups -/

/-- The strings among the items of a list. -/
def strings (items : List Tree) : List String :=
  items.filterMap fun item => match item with
    | .text value => some value
    | _ => none

/-- The last of the fields with one name is a list of these strings, among
which other items may stand. -/
def Lists (fields : List (String × Tree)) (name : String)
    (written : List String) : Prop :=
  ∃ items, lookupRow name fields.reverse = some (.list items) ∧
    strings items = written

/-- The fields of a written group, in any order and among others. -/
structure Writes (fields : List (String × Tree)) (group : Group) : Prop where
  description : lookupRow "description" fields.reverse =
    some (.text group.description)
  path : Lists fields "path" group.path
  components : Lists fields "components" group.components

/-- A mapping of written groups.  Only the last entry with a name counts. -/
structure Written (entries : List (String × Tree)) (groups : List Group) :
    Prop where
  distinct : (groups.map Group.name).Nodup
  named : ∀ entry ∈ entries, entry.1 ∈ groups.map Group.name
  written : ∀ group ∈ groups, ∃ fields,
    lookupRow group.name entries.reverse = some (.mapping fields) ∧
      Writes fields group

theorem texts_meaning (items : List Tree) :
    texts (some (Tree.list items).meaning) =
      ((strings items).map Text.trim).filter (· ≠ "") := by
  rw [Tree.meaning, texts]
  congr 1
  induction items with
  | nil => rfl
  | cons item items step =>
    cases item <;>
      simp [Tree.itemMeanings, Tree.meaning, Json.ofInt, strings] at step ⊢ <;>
      exact step

theorem Lists.texts {fields : List (String × Tree)} {name : String}
    {written : List String} (lists : Lists fields name written)
    {rows : List (String × Json)}
    (last : ∀ name, lookupRow name rows =
      (lookupRow name fields.reverse).map Tree.meaning) :
    texts (lookupRow name rows) =
      (written.map Text.trim).filter (· ≠ "") := by
  rcases lists with ⟨items, found, rfl⟩
  rw [last, found, Option.map_some, texts_meaning]

theorem Writes.group {fields : List (String × Tree)} {group : Group}
    (writes : Writes fields group) {rows : List (String × Json)}
    (last : ∀ name, lookupRow name rows =
      (lookupRow name fields.reverse).map Tree.meaning) :
    Reply.group group.name rows = group.cleaned := by
  have description : lookupRow "description" rows =
      some (.text group.description) := by
    rw [last, writes.description, Option.map_some, Tree.meaning]
  simp only [Reply.group, Group.cleaned, description, writes.path.texts last,
    writes.components.texts last]

/-- A table of records holds groups, one for each row and with its name. -/
theorem groups?_records {rows : List (String × Json)}
    (records : ∀ row ∈ rows, ∃ fields, row.2 = .record fields) :
    ∃ found, groups? rows = .ok found ∧
      found.map Group.name = rows.map Prod.fst ∧
      ∀ group ∈ found, ∃ fields, (group.name, .record fields) ∈ rows ∧
        group = Reply.group group.name fields := by
  induction rows with
  | nil => exact ⟨[], rfl, rfl, fun _ absent => absurd absent List.not_mem_nil⟩
  | cons row rows step =>
    rw [List.forall_mem_cons] at records
    obtain ⟨⟨fields, record⟩, others⟩ := records
    obtain ⟨name, value⟩ := row
    obtain rfl : value = .record fields := record
    rcases step others with ⟨found, read, names, each⟩
    refine ⟨Reply.group name fields :: found, by rw [groups?, read]; rfl,
      ?_, ?_⟩
    · rw [List.map_cons, List.map_cons, names]
      rfl
    · intro group member
      rcases List.mem_cons.mp member with rfl | member
      · exact ⟨fields, List.mem_cons_self, rfl⟩
      · rcases each group member with ⟨fields, inside, same⟩
        exact ⟨fields, List.mem_cons_of_mem _ inside, same⟩

section Groups

variable {entries : List (String × Tree)} {groups : List Group}
  (written : Written entries groups) {rows : List (String × Json)}
  (ascending : Ascending rows)
  (last : ∀ name, lookupRow name rows =
    (lookupRow name entries.reverse).map Tree.meaning)

include written ascending last

/-- Every row of the value of the mapping is a written group. -/
theorem Written.row {row : String × Json} (member : row ∈ rows) :
    ∃ group ∈ groups, group.name = row.1 ∧ ∃ fields,
      row.2 = .record fields ∧ Reply.group row.1 fields = group.cleaned := by
  have found := (lookupRow_eq_some_iff ascending).mpr member
  rw [last, Option.map_eq_some_iff] at found
  rcases found with ⟨tree, found, meaning⟩
  have entry := List.mem_reverse.mp (mem_of_lookupRow found)
  obtain ⟨group, member, same⟩ := List.mem_map.mp (written.named _ entry)
  rcases written.written group member with ⟨fields, chosen, writes⟩
  rw [show group.name = row.1 from same, found] at chosen
  obtain rfl := Option.some.inj chosen
  rcases Tree.meaning_mapping fields with ⟨inner, value, _, lastInner⟩
  refine ⟨group, member, same, inner, meaning.symm.trans value, ?_⟩
  rw [← show group.name = row.1 from same]
  exact writes.group lastInner

/-- Every written group has a row in the value of the mapping. -/
theorem Written.mem_names {group : Group} (member : group ∈ groups) :
    group.name ∈ rows.map Prod.fst := by
  rcases written.written group member with ⟨fields, chosen, _⟩
  have found := last group.name
  rw [chosen, Option.map_some, lookupRow_eq_some_iff ascending] at found
  exact List.mem_map_of_mem (f := Prod.fst) found

/-- The value of the mapping holds the written groups. -/
theorem Written.groups? :
    ∃ found, groups? rows = .ok found ∧
      (found.map Group.name).Pairwise (· < ·) ∧
      found.Perm (groups.map Group.cleaned) := by
  have records : ∀ row ∈ rows, ∃ fields, row.2 = .record fields := by
    intro row member
    rcases written.row ascending last member with ⟨_, _, _, fields, record, _⟩
    exact ⟨fields, record⟩
  rcases groups?_records records with ⟨found, read, names, each⟩
  have ordered : (found.map Group.name).Pairwise (· < ·) := by
    rw [names]
    exact List.pairwise_map.mpr ascending
  have origin : ∀ group ∈ found, ∃ source ∈ groups,
      source.name = group.name ∧ group = source.cleaned := by
    intro group member
    rcases each group member with ⟨fields, row, same⟩
    rcases written.row ascending last row with
      ⟨source, given, name, inner, record, cleaned⟩
    obtain rfl := Json.record.inj record
    exact ⟨source, given, name, same.trans cleaned⟩
  have distinct : found.Nodup :=
    List.Nodup.of_map Group.name (ordered.imp String.ne_of_lt)
  have distinctCleaned : (groups.map Group.cleaned).Nodup := by
    refine List.Nodup.of_map Group.name ?_
    rw [List.map_map]
    exact written.distinct
  refine ⟨found, read, ordered,
    (List.perm_ext_iff_of_nodup distinct distinctCleaned).mpr fun group => ?_⟩
  constructor
  · intro member
    rcases origin group member with ⟨source, given, _, same⟩
    exact same ▸ List.mem_map_of_mem given
  · intro member
    rcases List.mem_map.mp member with ⟨source, given, rfl⟩
    have named := written.mem_names ascending last given
    rw [← names] at named
    obtain ⟨group, present, same⟩ := List.mem_map.mp named
    rcases origin group present with ⟨other, given', name, rfl⟩
    obtain rfl := List.inj_on_of_nodup_map written.distinct given' given
      (name.trans same)
    exact present

end Groups

/-- A reply with a written mapping of groups between the markers proposes these
groups. -/
theorem proposes_written {entries : List (String × Tree)}
    {groups : List Group} (written : Written entries groups)
    (shallow : (Tree.mapping entries).depth ≤ 64)
    {literal region before : List Char}
    (spelled : Literal.Wholly (.mapping entries) literal)
    (unclosed : ¬ closeMarker.toList <:+: literal)
    (framed : Framed literal region)
    (unopened : ¬ openMarker.toList <:+: before) (after : List Char) :
    ∃ found,
      ofText (String.ofList (before ++ (openMarker.toList ++ (region ++
        (closeMarker.toList ++ after))))) = .proposed found ∧
      (found.map Group.name).Pairwise (· < ·) ∧
      found.Perm (groups.map Group.cleaned) := by
  have marked := region?_marked unopened (framed.unmarked unclosed) after
  have read := Literal.read_wholly shallow (framed.unfence spelled)
  rcases Tree.meaning_mapping entries with ⟨rows, meaning, ascending, last⟩
  rcases written.groups? ascending last with ⟨found, given, ordered, same⟩
  refine ⟨found, ?_, ordered, same⟩
  rw [ofText, String.toList_ofList, marked]
  simp only [ofRegion, read, meaning, given]

/-- A group with a blank text on its path. -/
def sampleGroup : Group := ⟨"G", "d", [" p ", " "], ["x"]⟩

/-- The fields of the group; an integer stands among its components. -/
def sampleFields : List (String × Tree) :=
  [("path", .list [.text " p ", .text " "]), ("description", .text "d"),
    ("components", .list [.int 1, .text "x"])]

def sampleLiteral : List Char :=
  ("\x7b'G':\x7b'path':(' p ',' '),'description':'d'," ++
    "'components':[1,'x']\x7d\x7d").toList

theorem written_sample :
    Written [("G", .mapping sampleFields)] [sampleGroup] where
  distinct := List.nodup_singleton _
  named := by simp [sampleGroup]
  written := List.forall_mem_singleton.mpr ⟨sampleFields, rfl,
    ⟨rfl, ⟨_, rfl, rfl⟩, ⟨_, rfl, rfl⟩⟩⟩

theorem wholly_sampleLiteral :
    Literal.Wholly (.mapping [("G", .mapping sampleFields)])
      sampleLiteral := by
  have raw {value : String} (plain : value.toList.all fun c =>
      c ≠ '\'' ∧ c ≠ '\\' ∧ c ≠ '\n') :
      Literal.Quoted value ('\'' :: (value.toList ++ ['\''])) :=
    .raw (.inr rfl) plain
  have path : Literal.Spelled (.list [.text " p ", .text " "])
      "(' p ',' ')".toList :=
    @Literal.Spelled.list '(' ')' [(.text " p ", "' p '".toList),
        (.text " ", "' '".toList)] _ (by decide)
      (List.forall_mem_cons.mpr ⟨.text (raw (by decide)),
        List.forall_mem_singleton.mpr (.text (raw (by decide)))⟩)
      (.more .none .none (.last .none .none))
  have components : Literal.Spelled (.list [.int 1, .text "x"])
      "[1,'x']".toList :=
    @Literal.Spelled.list '[' ']' [(.int 1, ['1']),
        (.text "x", "'x'".toList)] _ (by decide)
      (List.forall_mem_cons.mpr
        ⟨.int (.bare (@Literal.Digits.mk '1' [] rfl (by simp))),
        List.forall_mem_singleton.mpr (.text (raw (by decide)))⟩)
      (.more .none .none (.last .none .none))
  let fields : List Literal.EntrySpelling :=
    [⟨"path", "'path'".toList, [], [], .list [.text " p ", .text " "],
        "(' p ',' ')".toList⟩,
      ⟨"description", "'description'".toList, [], [], .text "d", "'d'".toList⟩,
      ⟨"components", "'components'".toList, [], [],
        .list [.int 1, .text "x"], "[1,'x']".toList⟩]
  have inner : Literal.Spelled (.mapping sampleFields) _ :=
    @Literal.Spelled.mapping fields _
      (List.forall_mem_cons.mpr ⟨⟨raw (by decide), .none, .none⟩,
        List.forall_mem_cons.mpr ⟨⟨raw (by decide), .none, .none⟩,
          List.forall_mem_singleton.mpr ⟨raw (by decide), .none, .none⟩⟩⟩)
      (List.forall_mem_cons.mpr ⟨path,
        List.forall_mem_cons.mpr ⟨.text (raw (by decide)),
          List.forall_mem_singleton.mpr components⟩⟩)
      (.more .none .none (.more .none .none (.last .none .none)))
  have outer : Literal.Spelled
      (.mapping [("G", .mapping sampleFields)]) sampleLiteral :=
    @Literal.Spelled.mapping
      [⟨"G", "'G'".toList, [], [], .mapping sampleFields, _⟩] _
      (List.forall_mem_singleton.mpr ⟨raw (by decide), .none, .none⟩)
      (List.forall_mem_singleton.mpr inner) (.last .none .none)
  have whole := Literal.Wholly.mk .none outer (.stop [])
  rwa [List.nil_append, List.append_nil] at whole

theorem proposes_written_sample :
    Written [("G", .mapping sampleFields)] [sampleGroup] ∧
    (Tree.mapping [("G", .mapping sampleFields)]).depth ≤ 64 ∧
    Literal.Wholly (.mapping [("G", .mapping sampleFields)]) sampleLiteral ∧
    ¬ closeMarker.toList <:+: sampleLiteral ∧
    Framed sampleLiteral (fence.toList ++ ('p' :: 'y' :: '\n' ::
      (sampleLiteral ++ '\n' :: fence.toList))) ∧
    ¬ openMarker.toList <:+: "Groups: <".toList ∧
    ofText (String.ofList ("Groups: <".toList ++ (openMarker.toList ++
      ((fence.toList ++ ('p' :: 'y' :: '\n' ::
        (sampleLiteral ++ '\n' :: fence.toList))) ++
        (closeMarker.toList ++ ['!']))))) =
      .proposed [⟨"G", "d", ["p"], ["x"]⟩] := by
  have shallow : (Tree.mapping [("G", .mapping sampleFields)]).depth ≤ 64 := by
    decide
  have unclosed : ¬ closeMarker.toList <:+: sampleLiteral :=
    Text.absent_of_mem (c := '<') (by decide) (by decide)
  have framed : Framed sampleLiteral (fence.toList ++ ('p' :: 'y' :: '\n' ::
      (sampleLiteral ++ '\n' :: fence.toList))) :=
    @Framed.fenced sampleLiteral [] ['p', 'y'] [] [] (by simp) (by decide)
      (Text.absent_of_mem (c := '<') (by decide) (by decide)) (by simp)
      (by simp)
  have unopened : ¬ openMarker.toList <:+: "Groups: <".toList :=
    Text.absent_of_mem (c := 'O') (by decide) (by decide)
  rcases proposes_written written_sample shallow wholly_sampleLiteral unclosed
    framed unopened ['!'] with ⟨found, read, _, same⟩
  obtain rfl := List.perm_singleton.mp same
  exact ⟨written_sample, shallow, wholly_sampleLiteral, unclosed, framed,
    unopened, read⟩

end Reply

end ModuleAtlas
