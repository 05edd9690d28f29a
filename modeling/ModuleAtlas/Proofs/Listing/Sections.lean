import ModuleAtlas.Proofs.Listing
import ModuleAtlas.Proofs.Text.Search

/-!
# Sections of a listing

A listing has one section for each file that holds a known candidate: the line
of the file, and below it the lines of all known candidates in the file.  Files
and ids ascend.  Both texts of a listing are made of these lines.  The text with
code has the source of a component on lines of its own below the line of its id,
and without these sources it is the text with ids only.

The sections depend on nothing but the set of known candidates, so a listing is
a canonical form of this set.
-/

namespace ModuleAtlas

namespace Listing

/-- The known candidates by file, files and ids in ascending order. -/
structure Sectioned (components : Keyed Component) (candidates : List String)
    (sections : List (String × List String)) : Prop where
  files_ascending : (sections.map Prod.fst).Pairwise (· < ·)
  ids_ascending : ∀ row ∈ sections, row.2.Pairwise (· < ·)
  filled : ∀ row ∈ sections, row.2 ≠ []
  mem_iff : ∀ {file id : String},
    (∃ ids, (file, ids) ∈ sections ∧ id ∈ ids) ↔
      id ∈ candidates ∧ fileOf? components id = some file

/-- A line of a listing. -/
inductive Line where
  | file (path : String)
  | member (id : String)
deriving DecidableEq

namespace Line

def text : Line → String
  | file path => fileLine path
  | member id => idLine id

/-- What the text with code has below a line. -/
def code (components : Keyed Component) : Line → String
  | file _ => ""
  | member id => codeLines components id

/-- A line names the file of a known candidate, or a known candidate. -/
def Names (components : Keyed Component) (candidates : List String) :
    Line → Prop
  | file path => ∃ id ∈ candidates, fileOf? components id = some path
  | member id => id ∈ candidates ∧ components.contains id = true

end Line

/-- The lines of sections: that of a file, then those of its ids. -/
def lines (sections : List (String × List String)) : List Line :=
  sections.flatMap fun row => .file row.1 :: row.2.map .member

/-- What is left of a text of lines when the code below each line is deleted;
nothing when the text does not consist of these lines with their code. -/
def withoutCode? (components : Keyed Component) :
    List Line → List Char → Option (List Char)
  | [], [] => some []
  | [], _ :: _ => none
  | line :: lines, text => do
    let behind ← Text.afterStart? line.text.toList text
    let rest ← Text.afterStart? (line.code components).toList behind
    let kept ← withoutCode? components lines rest
    some (line.text.toList ++ kept)

/-- One id is listed before another: its file is earlier, or the file is the
same and the id is earlier. -/
def Before (components : Keyed Component) (earlier later : String) : Prop :=
  ∃ file file', fileOf? components earlier = some file ∧
    fileOf? components later = some file' ∧
    (file < file' ∨ file = file' ∧ earlier < later)

variable {components : Keyed Component} {candidates : List String}

theorem exists_fileOf?_iff {id : String} :
    (∃ file, fileOf? components id = some file) ↔
      components.contains id = true := by
  rw [← Option.isSome_iff_exists, fileOf?, Option.isSome_map, Keyed.contains]

namespace Sectioned

variable {sections : List (String × List String)}
  (sectioned : Sectioned components candidates sections)

include sectioned

theorem fileOf?_eq {file id : String} {ids : List String}
    (row : (file, ids) ∈ sections) (member : id ∈ ids) :
    fileOf? components id = some file :=
  (sectioned.mem_iff.1 ⟨ids, row, member⟩).2

/-- The lines name what is known of the candidates. -/
theorem mem_lines {line : Line} :
    line ∈ lines sections ↔ line.Names components candidates := by
  simp only [lines, List.mem_flatMap, Prod.exists, List.mem_cons, List.mem_map]
  cases line with
  | file path =>
    simp only [Line.Names, ← sectioned.mem_iff]
    constructor
    · rintro ⟨file, ids, row, same | ⟨id, _, different⟩⟩
      · obtain rfl := Line.file.inj same
        rcases List.exists_mem_of_ne_nil ids (sectioned.filled _ row)
          with ⟨id, member⟩
        exact ⟨id, ids, row, member⟩
      · exact absurd different (by simp)
    · rintro ⟨id, ids, row, _⟩
      exact ⟨path, ids, row, .inl rfl⟩
  | member id =>
    simp only [Line.Names, ← exists_fileOf?_iff, ← exists_and_left,
      ← sectioned.mem_iff]
    constructor
    · rintro ⟨file, ids, row, different | ⟨other, member, same⟩⟩
      · exact absurd different (by simp)
      · obtain rfl := Line.member.inj same
        exact ⟨file, ids, row, member⟩
    · rintro ⟨file, ids, row, member⟩
      exact ⟨file, ids, row, .inr ⟨id, member, rfl⟩⟩

theorem ids_before : (sections.flatMap Prod.snd).Pairwise
    (Before components) := by
  rw [List.pairwise_flatMap]
  constructor
  · rintro ⟨file, ids⟩ row
    refine (sectioned.ids_ascending _ row).imp_of_mem ?_
    intro earlier later member member' before
    exact ⟨file, file, sectioned.fileOf?_eq row member,
      sectioned.fileOf?_eq row member', .inr ⟨rfl, before⟩⟩
  · refine (List.pairwise_map.1 sectioned.files_ascending).imp_of_mem ?_
    rintro ⟨file, ids⟩ ⟨file', ids'⟩ row row' before id member id' member'
    exact ⟨file, file', sectioned.fileOf?_eq row member,
      sectioned.fileOf?_eq row' member', .inl before⟩

/-- No line stands twice in a listing. -/
theorem lines_nodup : (lines sections).Nodup := by
  rw [lines, List.nodup_flatMap]
  constructor
  · rintro ⟨file, ids⟩ row
    have distinct := (sectioned.ids_ascending _ row).imp String.ne_of_lt
    refine List.nodup_cons.2 ⟨by simp, ?_⟩
    exact List.Nodup.map (fun _ _ same => Line.member.inj same) distinct
  · refine (List.pairwise_map.1 sectioned.files_ascending).imp_of_mem ?_
    rintro ⟨file, ids⟩ ⟨file', ids'⟩ row row' before
    have apart : file ≠ file' := String.ne_of_lt before
    apply List.disjoint_left.2
    intro line member member'
    simp only [List.mem_cons, List.mem_map] at member member'
    rcases member with rfl | ⟨id, inside, rfl⟩
    · simp [apart] at member'
    · obtain ⟨id', inside', same⟩ := member'.resolve_left (by simp)
      obtain rfl := Line.member.inj same
      -- an id has one file
      have files := sectioned.fileOf?_eq row inside
      rw [sectioned.fileOf?_eq row' inside'] at files
      exact apart (Option.some.inj files).symm

end Sectioned

/-- The sections that the known candidates are listed in. -/
def sections (components : Keyed Component) (candidates : List String) :
    List (String × List String) :=
  (byFile components candidates).entries.map fun row => (row.1, row.2.names)

theorem mem_sections {file : String} {ids : List String} :
    (file, ids) ∈ sections components candidates ↔
      ids ≠ [] ∧ ids = (inFile components candidates file).names := by
  have bare : inFile components candidates file = .empty ↔
      (inFile components candidates file).names = [] :=
    NameSet.names_inj.symm
  simp only [sections, List.mem_map, Prod.exists, Prod.mk.injEq,
    ← Keyed.find?_eq_some_iff, find?_byFile]
  constructor
  · rintro ⟨_, members, met, rfl, rfl⟩
    split at met
    · exact absurd met (by simp)
    · next filled =>
      obtain rfl := Option.some.inj met
      exact ⟨fun nothing => filled (bare.2 nothing), rfl⟩
  · rintro ⟨filled, rfl⟩
    exact ⟨file, _, if_neg fun nothing => filled (bare.1 nothing), rfl, rfl⟩

theorem sectioned_sections (components : Keyed Component)
    (candidates : List String) :
    Sectioned components candidates (sections components candidates) where
  files_ascending := by
    rw [sections, List.map_map]
    exact (byFile components candidates).names_pairwise
  ids_ascending := by
    rintro ⟨file, ids⟩ row
    obtain ⟨_, rfl⟩ := mem_sections.1 row
    exact (inFile components candidates file).ascending
  filled := fun row member => (mem_sections.1 member).1
  mem_iff := by
    intro file id
    simp only [mem_sections, ← mem_inFile]
    constructor
    · rintro ⟨_, ⟨_, rfl⟩, member⟩
      exact member
    · intro member
      exact ⟨_, ⟨List.ne_nil_of_mem member, rfl⟩, member⟩

/-! ## Texts made of lines -/

theorem join_lines (write : Line → String)
    (sections : List (String × List String)) :
    String.join ((lines sections).map write) =
      String.join (sections.map fun row => write (.file row.1) ++
        String.join (row.2.map fun id => write (.member id))) := by
  induction sections with
  | nil => rfl
  | cons row rest step =>
    rw [lines, List.flatMap_cons, List.map_append, String.join_append, ← lines,
      step, List.map_cons, List.map_cons, String.join_cons, String.join_cons,
      List.map_map]
    rfl

theorem ids_eq : (ofCandidates components candidates).ids =
    (sections components candidates).flatMap Prod.snd := by
  rw [sections, List.flatMap_map]
  rfl

theorem summary_eq : (ofCandidates components candidates).summary =
    String.join ((lines (sections components candidates)).map
      Line.text) := by
  rw [join_lines, sections, List.map_map]
  rfl

theorem withCode_eq : (ofCandidates components candidates).withCode =
    String.join ((lines (sections components candidates)).map fun line =>
      line.text ++ line.code components) := by
  have bare (file : String) :
      Line.text (.file file) ++ Line.code components (.file file) =
        fileLine file := String.append_empty
  rw [join_lines, sections, List.map_map]
  simp only [bare]
  rfl

theorem withoutCode?_lines (components : Keyed Component)
    (lines : List Line) :
    withoutCode? components lines (String.join (lines.map fun line =>
        line.text ++ line.code components)).toList =
      some (String.join (lines.map Line.text)).toList := by
  induction lines with
  | nil => rfl
  | cons line lines step =>
    have front := Text.afterStart?_eq_some_iff.2 (Eq.refl (line.text.toList ++
      ((line.code components).toList ++ (String.join (lines.map fun line =>
        line.text ++ line.code components)).toList)))
    have below := Text.afterStart?_eq_some_iff.2 (Eq.refl
      ((line.code components).toList ++ (String.join (lines.map fun line =>
        line.text ++ line.code components)).toList))
    simp only [List.map_cons, String.join_cons, String.toList_append,
      List.append_assoc, withoutCode?, front, below, step,
      Option.bind_eq_bind, Option.bind_some]

/-- Candidates with the same known components have the same listing.  It has
each known candidate once, in the order of files and ids, under the line of its
file, and deleting the code from the text with code gives the text with ids
only. -/
theorem ofCandidates_canonical (components : Keyed Component) :
    (∀ left right : List String,
      (∀ id, components.contains id = true → (id ∈ left ↔ id ∈ right)) →
      ofCandidates components left = ofCandidates components right) ∧
    ∀ candidates : List String,
      (∀ id, (ofCandidates components candidates).ids.count id =
        if id ∈ candidates ∧ components.contains id = true then 1 else 0) ∧
      (ofCandidates components candidates).ids.Pairwise
        (Before components) ∧
      ∃ sections, Sectioned components candidates sections ∧
        (ofCandidates components candidates).ids =
          sections.flatMap Prod.snd ∧
        (ofCandidates components candidates).summary =
          String.join ((lines sections).map Line.text) ∧
        (ofCandidates components candidates).withCode =
          String.join ((lines sections).map fun line =>
            line.text ++ line.code components) ∧
        withoutCode? components (lines sections)
            (ofCandidates components candidates).withCode.toList =
          some (ofCandidates components candidates).summary.toList := by
  refine ⟨fun left right agree => ofCandidates_congr agree, ?_⟩
  intro candidates
  have sectioned := sectioned_sections components candidates
  refine ⟨fun id => ?_, ?_, _, sectioned, ids_eq, summary_eq, withCode_eq, ?_⟩
  · simp only [(ids_nodup candidates).count, mem_ids]
  · rw [ids_eq]
    exact sectioned.ids_before
  · rw [withCode_eq, summary_eq]
    exact withoutCode?_lines components _

namespace Sample

/-- A function of a file with its source. -/
def component (file source id : String) : Component where
  id := id
  name := id
  displayName := id
  kind := .function
  filePath := file
  relativePath := file
  startLine := 1
  endLine := 1
  sourceCode := source
  hasDocstring := false
  docstring := ""
  parameters := []
  baseClasses := none
  className := none
  dependsOn := .empty

/-- Three functions of two files; the first of them is in the second file. -/
def functions : Keyed Component :=
  .ofList [("a", component "n.py" "def a(): ..." "a"),
    ("b", component "m.py" "def b(): ..." "b"),
    ("c", component "m.py" "" "c")]

end Sample

/-- Two lists of three known candidates, one of them with repetitions and an
unknown id. -/
theorem ofCandidates_canonical_shuffled :
    (∀ id, Sample.functions.contains id = true →
      (id ∈ ["c", "ghost", "a", "c", "b"] ↔ id ∈ ["a", "b", "c"])) ∧
    ofCandidates Sample.functions ["c", "ghost", "a", "c", "b"] =
      ofCandidates Sample.functions ["a", "b", "c"] ∧
    (ofCandidates Sample.functions ["a", "b", "c"]).summary =
      "# m.py\n\tb\n\tc\n# n.py\n\ta\n" := by
  have agree : ∀ id, Sample.functions.contains id = true →
      (id ∈ ["c", "ghost", "a", "c", "b"] ↔ id ∈ ["a", "b", "c"]) := by
    intro id known
    have names : Sample.functions.names = ["a", "b", "c"] := by decide
    have among := names ▸ Keyed.contains_iff.1 known
    simp only [List.mem_cons, List.not_mem_nil, or_false] at among
    rcases among with rfl | rfl | rfl <;> decide
  exact ⟨agree, (ofCandidates_canonical Sample.functions).1 _ _ agree,
    by decide⟩

end Listing

end ModuleAtlas
