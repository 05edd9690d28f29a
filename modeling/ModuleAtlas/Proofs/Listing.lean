import Mathlib.Data.List.Induction
import Mathlib.Data.List.Perm.Subperm
import ModuleAtlas.Listing
import ModuleAtlas.Proofs.Keyed

/-!
# What a listing shows

A listing shows each known candidate once, under its file.  It depends on
nothing but the set of known candidates.
-/

namespace ModuleAtlas

namespace Listing

/-- The file of a known component. -/
def fileOf? (components : Keyed Component) (id : String) : Option String :=
  (components.find? id).map Component.relativePath

/-- The candidates in one file. -/
def inFile (components : Keyed Component) (candidates : List String)
    (file : String) : NameSet :=
  .ofList (candidates.filter fun id => fileOf? components id = some file)

variable {components : Keyed Component}

theorem mem_inFile {candidates : List String} {file id : String} :
    id ∈ inFile components candidates file ↔
      id ∈ candidates ∧ fileOf? components id = some file := by
  simp [inFile]

theorem inFile_append (candidates : List String) (id file : String) :
    inFile components (candidates ++ [id]) file =
      if fileOf? components id = some file then
        (inFile components candidates file).insert id
      else inFile components candidates file := by
  apply NameSet.ext
  intro name
  split <;> simp only [mem_inFile, NameSet.mem_insert, List.mem_append,
    List.mem_singleton]
  · next here =>
    constructor
    · rintro ⟨member | same, file⟩
      · exact Or.inr ⟨member, file⟩
      · exact Or.inl same
    · rintro (same | ⟨member, file⟩)
      · exact ⟨Or.inr same, same ▸ here⟩
      · exact ⟨Or.inl member, file⟩
  · next elsewhere =>
    constructor
    · rintro ⟨member | same, file⟩
      · exact ⟨member, file⟩
      · exact absurd (same ▸ file) elsewhere
    · rintro ⟨member, file⟩
      exact ⟨Or.inl member, file⟩

/-- A file stands in a listing when it holds a candidate, with all of them. -/
theorem find?_byFile (candidates : List String) (file : String) :
    (byFile components candidates).find? file =
      if inFile components candidates file = .empty then none
      else some (inFile components candidates file) := by
  induction candidates using List.reverseRecOn with
  | nil => simp [byFile, inFile, NameSet.ofList]
  | append_singleton candidates id step =>
    have members : ((byFile components candidates).find? file).getD .empty =
        inFile components candidates file := by
      rw [step]
      split
      · next bare => rw [bare]; rfl
      · rfl
    rw [byFile, List.foldl_append, ← byFile, inFile_append]
    rw [List.foldl_cons, List.foldl_nil]
    rcases Option.eq_none_or_eq_some (components.find? id)
      with unknown | ⟨component, known⟩
    · have nowhere : fileOf? components id ≠ some file := by
        simp [fileOf?, unknown]
      rw [unknown, if_neg nowhere]
      exact step
    · have here : fileOf? components id = some component.relativePath := by
        simp [fileOf?, known]
      rw [known, here]
      show ((byFile components candidates).insert _ _).find? file = _
      rw [Keyed.find?_insert]
      by_cases same : component.relativePath = file
      · subst same
        have grown : (inFile components candidates
            component.relativePath).insert id ≠ .empty := by
          intro bare
          apply NameSet.not_mem_empty id
          rw [← bare]
          exact NameSet.mem_insert.2 (Or.inl rfl)
        rw [if_pos rfl, if_pos rfl, if_neg grown, members]
      · rw [if_neg same, if_neg fun equal => same (Option.some.inj equal)]
        exact step

theorem mem_ids {candidates : List String} {id : String} :
    id ∈ (ofCandidates components candidates).ids ↔
      id ∈ candidates ∧ components.contains id = true := by
  simp only [ofCandidates, List.mem_flatMap, Prod.exists,
    ← Keyed.find?_eq_some_iff, find?_byFile]
  constructor
  · rintro ⟨file, members, met, member⟩
    split at met
    · exact absurd met (by simp)
    · rw [Option.some.injEq] at met
      rw [← met, NameSet.mem_names, mem_inFile] at member
      rcases Option.map_eq_some_iff.1 member.2 with ⟨component, known, _⟩
      exact ⟨member.1, by rw [Keyed.contains, known]; rfl⟩
  · rintro ⟨member, known⟩
    rcases Option.isSome_iff_exists.1 known with ⟨component, known⟩
    have inside : id ∈ inFile components candidates
        component.relativePath :=
      mem_inFile.2 ⟨member, by rw [fileOf?, known]; rfl⟩
    refine ⟨component.relativePath, _, ?_, inside⟩
    rw [if_neg]
    intro bare
    exact NameSet.not_mem_empty id (bare ▸ inside)

theorem ids_nodup (candidates : List String) :
    (ofCandidates components candidates).ids.Nodup := by
  rw [ofCandidates, List.nodup_flatMap]
  constructor
  · rintro ⟨file, members⟩ _
    exact members.names_nodup
  · have inside : ∀ row ∈ (byFile components candidates).entries,
        ∀ id ∈ row.2.names, fileOf? components id = some row.1 := by
      rintro ⟨file, members⟩ member id among
      rw [← Keyed.find?_eq_some_iff, find?_byFile] at member
      split at member
      · exact absurd member (by simp)
      · rw [Option.some.injEq] at member
        rw [← member, NameSet.mem_names, mem_inFile] at among
        exact among.2
    apply List.Pairwise.imp_of_mem _
      (byFile components candidates).ascending
    intro earlier later member member' before
    apply List.disjoint_left.2
    intro id among among'
    have files : some earlier.1 = some later.1 := by
      rw [← inside earlier member id among, inside later member' id among']
    exact String.ne_of_lt before (Option.some.inj files)

theorem length_ids_le (candidates : List String) :
    (ofCandidates components candidates).ids.length ≤ candidates.length := by
  apply List.Subperm.length_le
  apply (ids_nodup candidates).subperm
  intro id member
  exact (mem_ids.1 member).1

/-- A text that is joined is somewhere in the whole. -/
theorem exists_around {texts : List String} {text : String}
    (member : text ∈ texts) :
    ∃ front back, String.join texts = front ++ text ++ back := by
  rcases List.append_of_mem member with ⟨before, after, rfl⟩
  refine ⟨String.join before, String.join after, ?_⟩
  rw [String.join_append, String.join_cons, String.append_assoc]

/-- The text with ids only has the line of every known candidate. -/
theorem exists_around_idLine {candidates : List String} {id : String}
    (member : id ∈ candidates) (known : components.contains id = true) :
    ∃ front back, (ofCandidates components candidates).summary =
      front ++ idLine id ++ back := by
  have listed : id ∈ (ofCandidates components candidates).ids :=
    mem_ids.2 ⟨member, known⟩
  rcases List.mem_flatMap.1 listed with ⟨⟨file, members⟩, among, inside⟩
  rcases exists_around (List.mem_map_of_mem (f := idLine) inside)
    with ⟨front, back, lines⟩
  rcases exists_around (List.mem_map_of_mem
      (f := fun (row : String × NameSet) =>
        fileLine row.1 ++ String.join (row.2.names.map idLine)) among)
    with ⟨before, after, whole⟩
  refine ⟨before ++ fileLine file ++ front, back ++ after, ?_⟩
  rw [ofCandidates, whole, lines]
  simp only [String.append_assoc]

/-- Candidates with the same known components have the same listing. -/
theorem ofCandidates_congr {left right : List String}
    (agree : ∀ id, components.contains id = true →
      (id ∈ left ↔ id ∈ right)) :
    ofCandidates components left = ofCandidates components right := by
  have files : byFile components left = byFile components right := by
    apply Keyed.ext
    intro file
    have same : inFile components left file =
        inFile components right file := by
      apply NameSet.ext
      intro id
      rw [mem_inFile, mem_inFile, and_congr_left_iff]
      intro here
      apply agree
      rcases Option.map_eq_some_iff.1 here with ⟨component, known, _⟩
      rw [Keyed.contains, known]
      rfl
    rw [find?_byFile, find?_byFile, same]
  rw [ofCandidates, ofCandidates, files]

end Listing

end ModuleAtlas
