import Mathlib.Data.List.DropRight
import ModuleAtlas.Proofs.Files.Contents

/-!
# File trees keep texts

Files of one directory have paths with the same segments in front, and so have
the directories above them.  Making one of these directories puts an empty one
where nothing was.  Paths that do not lead upwards then still lead nowhere
behind it, and what the files of the directory hold is as it was.
-/

namespace ModuleAtlas

/-! ## Segments of paths -/

namespace Path

theorem pieces_eq_splitOn (mark : Char) (text : List Char) :
    Text.pieces mark text = text.splitOn mark := by
  induction text with
  | nil => rfl
  | cons c rest step =>
    rw [Text.pieces, List.splitOn_cons_eq_if_modifyHead, step]
    by_cases same : c = mark
    · rw [if_pos same, if_pos (beq_iff_eq.2 same)]
    · rw [if_neg same, if_neg (mt beq_iff_eq.1 same)]
      cases pieces : rest.splitOn mark with
      | nil => exact absurd pieces (List.splitOn_ne_nil mark rest)
      | cons piece others => rfl

theorem segments_eq (path : String) :
    segments path = (path.toList.splitOn '/').map String.ofList := by
  rw [segments, pieces_eq_splitOn]

theorem segments_slash (front back : String) :
    segments (front ++ "/" ++ back) = segments front ++ segments back := by
  rw [segments_eq, segments_eq, segments_eq, String.toList_append,
    String.toList_append, List.append_assoc]
  rw [← List.map_append, ← List.splitOn_append_cons_self]
  rfl

theorem segments_of_not_mem {name : String} (whole : '/' ∉ name.toList) :
    segments name = [name] := by
  rw [segments_eq, List.splitOn_eq_singleton whole, List.map_singleton,
    String.ofList_toList]

/-- Segments with slashes between them are the segments of a path. -/
theorem segments_intercalate {names : List String} (nonempty : names ≠ [])
    (whole : ∀ name ∈ names, '/' ∉ name.toList) :
    segments ("/".intercalate names) = names := by
  induction names with
  | nil => exact absurd rfl nonempty
  | cons name names step =>
    have first := segments_of_not_mem (whole name List.mem_cons_self)
    cases names with
    | nil => exact first
    | cons next names =>
      rw [String.intercalate_cons_cons, segments_slash, first,
        step (List.cons_ne_nil _ _) fun other member =>
          whole other (List.mem_cons_of_mem _ member)]
      rfl

theorem isAbsolute_iff {path : String} :
    isAbsolute path = true ↔
      ∃ next others, segments path = "" :: next :: others := by
  rw [isAbsolute, decide_eq_true_iff, segments_eq]
  cases text : path.toList with
  | nil => simp
  | cons c rest =>
    rw [List.splitOn_cons_eq_if_modifyHead]
    cases pieces : rest.splitOn '/' with
    | nil => exact absurd pieces (List.splitOn_ne_nil '/' rest)
    | cons piece others =>
      by_cases slash : c = '/'
      · simp [slash]
      · simp [slash, String.ofList_eq_empty_iff]

theorem not_mem_of_mem_splitOn {mark : Char} {piece text : List Char}
    (member : piece ∈ text.splitOn mark) : mark ∉ piece := by
  induction text generalizing piece with
  | nil =>
    rw [List.splitOn_nil, List.mem_singleton] at member
    exact member ▸ List.not_mem_nil
  | cons c rest step =>
    rw [List.splitOn_cons_eq_if_modifyHead] at member
    split at member
    · rcases List.mem_cons.1 member with rfl | later
      · exact List.not_mem_nil
      · exact step later
    · next other =>
      cases pieces : rest.splitOn mark with
      | nil => exact absurd pieces (List.splitOn_ne_nil mark rest)
      | cons first others =>
        rw [pieces, List.modifyHead_cons] at member
        rw [pieces] at step
        rcases List.mem_cons.1 member with rfl | later
        · rw [List.mem_cons, not_or]
          exact ⟨fun same => other (beq_iff_eq.2 same.symm),
            step List.mem_cons_self⟩
        · exact step (List.mem_cons_of_mem _ later)

theorem not_mem_of_mem_segments {path segment : String}
    (member : segment ∈ segments path) : '/' ∉ segment.toList := by
  rw [segments_eq] at member
  rcases List.mem_map.1 member with ⟨piece, among, rfl⟩
  rw [String.toList_ofList]
  exact not_mem_of_mem_splitOn among

theorem isIdle_of_isName {name : String} (named : isName name = true) :
    isIdle name = false := by
  simp only [isName, Bool.and_eq_true, Bool.not_eq_true'] at named
  exact named.1.1

/-- Names joined to one path share the segments in front of them. -/
theorem exists_segments_join (base : String) :
    ∃ front, (∀ segment ∈ front, segment ∈ segments base) ∧
      ∀ name, '/' ∉ name.toList →
        segments (join base name) = front ++ [name] := by
  have relative : ∀ name : String, '/' ∉ name.toList →
      isAbsolute name = false := by
    intro name whole
    rw [isAbsolute, decide_eq_false_iff_not]
    exact fun slash => whole (List.mem_of_mem_head? slash)
  by_cases empty : base = ""
  · refine ⟨[], nofun, fun name whole => ?_⟩
    rw [join, relative name whole, if_pos (by simp [empty]),
      segments_of_not_mem whole]
    rfl
  · by_cases slash : base.toList.getLast? = some '/'
    · rcases List.getLast?_eq_some_iff.1 slash with ⟨above, text⟩
      have ends : base = String.ofList above ++ "/" := by
        rw [← String.toList_inj, text, String.toList_append,
          String.toList_ofList]
        rfl
      refine ⟨segments (.ofList above), fun segment member => ?_,
        fun name whole => ?_⟩
      · have whole := segments_slash (.ofList above) ""
        rw [← ends, String.append_empty] at whole
        exact whole ▸ List.mem_append_left _ member
      · rw [join, relative name whole, if_neg (by simp [empty]), if_pos slash,
          ends, segments_slash, segments_of_not_mem whole]
    · refine ⟨segments base, fun _ member => member, fun name whole => ?_⟩
      rw [join, relative name whole, if_neg (by simp [empty]), if_neg slash,
        segments_slash, segments_of_not_mem whole]

/-! ## Directories above a path -/

/-- Without idle segments at its end, a path has none or ends in a busy one. -/
theorem rdropWhile_isIdle (names : List String) :
    names.rdropWhile isIdle = [] ∨
      ∃ front name, names.rdropWhile isIdle = front ++ [name] ∧
        isIdle name = false := by
  by_cases bare : names.rdropWhile isIdle = []
  · exact .inl bare
  · exact .inr ⟨_, _, (List.dropLast_append_getLast bare).symm,
      Bool.eq_false_iff.2 (List.rdropWhile_last_not isIdle names bare)⟩

/-- A path that leads nowhere, to the root, or to a directory on the way along
some segments. -/
inductive Leads (absolute : Bool) (front : List String) : String → Prop where
  | nowhere : Leads absolute front ""
  | root (rooted : absolute = true) : Leads absolute front "/"
  | onward {above : List String} {name : String}
      (within : above ++ [name] <+: front) (busy : isIdle name = false) :
      Leads absolute front ("/".intercalate (above ++ [name]))

section Above

variable {path last : String} {front : List String}
  (ended : segments path = front ++ [last])

include ended

theorem isAbsolute_iff_head? :
    isAbsolute path = true ↔ front.head? = some "" := by
  rw [isAbsolute_iff, ended]
  cases front with
  | nil => simp
  | cons first rest => cases rest <;> simp

theorem isAbsolute_congr {other next : String}
    (ended' : segments other = front ++ [next]) :
    isAbsolute path = isAbsolute other := by
  rw [Bool.eq_iff_iff, isAbsolute_iff_head? ended, isAbsolute_iff_head? ended']

theorem dropLast_trimmedSegments (busy : isIdle last = false) :
    (trimmedSegments path).dropLast = front := by
  have kept : trimmedSegments path = front ++ [last] := by
    rw [trimmedSegments, ended]
    exact List.rdropWhile_concat_neg isIdle front last
      (Bool.eq_false_iff.1 busy)
  rw [kept, List.dropLast_concat]

/-- A directory on the way along the front of a path has the segments up to it,
and starts where the path does. -/
theorem segments_onward {above : List String} {name : String}
    (within : above ++ [name] <+: front) (busy : isIdle name = false) :
    segments ("/".intercalate (above ++ [name])) = above ++ [name] ∧
      isAbsolute ("/".intercalate (above ++ [name])) = isAbsolute path := by
  have shown : segments ("/".intercalate (above ++ [name])) =
      above ++ [name] := by
    refine segments_intercalate (by simp) fun segment member => ?_
    have among : segment ∈ segments path := by
      rw [ended]
      exact List.mem_append_left _ (within.subset member)
    exact not_mem_of_mem_segments among
  refine ⟨shown, ?_⟩
  rw [Bool.eq_iff_iff, isAbsolute_iff_head? shown, isAbsolute_iff_head? ended]
  rcases within with ⟨rest, rfl⟩
  cases above with
  | nil =>
    have named : name ≠ "" := by
      rintro rfl
      exact Bool.noConfusion busy
    simp [named]
  | cons first others => simp

end Above

variable {front : List String}

theorem leads_parent_of {path : String}
    (within : (trimmedSegments path).dropLast <+: front) :
    Leads (isAbsolute path) front (parent path) := by
  have shorter := List.rdropWhile_prefix isIdle (trimmedSegments path).dropLast
  change Leads _ _ (if (trimmedSegments path).dropLast.rdropWhile isIdle = [] &&
    isAbsolute path then "/" else
      "/".intercalate ((trimmedSegments path).dropLast.rdropWhile isIdle))
  rcases rdropWhile_isIdle (trimmedSegments path).dropLast with
    bare | ⟨above, name, kept, busy⟩
  · rw [bare]
    cases absolute : isAbsolute path with
    | true => exact .root rfl
    | false => exact .nowhere
  · rw [kept] at shorter ⊢
    rw [if_neg (by simp)]
    exact .onward (shorter.trans within) busy

section Levels

variable {path last : String} (ended : segments path = front ++ [last])

include ended

theorem Leads.parent {directory : String}
    (leads : Leads (isAbsolute path) front directory) :
    Leads (isAbsolute path) front (parent directory) := by
  cases leads with
  | nowhere => exact .nowhere
  | root rooted => exact .root rooted
  | @onward above name within busy =>
    rcases segments_onward ended within busy with ⟨shown, alike⟩
    rw [← alike]
    refine leads_parent_of ?_
    rw [dropLast_trimmedSegments shown busy]
    exact (List.prefix_append above [name]).trans within

/-- The directories above a path are on the way along its front. -/
theorem leads_iterate (busy : isIdle last = false) (level : Nat) :
    Leads (isAbsolute path) front (Path.parent^[level + 1] path) := by
  induction level with
  | zero =>
    refine leads_parent_of ?_
    rw [dropLast_trimmedSegments ended busy]
  | succ level step =>
    rw [Function.iterate_succ_apply']
    exact step.parent ended

end Levels

end Path

/-! ## What a path of a file tree leads to -/

namespace FileTree

open Forest

/-- What a path leads to. -/
def node? (tree : FileTree) (path : String) : Option FileNode :=
  (tree.locate? path).map fun place =>
    (valueAt? place tree).getD .directory

theorem bind_node? (tree : FileTree) (path : String) :
    (tree.node? path).bind FileNode.text? = tree.readText path := by
  rw [node?, readText]
  cases tree.locate? path with
  | none => rfl
  | some place =>
    rw [Option.map_some, Option.bind_some, Option.bind_some, valueAt?]
    rcases tree.find? place with _ | ⟨_ | _ | _, _⟩ <;> rfl

section Walks

variable {tree : FileTree} {path name : String} {place : List String}

theorem node?_of_lost (lost : canLead path = true →
    (tree.followAll (startOf path) (Path.segments path)).toOption = none) :
    tree.node? path = none := by
  rw [node?, locate?]
  split
  · next can => rw [lost can, Option.map_none]
  · rfl

/-- A path leads to an entry of the directory that its front leads to. -/
theorem node?_of_front {front : List String} (can : canLead path = true)
    (ended : Path.segments path = front ++ [name])
    (named : Path.isName name = true)
    (walk : tree.followAll (startOf path) front = .ok place)
    (here : tree.isDirectory place = true) :
    tree.node? path = valueAt? (place ++ [name]) tree := by
  have landed : tree.followAll (startOf path) (Path.segments path) =
      tree.follow place name := by
    rw [followAll] at walk ⊢
    rw [ended, List.foldlM_append, walk]
    change tree.follow place name >>= pure = _
    exact bind_pure _
  rw [node?, locate?, if_pos can, landed, follow_name here named, valueAt?]
  cases met : tree.find? (place ++ [name]) with
  | none => rfl
  | some found =>
    change some ((valueAt? (place ++ [name]) tree).getD .directory) = _
    rw [valueAt?, met]
    rfl

theorem follow_eq_missing
    (missed : tree.follow place name = .error .missing) :
    tree.isDirectory place = true ∧ Path.isName name = true ∧
      tree.find? (place ++ [name]) = none := by
  unfold follow at missed
  split at missed
  · exact nomatch missed
  · next entered =>
    split at missed
    · exact nomatch missed
    · split at missed
      · split at missed
        · exact nomatch missed
        · split at missed <;> exact nomatch missed
      · split at missed
        · exact nomatch missed
        · next named =>
          dsimp only at missed
          split at missed
          · exact nomatch missed
          · next absent =>
            exact ⟨by simpa using entered, by simpa using named,
              by simpa using absent⟩

/-- Nothing is found behind a directory without entries on ways that do not lead
upwards. -/
theorem followAll_bare (here : tree.isDirectory place = true)
    (bare : ∀ name, tree.find? (place ++ [name]) = none)
    {segments : List String} (inside : ".." ∉ segments)
    (busy : ∃ segment ∈ segments, Path.isIdle segment = false) :
    (tree.followAll place segments).toOption = none := by
  induction segments with
  | nil => exact absurd busy (by simp)
  | cons segment rest step =>
    rw [List.mem_cons, not_or] at inside
    rw [followAll, List.foldlM_cons]
    cases idle : Path.isIdle segment with
    | true =>
      have stays : tree.follow place segment = .ok place := by
        simp [follow, here, idle]
      have later : ∃ segment ∈ rest, Path.isIdle segment = false := by
        simpa [idle] using busy
      rw [stays]
      exact step inside.2 later
    | false =>
      have lost : tree.follow place segment =
          .error (if Path.isName segment then .missing else .blocked) := by
        cases named : Path.isName segment with
        | true =>
          rw [follow_name here named, bare segment]
          rfl
        | false => simp [follow, here, idle, named, Ne.symm inside.1]
      rw [lost]
      rfl

end Walks

/-- Making a directory changes nothing, or puts an empty directory where a name
leads nowhere. -/
theorem makeDirectory_cases (tree : FileTree) (directory : String) :
    (tree.makeDirectory directory).1 = tree ∨
      ∃ front name place,
        (Path.segments directory).rdropWhile (· = "") = front ++ [name] ∧
        tree.followAll (startOf directory) front = .ok place ∧
        tree.follow place name = .error .missing ∧
        (tree.makeDirectory directory).1 =
          tree.putBelow place name .directory := by
  obtain ⟨segments, cut⟩ : ∃ segments,
      (Path.segments directory).rdropWhile (· = "") = segments := ⟨_, rfl⟩
  rw [cut]
  rw [List.rdropWhile] at cut
  simp only [makeDirectory, cut]
  split
  · exact .inl rfl
  · rcases walk : tree.followAll (startOf directory) segments.dropLast with
      problem | place
    · cases problem <;> exact .inl rfl
    · simp only [bind, Except.bind]
      cases here : tree.isDirectory place with
      | false => exact .inl rfl
      | true =>
        simp only [if_pos]
        rcases entered : tree.follow place (segments.getLast?.getD "") with
          ⟨_ | _⟩ | inside
        · right
          cases last : segments.getLast? with
          | none =>
            rw [last] at entered
            exact absurd (follow_eq_missing entered).2.1 (by decide)
          | some name =>
            rw [last, Option.getD_some] at entered
            exact ⟨_, name, place,
              (List.dropLast_append_getLast? name last).symm, walk, entered,
              rfl⟩
        · exact .inl rfl
        · exact .inl rfl

/-- A walk goes on from where its front leads. -/
theorem followAll_through {tree : FileTree} {start place : List String}
    {front : List String} (walk : tree.followAll start front = .ok place)
    (name : String) (rest : List String) :
    tree.followAll start (front ++ name :: rest) =
      tree.follow place name >>= fun next => tree.followAll next rest := by
  rw [followAll] at walk
  rw [followAll, List.foldlM_append, walk]
  change List.foldlM tree.follow place (name :: rest) = _
  rw [List.foldlM_cons]
  rfl

section Directory

variable {path last : String} {front : List String}
  (ended : Path.segments path = front ++ [last])
  (named : Path.isName last = true) (inside : ".." ∉ front)

include ended

theorem within_of_leads {directory name : String} {above : List String}
    (leads : Path.Leads (Path.isAbsolute path) front directory)
    (cut : (Path.segments directory).rdropWhile (· = "") = above ++ [name]) :
    above ++ [name] <+: front ∧ startOf directory = startOf path := by
  cases leads with
  | nowhere =>
    have none_left : (Path.segments "").rdropWhile (· = "") = [] := by decide
    simp [none_left] at cut
  | root =>
    have none_left : (Path.segments "/").rdropWhile (· = "") = [] := by decide
    simp [none_left] at cut
  | @onward before final within busy =>
    rcases Path.segments_onward ended within busy with ⟨shown, alike⟩
    have visible : ¬ final = "" := by
      rintro rfl
      exact Bool.noConfusion busy
    rw [shown, List.rdropWhile_concat_neg _ _ _ (by simpa using visible)] at cut
    exact ⟨cut ▸ within, by rw [startOf, startOf, alike]⟩

include named inside

/-- What a path leads to is as it was after a directory above it was made. -/
theorem node?_makeDirectory (tree : FileTree) {directory : String}
    (leads : Path.Leads (Path.isAbsolute path) front directory) :
    (tree.makeDirectory directory).1.node? path = tree.node? path := by
  rcases tree.makeDirectory_cases directory with
    same | ⟨above, name, place, cut, walk, missed, made⟩
  · rw [same]
  · rcases follow_eq_missing missed with ⟨here, fits, absent⟩
    rcases within_of_leads ended leads cut with ⟨⟨more, rfl⟩, alike⟩
    rw [alike] at walk
    have segments : Path.segments path = above ++ name :: (more ++ [last]) := by
      rw [ended]
      simp
    -- Before, the walk breaks off at the name, and afterwards behind it.
    have before : tree.node? path = none := by
      refine node?_of_lost fun _ => ?_
      rw [segments, followAll_through walk, missed]
      rfl
    have closed : tree.isDirectory (place ++ [name]) = false := by
      simp [isDirectory, absent]
    rcases followAll_putBelow .directory closed fits here walk with
      ⟨again, still⟩
    rcases exists_level_of_isDirectory here with ⟨level, located⟩
    have met : (tree.putBelow place name .directory).find?
        (place ++ [name]) = some (.directory, nil) :=
      find?_putBelow_self .directory located
    have entered : (tree.putBelow place name .directory).follow place name =
        .ok (place ++ [name]) := by
      rw [follow_name still fits, met]
      rfl
    have after : (tree.putBelow place name .directory).node? path = none := by
      refine node?_of_lost fun _ => ?_
      rw [segments, followAll_through again, entered]
      refine followAll_bare (isDirectory_iff.2 (.inr ?_)) (fun other => ?_) ?_
        ⟨last, by simp, ?_⟩
      · rw [valueAt?, met]
        rfl
      · rw [find?_below (level?_of_find? met) (by simp)]
        rfl
      · simp only [List.mem_append, not_or, List.mem_singleton] at inside ⊢
        exact ⟨inside.2, fun upward => absurd (upward ▸ named) (by decide)⟩
      · exact Path.isIdle_of_isName named
    rw [made, before, after]

end Directory

/-- Writing a file changes nothing of the files beside it. -/
theorem node?_write? {tree later : FileTree} {path other name next : String}
    {front : List String} {content : FileNode}
    (ended : Path.segments path = front ++ [name])
    (ended' : Path.segments other = front ++ [next])
    (named : Path.isName next = true) (apart : next ≠ name)
    (written : tree.write? path content = some later) :
    later.node? other = tree.node? other := by
  rcases write?_eq_some written with ⟨-, above, last, place, split, walk, fits,
    here, closed, rfl⟩
  obtain ⟨rfl, same⟩ := List.append_inj' (split.symm.trans ended) rfl
  obtain rfl := List.singleton_inj.1 same
  have alike : startOf path = startOf other := by
    rw [startOf, startOf, Path.isAbsolute_congr ended ended']
  rw [alike] at walk
  by_cases can : canLead other = true
  · rcases followAll_putBelow content closed fits here walk with
      ⟨again, still⟩
    have beside : ¬ place ++ [last] <+: place ++ [next] := by
      intro within
      have final := List.IsPrefix.eq_of_length within (by simp)
      exact apart (by simpa using final.symm)
    rw [node?_of_front can ended' named again still,
      node?_of_front can ended' named walk here,
      valueAt?_putBelow_of_apart content beside]
  · rw [node?_of_lost fun fits => absurd fits can,
      node?_of_lost fun fits => absurd fits can]

/-- A file tree keeps the texts of files in one directory, unless the path of
this directory leads upwards. -/
theorem keepsTexts {directory : String} {names : List String}
    (inside : ".." ∉ Path.segments directory)
    (named : ∀ name ∈ names, Path.isName name = true ∧ '/' ∉ name.toList) :
    KeepsTexts node? (names.map (Path.join directory)) := by
  rcases Path.exists_segments_join directory with ⟨front, among, joined⟩
  have located : ∀ path ∈ names.map (Path.join directory), ∃ name,
      Path.segments path = front ++ [name] ∧ Path.isName name = true ∧
        path = Path.join directory name := by
    intro path kept
    rcases List.mem_map.1 kept with ⟨name, member, rfl⟩
    exact ⟨name, joined name (named name member).2, (named name member).1, rfl⟩
  have plain : ".." ∉ front := fun member => inside (among ".." member)
  constructor
  · intro path kept
    simp only [bind_node?]
    exact holdsText path
  · intro path kept files
    rw [node?, Option.isSome_map]
    rfl
  · intro path other kept kept' level files
    rcases located path kept with ⟨name, ended, fits, -⟩
    rcases located other kept' with ⟨next, ended', fits', -⟩
    have leads := Path.leads_iterate ended (Path.isIdle_of_isName fits) level
    rw [Path.isAbsolute_congr ended ended'] at leads
    exact node?_makeDirectory ended' fits' plain files leads
  · intro path other kept kept' apart text files
    rcases located path kept with ⟨name, ended, fits, rfl⟩
    rcases located other kept' with ⟨next, ended', fits', rfl⟩
    have different : next ≠ name := by
      rintro rfl
      exact apart rfl
    simp only [MonadFiles.writeText, StateT.run_bind, StateT.run_get]
    cases written : files.write? (Path.join directory name) (.text text) with
    | none => simp only [pure_bind, written]; rfl
    | some later =>
      simp only [pure_bind, written]
      exact node?_write? ended ended' fits' different written

end FileTree

end ModuleAtlas
