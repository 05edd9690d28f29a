import Mathlib.Data.List.DropRight
import Mathlib.Data.List.Infix
import ModuleAtlas.Text.Blank
import ModuleAtlas.Text.Search

/-!
# Texts found in texts, and trimmed texts

A character that a mark does not have is a wall: the mark occurs on one of its
sides or not at all.  A mark whose first character it has only once is such that
no occurrence overlaps another, so its first occurrence behind a text without it
stands where that text ends.  Every mark that occurs in a text has one first
occurrence there, and the text is split around this one.  Trimming goes no
further than the outermost visible characters, and leaves the same of a text
whatever blanks stand around it.
-/

namespace ModuleAtlas.Text

/-! ## Occurrences -/

section Walls

variable {mark front back : List Char} {c : Char} (wall : c ∉ mark)

include wall

theorem prefix_of_wall (start : mark <+: front ++ c :: back) :
    mark <+: front := by
  induction front generalizing mark with
  | nil =>
    cases mark with
    | nil => exact List.nil_prefix
    | cons d mark =>
      obtain ⟨rfl, _⟩ := List.cons_prefix_cons.mp start
      exact absurd List.mem_cons_self wall
  | cons d front step =>
    cases mark with
    | nil => exact List.nil_prefix
    | cons e mark =>
      obtain ⟨rfl, further⟩ := List.cons_prefix_cons.mp start
      rw [List.mem_cons, not_or] at wall
      exact List.cons_prefix_cons.mpr ⟨rfl, step wall.2 further⟩

theorem infix_of_wall (occurs : mark <:+: front ++ c :: back) :
    mark <:+: front ∨ mark <:+: back := by
  induction front with
  | nil =>
    rcases List.infix_cons_iff.mp occurs with start | occurs
    · exact .inl (prefix_of_wall wall start).isInfix
    · exact .inr occurs
  | cons d front step =>
    rcases List.infix_cons_iff.mp occurs with start | occurs
    · have start : mark <+: (d :: front) ++ c :: back := start
      exact .inl (prefix_of_wall wall start).isInfix
    · exact (step occurs).imp_left List.infix_cons

theorem absent_wall (inFront : ¬ mark <:+: front) (inBack : ¬ mark <:+: back) :
    ¬ mark <:+: front ++ c :: back :=
  fun occurs => (infix_of_wall wall occurs).elim inFront inBack

end Walls

theorem absent_of_mem {mark text : List Char} {c : Char} (member : c ∈ mark)
    (missing : c ∉ text) : ¬ mark <:+: text :=
  fun occurs => missing (occurs.subset member)

/-! ## Beginnings and ends -/

theorem afterStart?_eq_some_iff {start text after : List Char} :
    afterStart? start text = some after ↔ text = start ++ after := by
  induction start generalizing text with
  | nil => simp [afterStart?, eq_comm]
  | cons c start step =>
    cases text with
    | nil => simp [afterStart?]
    | cons d text =>
      by_cases same : c = d
      · simp [afterStart?, same, step]
      · simp [afterStart?, same, Ne.symm same]

theorem afterStart?_eq_none {start text : List Char}
    (other : ¬ start <+: text) : afterStart? start text = none := by
  cases found : afterStart? start text with
  | none => rfl
  | some after =>
    rw [afterStart?_eq_some_iff] at found
    exact absurd ⟨after, found.symm⟩ other

theorem beforeEnd?_append (before final : List Char) :
    beforeEnd? final (before ++ final) = some before := by
  have start : afterStart? final.reverse (before ++ final).reverse =
      some before.reverse := by
    rw [afterStart?_eq_some_iff, List.reverse_append]
  rw [beforeEnd?, start, Option.map_some, List.reverse_reverse]

/-- A mark that a text does not have is first found behind the text, when the
mark has its first character only once. -/
theorem splitAt?_absent {c : Char} {tail before : List Char}
    (once : c ∉ tail) (absent : ¬ (c :: tail) <:+: before)
    (after : List Char) :
    splitAt? (c :: tail) (before ++ (c :: tail ++ after)) =
      some (before, after) := by
  induction before with
  | nil =>
    have found : afterStart? (c :: tail) (c :: (tail ++ after)) =
        some after := afterStart?_eq_some_iff.mpr rfl
    rw [List.nil_append, List.cons_append, splitAt?, found]
  | cons d before step =>
    have missing : afterStart? (c :: tail)
        (d :: (before ++ (c :: tail ++ after))) = none := by
      apply afterStart?_eq_none
      intro start
      obtain ⟨rfl, further⟩ := List.cons_prefix_cons.mp start
      -- the start of the mark itself is a wall to the rest of this occurrence
      have inside : tail <+: before := prefix_of_wall once further
      exact absent (List.cons_prefix_cons.mpr ⟨rfl, inside⟩).isInfix
    rw [List.cons_append, splitAt?, missing,
      step fun occurs => absent (List.infix_cons occurs)]
    rfl

theorem beforeEnd?_eq_none {final text : List Char}
    (other : ¬ final <:+ text) : beforeEnd? final text = none := by
  rw [beforeEnd?, afterStart?_eq_none fun start =>
    other (List.reverse_prefix.mp start)]
  rfl

/-! ## First occurrences -/

/-- A text in front of and behind the first occurrence of a part. -/
structure FirstAt (part text before after : List Char) : Prop where
  whole : text = before ++ (part ++ after)
  first : ∀ {front back : List Char}, text = front ++ (part ++ back) →
    before.length ≤ front.length

section FirstAt

variable {part text before after : List Char}

theorem FirstAt.infix (first : FirstAt part text before after) :
    part <:+: text :=
  ⟨before, after, by rw [first.whole, List.append_assoc]⟩

theorem FirstAt.unique (left : FirstAt part text before after)
    {before' after' : List Char} (right : FirstAt part text before' after') :
    before = before' ∧ after = after' := by
  have same := left.whole.symm.trans right.whole
  have length := Nat.le_antisymm (left.first right.whole)
    (right.first left.whole)
  obtain ⟨rfl, behind⟩ := List.append_inj same length
  exact ⟨rfl, List.append_cancel_left behind⟩

theorem firstAt_of_splitAt?
    (found : splitAt? part text = some (before, after)) :
    FirstAt part text before after := by
  induction text generalizing before with
  | nil =>
    rw [splitAt?, Option.map_eq_some_iff] at found
    rcases found with ⟨rest, start, same⟩
    obtain ⟨rfl, rfl⟩ := Prod.mk.inj same
    have whole : [] = part ++ rest := afterStart?_eq_some_iff.mp start
    exact ⟨whole, fun _ => Nat.zero_le _⟩
  | cons c text step =>
    rw [splitAt?] at found
    split at found
    · next rest start =>
      obtain ⟨rfl, rfl⟩ := Prod.mk.inj (Option.some.inj found)
      have whole : c :: text = part ++ rest := afterStart?_eq_some_iff.mp start
      exact ⟨whole, fun _ => Nat.zero_le _⟩
    · next missing =>
      rw [Option.map_eq_some_iff] at found
      rcases found with ⟨⟨inner, rest⟩, found, same⟩
      obtain ⟨rfl, rfl⟩ := Prod.mk.inj same
      obtain ⟨whole, first⟩ := step found
      refine ⟨by rw [whole]; rfl, fun {front back} other => ?_⟩
      cases front with
      | nil =>
        have start : c :: text = part ++ back := other
        rw [afterStart?_eq_some_iff.mpr start] at missing
        exact absurd missing (by simp)
      | cons d front =>
        exact Nat.succ_le_succ (first (List.cons.inj other).2)

theorem exists_splitAt? (occurs : part <:+: text) :
    ∃ before after, splitAt? part text = some (before, after) := by
  induction text with
  | nil =>
    obtain rfl := List.infix_nil.mp occurs
    exact ⟨[], [], rfl⟩
  | cons c text step =>
    rw [splitAt?]
    cases start : afterStart? part (c :: text) with
    | some rest => exact ⟨[], rest, rfl⟩
    | none =>
      rcases List.infix_cons_iff.mp occurs with ⟨rest, here⟩ | later
      · rw [afterStart?_eq_some_iff.mpr here.symm] at start
        exact absurd start (by simp)
      · rcases step later with ⟨inner, rest, found⟩
        exact ⟨c :: inner, rest, by simp [found]⟩

theorem splitAt?_eq_some_iff :
    splitAt? part text = some (before, after) ↔
      FirstAt part text before after := by
  refine ⟨firstAt_of_splitAt?, fun first => ?_⟩
  rcases exists_splitAt? first.infix with ⟨before', after', found⟩
  obtain ⟨rfl, rfl⟩ := first.unique (firstAt_of_splitAt? found)
  exact found

end FirstAt

/-! ## Trimming -/

theorem trimEndList_prefix (text : List Char) : trimEndList text <+: text :=
  List.rdropWhile_prefix isBlank text

theorem trimEndList_visible {c : Char} (visible : isBlank c = false)
    (front back : List Char) :
    trimEndList (front ++ c :: back) = front ++ c :: trimEndList back := by
  have reversed : (front ++ c :: back).reverse =
      back.reverse ++ c :: front.reverse := by simp
  rw [trimEndList, reversed, List.dropWhile_append]
  split
  · next blank =>
    rw [List.dropWhile_cons_of_neg (by simp [visible]), trimEndList,
      List.isEmpty_iff.mp blank]
    simp
  · simp [trimEndList]

theorem trimEndList_concat {c : Char} (visible : isBlank c = false)
    (front : List Char) : trimEndList (front ++ [c]) = front ++ [c] :=
  List.rdropWhile_concat_neg isBlank front c (by simp [visible])

theorem trimEndList_blank {back : List Char}
    (blank : ∀ c ∈ back, isBlank c = true) : trimEndList back = [] :=
  List.rdropWhile_eq_nil_iff.mpr blank

theorem trimList_blank {front : List Char}
    (blank : ∀ c ∈ front, isBlank c = true) (text : List Char) :
    trimList (front ++ text) = trimList text := by
  rw [trimList, trimList, List.dropWhile_append_of_pos blank]

theorem trimList_visible {c : Char} (visible : isBlank c = false)
    (text : List Char) : trimList (c :: text) = trimEndList (c :: text) := by
  rw [trimList, List.dropWhile_cons_of_neg (by simp [visible])]

theorem trimEndList_append_blank (text : List Char) {back : List Char}
    (blank : ∀ c ∈ back, isBlank c = true) :
    trimEndList (text ++ back) = trimEndList text := by
  have reversed : ∀ c ∈ back.reverse, isBlank c = true :=
    fun c member => blank c (List.mem_reverse.mp member)
  rw [trimEndList, trimEndList, List.reverse_append,
    List.dropWhile_append_of_pos reversed]

/-- A text that is not all blank has a first visible character. -/
theorem exists_visible {text : List Char}
    (visible : ¬ ∀ c ∈ text, isBlank c = true) :
    ∃ front c back, text = front ++ c :: back ∧
      (∀ c ∈ front, isBlank c = true) ∧ isBlank c = false := by
  induction text with
  | nil => exact absurd (fun c absent => absurd absent List.not_mem_nil) visible
  | cons c text step =>
    cases first : isBlank c with
    | false => exact ⟨[], c, text, rfl, by simp, first⟩
    | true =>
      rw [List.forall_mem_cons, not_and] at visible
      rcases step (visible first) with ⟨front, d, back, rfl, blank, seen⟩
      exact ⟨c :: front, d, back, rfl, List.forall_mem_cons.mpr ⟨first, blank⟩,
        seen⟩

theorem trimList_eq_nil {text : List Char}
    (blank : ∀ c ∈ text, isBlank c = true) : trimList text = [] := by
  have bare := trimList_blank blank []
  rwa [List.append_nil] at bare

/-- Blanks around a text are trimmed away. -/
theorem trimList_surrounded {front back : List Char}
    (blankFront : ∀ c ∈ front, isBlank c = true) (text : List Char)
    (blankBack : ∀ c ∈ back, isBlank c = true) :
    trimList (front ++ (text ++ back)) = trimList text := by
  rw [trimList_blank blankFront]
  by_cases blank : ∀ c ∈ text, isBlank c = true
  · rw [trimList_blank blank, trimList_eq_nil blankBack, trimList_eq_nil blank]
  · rcases exists_visible blank with ⟨lead, c, rest, rfl, blankLead, visible⟩
    rw [List.append_assoc, trimList_blank blankLead, trimList_blank blankLead,
      List.cons_append, trimList_visible visible, trimList_visible visible,
      ← List.cons_append, trimEndList_append_blank _ blankBack]

theorem exists_trimmedEnd (text : List Char) :
    ∃ back, (∀ c ∈ back, isBlank c = true) ∧
      text = trimEndList text ++ back := by
  refine ⟨(text.reverse.takeWhile isBlank).reverse, ?_, ?_⟩
  · intro c member
    exact (List.mem_takeWhile_imp (List.mem_reverse.mp member))
  · rw [trimEndList, ← List.reverse_append, List.takeWhile_append_dropWhile,
      List.reverse_reverse]

theorem trimList_trimEndList (text : List Char) :
    trimList (trimEndList text) = trimList text := by
  rcases exists_trimmedEnd text with ⟨back, blank, whole⟩
  have nothing : ∀ c ∈ ([] : List Char), isBlank c = true := by simp
  have around := trimList_surrounded nothing (trimEndList text) blank
  rwa [List.nil_append, ← whole, eq_comm] at around

theorem trimEndList_trimEndList (text : List Char) :
    trimEndList (trimEndList text) = trimEndList text := by
  rcases exists_trimmedEnd text with ⟨back, blank, whole⟩
  have trimmed := trimEndList_append_blank (trimEndList text) blank
  rwa [← whole, eq_comm] at trimmed

theorem trimList_trimList (text : List Char) :
    trimList (trimList text) = trimList text := by
  by_cases blank : ∀ c ∈ text, isBlank c = true
  · rw [trimList_eq_nil blank, trimList_nil]
  · rcases exists_visible blank with ⟨lead, c, rest, rfl, blankLead, visible⟩
    rw [trimList_blank blankLead, trimList_visible visible,
      trimList_trimEndList, trimList_visible visible]

/-- Trimming a text again changes nothing. -/
theorem trim_trim (text : String) : trim (trim text) = trim text := by
  rw [trim, trim, String.toList_ofList, trimList_trimList]

/-! ## Texts around a visible character -/

theorem length_trimEndList_le (text : List Char) :
    (trimEndList text).length ≤ text.length := by
  have start : trimEndList text <+: text := trimEndList_prefix text
  exact start.length_le

theorem length_trimList_le (text : List Char) :
    (trimList text).length ≤ text.length :=
  (length_trimEndList_le _).trans (List.dropWhile_suffix _).length_le

/-- A visible character keeps the blanks in front of it apart from those
behind it. -/
theorem trimList_append_visible {c : Char} (visible : isBlank c = false)
    (front back : List Char) :
    trimList (front ++ c :: back) =
      front.dropWhile isBlank ++ c :: trimEndList back := by
  have kept : (front ++ c :: back).dropWhile isBlank =
      front.dropWhile isBlank ++ c :: back := by
    rw [List.dropWhile_append]
    split
    · next blank =>
      rw [List.isEmpty_iff.mp blank,
        List.dropWhile_cons_of_neg (by simp [visible]), List.nil_append]
    · rfl
  rw [trimList, kept, trimEndList_visible visible]

theorem dropWhile_blank_eq_self {text : List Char} :
    text.dropWhile isBlank = text ↔
      ∀ c ∈ text.head?, isBlank c = false := by
  rw [List.dropWhile_eq_self_iff]
  cases text <;> simp

theorem trimEndList_eq_self {text : List Char} :
    trimEndList text = text ↔ ∀ c ∈ text.getLast?, isBlank c = false := by
  rw [trimEndList, ← List.rdropWhile, List.rdropWhile_eq_self_iff]
  rcases List.eq_nil_or_concat text with rfl | ⟨front, last, rfl⟩ <;> simp

/-- A text around a visible character is trimmed already when no blank begins
what is in front of it, and none ends what is behind it. -/
theorem trimList_append_visible_eq_self {c : Char}
    (visible : isBlank c = false) (front back : List Char) :
    trimList (front ++ c :: back) = front ++ c :: back ↔
      (∀ d ∈ front.head?, isBlank d = false) ∧
        ∀ d ∈ back.getLast?, isBlank d = false := by
  rw [trimList_append_visible visible, ← dropWhile_blank_eq_self,
    ← trimEndList_eq_self]
  constructor
  · intro same
    have shorter : (front.dropWhile isBlank).length ≤ front.length :=
      (List.dropWhile_suffix _).length_le
    have shorter' := length_trimEndList_le back
    have total := congrArg List.length same
    simp only [List.length_append, List.length_cons] at total
    obtain ⟨before, behind⟩ := List.append_inj same (by omega)
    exact ⟨before, (List.cons.inj behind).2⟩
  · rintro ⟨before, behind⟩
    rw [before, behind]

end ModuleAtlas.Text
