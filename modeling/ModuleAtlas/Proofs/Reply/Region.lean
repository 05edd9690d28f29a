import ModuleAtlas.Proofs.Reply

/-!
# The region of a reply

What counts of a reply is the text between the first opening mark and the first
closing mark behind it.  Among all pairs of marks, this one begins leftmost, and
ends first of those that begin there; so it makes no difference whether a reply
is searched for its first marks or matched from the left with the shortest text
between marks.

The region may hold its literal bare or in a code fence.  Whatever the opening
line of the fence says, whether or not the fence is closed, and whichever blanks
stand around, the same text is left for the reader, so that failures and their
offsets are the same as well.  A literal that looks like a fence itself is the
exception.
-/

namespace ModuleAtlas

namespace Reply

open Text (FirstAt)

/-! ## Marks -/

/-- A text with an opening mark and a closing mark behind it. -/
structure Marked (text before region after : List Char) : Prop where
  whole : text = before ++ (openMarker.toList ++ (region ++
    (closeMarker.toList ++ after)))

/-- Of all texts between marks, the one that begins leftmost, and of those that
begin there the shortest. -/
def Leftmost (text region : List Char) : Prop :=
  ∃ before after, Marked text before region after ∧
    (∀ {front other back : List Char}, Marked text front other back →
      before.length ≤ front.length) ∧
    ∀ {other back : List Char}, Marked text before other back →
      region.length ≤ other.length

theorem region?_eq_some_iff {text region : List Char} :
    region? text = some region ↔
      ∃ before inside after, FirstAt openMarker.toList text before inside ∧
        FirstAt closeMarker.toList inside region after := by
  simp only [region?, Option.bind_eq_bind, Option.bind_eq_some_iff,
    Prod.exists, Text.splitAt?_eq_some_iff, Option.some.injEq]
  constructor
  · rintro ⟨before, inside, opened, _, after, closed, rfl⟩
    exact ⟨before, inside, after, opened, closed⟩
  · rintro ⟨before, inside, after, opened, closed⟩
    exact ⟨before, inside, opened, region, after, closed, rfl⟩

/-- There is no region exactly when the first opening mark, if there is any, has
no closing mark behind it. -/
theorem region?_eq_none_iff {text : List Char} :
    region? text = none ↔
      ∀ before inside, FirstAt openMarker.toList text before inside →
        ¬ closeMarker.toList <:+: inside := by
  constructor
  · intro missing before inside opened closes
    obtain ⟨region, after, found⟩ := Text.exists_splitAt? closes
    have marked := region?_eq_some_iff.2 ⟨before, inside, after, opened,
      Text.firstAt_of_splitAt? found⟩
    exact absurd (missing.symm.trans marked) (by simp)
  · intro unclosed
    apply Option.eq_none_iff_forall_ne_some.2
    intro region found
    rcases region?_eq_some_iff.1 found
      with ⟨before, inside, after, opened, closed⟩
    exact unclosed before inside opened closed.infix

/-- The first marks are those of the leftmost and shortest match. -/
theorem leftmost_of_firstAt {text region before inside after : List Char}
    (opened : FirstAt openMarker.toList text before inside)
    (closed : FirstAt closeMarker.toList inside region after) :
    Leftmost text region := by
  refine ⟨before, after, ?_, fun marked => opened.first marked.whole, ?_⟩
  · exact ⟨by rw [opened.whole, closed.whole]⟩
  · intro other back marked
    have same := opened.whole.symm.trans marked.whole
    have behind := List.append_cancel_left (List.append_cancel_left same)
    exact closed.first behind

/-- Marks anywhere leave a closing mark behind the first opening one. -/
theorem closes_of_marked {text front other back before inside : List Char}
    (marked : Marked text front other back)
    (opened : FirstAt openMarker.toList text before inside) :
    closeMarker.toList <:+: inside := by
  have shorter := opened.first marked.whole
  have start : before ++ openMarker.toList <+: text :=
    ⟨inside, by rw [opened.whole, List.append_assoc]⟩
  have start' : front ++ openMarker.toList <+: text :=
    ⟨other ++ (closeMarker.toList ++ back), by
      rw [marked.whole, List.append_assoc]⟩
  have within : before ++ openMarker.toList <+: front ++ openMarker.toList :=
    List.prefix_of_prefix_length_le start start' (by simpa using shorter)
  rcases within with ⟨between, same⟩
  have behind : before ++ openMarker.toList ++ inside =
      before ++ openMarker.toList ++
        (between ++ (other ++ (closeMarker.toList ++ back))) := by
    rw [← List.append_assoc _ between, same, List.append_assoc,
      ← opened.whole, List.append_assoc, ← marked.whole]
  rw [List.append_cancel_left behind]
  exact ⟨between ++ other, back, by simp⟩

theorem Leftmost.unique {text left right : List Char}
    (leftmost : Leftmost text left) (leftmost' : Leftmost text right) :
    left = right := by
  rcases leftmost with ⟨before, after, marked, first, shortest⟩
  rcases leftmost' with ⟨before', after', marked', first', shortest'⟩
  have same := marked.whole.symm.trans marked'.whole
  obtain ⟨rfl, behind⟩ := List.append_inj same
    (Nat.le_antisymm (first marked') (first' marked))
  exact (List.append_inj (List.append_cancel_left behind)
    (Nat.le_antisymm (shortest marked') (shortest' marked))).1

theorem region?_eq_some_iff_leftmost {text region : List Char} :
    region? text = some region ↔ Leftmost text region := by
  constructor
  · intro found
    rcases region?_eq_some_iff.1 found with ⟨_, _, _, opened, closed⟩
    exact leftmost_of_firstAt opened closed
  · intro leftmost
    have leftmost' := leftmost
    rcases leftmost with ⟨front, back, marked, _⟩
    have occurs : openMarker.toList <:+: text :=
      ⟨front, region ++ (closeMarker.toList ++ back), by
        rw [marked.whole, List.append_assoc]⟩
    obtain ⟨before, inside, found⟩ := Text.exists_splitAt? occurs
    have opened := Text.firstAt_of_splitAt? found
    obtain ⟨first, after, found'⟩ :=
      Text.exists_splitAt? (closes_of_marked marked opened)
    have closed := Text.firstAt_of_splitAt? found'
    rw [leftmost'.unique (leftmost_of_firstAt opened closed)]
    exact region?_eq_some_iff.2 ⟨before, inside, after, opened, closed⟩

/-! ## Fences -/

/-- A literal stands in a region bare or behind the opening line of a fence,
which may be closed.  Blanks may stand around all of it. -/
inductive Encloses (literal : List Char) : List Char → Prop where
  | bare {front back : List Char} :
      (∀ c ∈ front, Text.isBlank c = true) →
      (∀ c ∈ back, Text.isBlank c = true) →
      Encloses literal (front ++ (literal ++ back))
  | opened {front tag lead back : List Char} :
      (∀ c ∈ front, Text.isBlank c = true) → '\n' ∉ tag →
      (∀ c ∈ lead, Text.isBlank c = true) →
      (∀ c ∈ back, Text.isBlank c = true) →
      Encloses literal (front ++ (fence.toList ++ (tag ++ '\n' ::
        (lead ++ (literal ++ back)))))
  | closed {front tag lead trail back : List Char} :
      (∀ c ∈ front, Text.isBlank c = true) → '\n' ∉ tag →
      (∀ c ∈ lead, Text.isBlank c = true) →
      (∀ c ∈ trail, Text.isBlank c = true) →
      (∀ c ∈ back, Text.isBlank c = true) →
      Encloses literal (front ++ (fence.toList ++ (tag ++ '\n' ::
        ((lead ++ (literal ++ trail)) ++ (fence.toList ++ back)))))

theorem isBlank_tick : Text.isBlank tick = false := by decide

theorem Encloses.self (literal : List Char) : Encloses literal literal := by
  have bare := @Encloses.bare literal [] [] (by simp) (by simp)
  rwa [List.nil_append, List.append_nil] at bare

/-- Trimming the end of a text trims the end of what is below its first line. -/
theorem below_line_trimEndList {line : List Char} (oneLine : '\n' ∉ line)
    (body : List Char) :
    ((Text.trimEndList (line ++ '\n' :: body)).dropWhile (· ≠ '\n')).drop 1 =
      Text.trimEndList body := by
  have inLine : ∀ c ∈ line, decide (c ≠ '\n') = true :=
    fun c member => decide_eq_true fun same => oneLine (same ▸ member)
  by_cases blank : ∀ c ∈ body, Text.isBlank c = true
  · -- the end of the line is trimmed away with the body
    have newline : Text.isBlank '\n' = true := by decide
    have nothing : (Text.trimEndList line).dropWhile (· ≠ '\n') = [] :=
      List.dropWhile_eq_nil_iff.2 fun c member =>
        inLine c ((Text.trimEndList_prefix line).subset member)
    rw [Text.trimEndList_append_blank line
      (List.forall_mem_cons.2 ⟨newline, blank⟩), nothing,
      Text.trimEndList_blank blank, List.drop_nil]
  · rcases Text.exists_visible blank with ⟨lead, c, rest, rfl, _, visible⟩
    have kept := Text.trimEndList_visible visible (line ++ '\n' :: lead) rest
    rw [List.append_assoc, List.cons_append] at kept
    rw [kept, Text.trimEndList_visible visible, List.append_assoc,
      List.dropWhile_append_of_pos inLine, List.cons_append,
      List.dropWhile_cons_of_neg (by simp)]
    rfl

/-- Behind its opening line, a fence leaves what is below it, without its
closing mark. -/
theorem unfence_opened {front tag : List Char}
    (blankFront : ∀ c ∈ front, Text.isBlank c = true) (oneLine : '\n' ∉ tag)
    (body : List Char) :
    unfence (front ++ (fence.toList ++ (tag ++ '\n' :: body))) =
      Text.trimList ((Text.beforeEnd? fence.toList
        (Text.trimEndList body)).getD (Text.trimEndList body)) := by
  have trimmed : Text.trimList (front ++ (fence.toList ++
      (tag ++ '\n' :: body))) =
      fence.toList ++ Text.trimEndList (tag ++ '\n' :: body) := by
    rw [Text.trimList_blank blankFront, fence_eq, List.cons_append,
      Text.trimList_visible isBlank_tick]
    exact Text.trimEndList_visible isBlank_tick [tick, tick] _
  have opened : Text.afterStart? fence.toList (fence.toList ++
      Text.trimEndList (tag ++ '\n' :: body)) =
      some (Text.trimEndList (tag ++ '\n' :: body)) :=
    Text.afterStart?_eq_some_iff.2 rfl
  simp only [unfence, trimmed, opened, below_line_trimEndList oneLine,
    Text.trimEndList_trimEndList]

/-- A closing mark is still there when blanks are trimmed. -/
theorem fence_suffix_trimList (inside : List Char) :
    fence.toList <:+ Text.trimList (inside ++ fence.toList) := by
  rw [fence_eq]
  have kept (front : List Char) : Text.trimEndList
      (front ++ [tick, tick, tick]) = front ++ [tick, tick, tick] := by
    have last := Text.trimEndList_concat isBlank_tick (front ++ [tick, tick])
    rwa [List.append_assoc] at last
  by_cases blank : ∀ c ∈ inside, Text.isBlank c = true
  · rw [Text.trimList_blank blank, Text.trimList_visible isBlank_tick]
    exact (kept []).symm ▸ List.suffix_refl _
  · rcases Text.exists_visible blank with ⟨lead, c, rest, rfl, blank, visible⟩
    rw [List.append_assoc, Text.trimList_blank blank, List.cons_append,
      Text.trimList_visible visible, ← List.cons_append, kept]
    exact List.suffix_append _ _

section Literals

variable {literal : List Char}
  (unopened : ¬ fence.toList <+: Text.trimList literal)
  (unclosed : ¬ fence.toList <:+ Text.trimList literal)

include unopened unclosed

/-- However a literal is enclosed, it is what is left to be read, without the
blanks around it. -/
theorem Encloses.unfence {region : List Char}
    (encloses : Encloses literal region) :
    unfence region = Text.trimList literal := by
  cases encloses with
  | bare blankFront blankBack =>
    rw [Reply.unfence, Text.trimList_surrounded blankFront literal blankBack,
      Text.afterStart?_eq_none unopened]
  | @opened front tag lead back blankFront oneLine blankLead blankBack =>
    have trimmed : Text.trimList (Text.trimEndList (lead ++
        (literal ++ back))) = Text.trimList literal := by
      rw [Text.trimList_trimEndList,
        Text.trimList_surrounded blankLead literal blankBack]
    have endless : ¬ fence.toList <:+
        Text.trimEndList (lead ++ (literal ++ back)) := by
      rintro ⟨inside, same⟩
      rw [← trimmed, ← same] at unclosed
      exact unclosed (fence_suffix_trimList inside)
    rw [unfence_opened blankFront oneLine,
      Text.beforeEnd?_eq_none endless, Option.getD_none, trimmed]
  | @closed front tag lead trail back blankFront oneLine blankLead blankTrail
      blankBack =>
    rw [unfence_fenced blankFront oneLine _ blankBack,
      Text.trimList_surrounded blankLead literal blankTrail]

theorem Encloses.ofRegion_eq {region : List Char}
    (encloses : Encloses literal region) :
    ofRegion region = ofRegion literal := by
  have same := encloses.unfence unopened unclosed
  rw [← (Encloses.self literal).unfence unopened unclosed] at same
  rw [ofRegion, ofRegion, same]

end Literals

theorem ofText_of_region {text : String} {region : List Char}
    (found : region? text.toList = some region) :
    ofText text = ofRegion region := by
  rw [ofText, found]

/-- A reply is read by its region alone, which is the text between the first
opening mark and the first closing mark behind it.  Literals that do not look
like fences are read alike in every frame. -/
theorem region_decides :
    (∀ text region, region? text = some region ↔
      ∃ before inside after, FirstAt openMarker.toList text before inside ∧
        FirstAt closeMarker.toList inside region after) ∧
    (∀ text region, region? text = some region ↔ Leftmost text region) ∧
    (∀ text, region? text = none ↔
      ∀ before inside, FirstAt openMarker.toList text before inside →
        ¬ closeMarker.toList <:+: inside) ∧
    (∀ left right : String, region? left.toList = region? right.toList →
      ofText left = ofText right) ∧
    ∀ literal, ¬ fence.toList <+: Text.trimList literal →
      ¬ fence.toList <:+ Text.trimList literal →
      (∀ region, Encloses literal region →
        ofRegion region = ofRegion literal) ∧
      ∀ (left right : String) (region region' : List Char),
        region? left.toList = some region →
        region? right.toList = some region' →
        Encloses literal region → Encloses literal region' →
        ofText left = ofText right := by
  refine ⟨fun text region => region?_eq_some_iff,
    fun text region => region?_eq_some_iff_leftmost,
    fun text => region?_eq_none_iff, ?_, ?_⟩
  · intro left right same
    rw [ofText, ofText, same]
  · intro literal unopened unclosed
    refine ⟨fun region encloses => encloses.ofRegion_eq unopened unclosed, ?_⟩
    intro left right region region' found found' encloses encloses'
    rw [ofText_of_region found, ofText_of_region found',
      encloses.ofRegion_eq unopened unclosed,
      encloses'.ofRegion_eq unopened unclosed]

namespace Sample

/-- Something that is no literal, between marks. -/
def bareReply : String := openMarker ++ "?" ++ closeMarker

/-- The same in a fence that is not closed, between other marks. -/
def fencedReply : String :=
  closeMarker ++ openMarker ++ " " ++ fence ++ "py <\n ?\n" ++ closeMarker
    ++ bareReply

end Sample

/-- A failure and its offset are the same in an open fence. -/
theorem region_decides_fenced :
    ¬ fence.toList <+: Text.trimList ['?'] ∧
    ¬ fence.toList <:+ Text.trimList ['?'] ∧
    region? Sample.bareReply.toList = some ['?'] ∧
    region? Sample.fencedReply.toList =
      some (' ' :: (fence.toList ++ "py <\n ?\n".toList)) ∧
    region? ("?" ++ Sample.bareReply).toList = some ['?'] ∧
    ofText Sample.fencedReply = ofText Sample.bareReply ∧
    ofText ("?" ++ Sample.bareReply) = ofText Sample.bareReply ∧
    ofText Sample.bareReply =
      .malformed (.literal (.unexpected '?' 0)) := by
  have unopened : ¬ fence.toList <+: Text.trimList ['?'] := by decide
  have unclosed : ¬ fence.toList <:+ Text.trimList ['?'] := by decide
  have bare : region? Sample.bareReply.toList = some ['?'] := by decide
  have fenced : region? Sample.fencedReply.toList =
      some (' ' :: (fence.toList ++ "py <\n ?\n".toList)) := by decide
  have behind : region? ("?" ++ Sample.bareReply).toList = some ['?'] := by
    decide
  have space : ∀ c ∈ [' '], Text.isBlank c = true :=
    List.forall_mem_singleton.2 (by decide)
  have newline : ∀ c ∈ ['\n'], Text.isBlank c = true :=
    List.forall_mem_singleton.2 (by decide)
  have encloses : Encloses ['?']
      (' ' :: (fence.toList ++ "py <\n ?\n".toList)) :=
    @Encloses.opened ['?'] [' '] "py <".toList [' '] ['\n'] space (by decide)
      space newline
  obtain ⟨_, _, _, regions, frames⟩ := region_decides
  refine ⟨unopened, unclosed, bare, fenced, behind, ?_, ?_, rfl⟩
  · exact (frames ['?'] unopened unclosed).2 _ _ _ _ fenced bare encloses
      (Encloses.self ['?'])
  · exact regions _ _ (behind.trans bare.symm)

end Reply

end ModuleAtlas
