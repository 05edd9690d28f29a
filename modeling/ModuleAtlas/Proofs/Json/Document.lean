import ModuleAtlas.Json.Written
import ModuleAtlas.Proofs.Json.Tokens

/-!
# Documents and their tokens

A document that is built from tokens uses all of them: its tokens, written out
again, are those it was built from.  Lists and records are written alike, as
parts with a comma between two of them.
-/

namespace ModuleAtlas.Json

/-- Parts with a comma between two of them, and a mark that closes them. -/
def enclosed (close : Token) : List (List Token) → List Token
  | [] => [close]
  | [part] => part ++ [close]
  | part :: other :: parts =>
    part ++ .comma :: enclosed close (other :: parts)

theorem enclosed_cons {close : Token} {parts : List (List Token)}
    (others : parts ≠ []) (part : List Token) :
    enclosed close (part :: parts) =
      part ++ .comma :: enclosed close parts := by
  cases parts with
  | nil => exact absurd rfl others
  | cons => rfl

theorem any_enclosed {test : Token → Bool} {close : Token}
    (comma : test .comma = false) (closes : test close = false)
    (parts : List (List Token)) :
    (enclosed close parts).any test = parts.any (·.any test) := by
  fun_induction enclosed close parts with
  | case1 => simp [closes]
  | case2 part => simp [closes]
  | case3 part other parts step => simp [comma, step]

namespace Written

mutual

/-- The tokens of a document. -/
def tokens : Written → List Token
  | .null => [.null]
  | .bool value => [.bool value]
  | .number spelling => [.number spelling]
  | .known _ => []
  | .text pieces => [.text pieces]
  | .list items => .openList :: enclosed .closeList (itemTokens items)
  | .record fields =>
    .openRecord :: enclosed .closeRecord (fieldTokens fields)

/-- The tokens of each item of a list. -/
def itemTokens : List Written → List (List Token)
  | [] => []
  | item :: rest => tokens item :: itemTokens rest

/-- The tokens of each field of a record. -/
def fieldTokens : List (List Piece × Written) → List (List Token)
  | [] => []
  | (name, value) :: rest =>
    (.text name :: .colon :: tokens value) :: fieldTokens rest

end

mutual

/-- How many containers a document nests. -/
def depth : Written → Nat
  | .null | .bool _ | .number _ | .known _ | .text _ => 0
  | .list items => itemsDepth items + 1
  | .record fields => fieldsDepth fields + 1

/-- How many containers the items of a list nest. -/
def itemsDepth : List Written → Nat
  | [] => 0
  | item :: rest => max (depth item) (itemsDepth rest)

/-- How many containers the fields of a record nest. -/
def fieldsDepth : List (List Piece × Written) → Nat
  | [] => 0
  | (_, value) :: rest => max (depth value) (fieldsDepth rest)

end

@[simp]
theorem itemTokens_eq_map (items : List Written) :
    itemTokens items = items.map tokens := by
  induction items with
  | nil => rfl
  | cons item rest step => rw [itemTokens, step, List.map_cons]

@[simp]
theorem fieldTokens_eq_map (fields : List (List Piece × Written)) :
    fieldTokens fields =
      fields.map fun field => .text field.1 :: .colon :: field.2.tokens := by
  induction fields with
  | nil => rfl
  | cons field rest step => rw [fieldTokens, step, List.map_cons]

theorem depth_le_itemsDepth {items : List Written} {item : Written}
    (member : item ∈ items) : item.depth ≤ itemsDepth items := by
  induction items with
  | nil => exact absurd member (by simp)
  | cons first rest step =>
    rcases List.mem_cons.mp member with rfl | member
    · exact Nat.le_max_left _ _
    · exact (step member).trans (Nat.le_max_right _ _)

theorem depth_le_fieldsDepth {fields : List (List Piece × Written)}
    {field : List Piece × Written} (member : field ∈ fields) :
    field.2.depth ≤ fieldsDepth fields := by
  induction fields with
  | nil => exact absurd member (by simp)
  | cons first rest step =>
    rcases List.mem_cons.mp member with rfl | member
    · exact Nat.le_max_left _ _
    · exact (step member).trans (Nat.le_max_right _ _)

/-! ## Building -/

mutual

theorem tokens_of_build {steps : Nat} {marks rest : List Token}
    {document : Written} (built : build steps marks = some (document, rest)) :
    marks = document.tokens ++ rest := by
  cases steps with
  | zero => exact absurd built (by simp [build])
  | succ steps =>
    cases marks with
    | nil => exact absurd built (by simp [build])
    | cons mark behind =>
      cases mark with
      | null | bool | number | text =>
        obtain ⟨rfl, rfl⟩ := Prod.mk.inj (Option.some.inj built)
        rfl
      | closeList | closeRecord | comma | colon =>
        exact absurd built (by simp [build])
      | openList =>
        simp only [build] at built
        split at built
        · obtain ⟨rfl, rfl⟩ := Prod.mk.inj (Option.some.inj built)
          rfl
        · rcases Option.map_eq_some_iff.mp built with
            ⟨⟨items, after⟩, inside, same⟩
          obtain ⟨rfl, rfl⟩ := Prod.mk.inj same
          rw [(tokens_of_buildItems inside).2]
          rfl
      | openRecord =>
        simp only [build] at built
        split at built
        · obtain ⟨rfl, rfl⟩ := Prod.mk.inj (Option.some.inj built)
          rfl
        · rcases Option.map_eq_some_iff.mp built with
            ⟨⟨fields, after⟩, inside, same⟩
          obtain ⟨rfl, rfl⟩ := Prod.mk.inj same
          rw [(tokens_of_buildFields inside).2]
          rfl

theorem tokens_of_buildItems {steps : Nat} {marks rest : List Token}
    {items : List Written}
    (built : buildItems steps marks = some (items, rest)) :
    items ≠ [] ∧
      marks = enclosed .closeList (itemTokens items) ++ rest := by
  cases steps with
  | zero => exact absurd built (by simp [buildItems])
  | succ steps =>
    simp only [buildItems] at built
    split at built
    · exact absurd built (by simp)
    · next item behind first =>
      obtain ⟨rfl, rfl⟩ := Prod.mk.inj (Option.some.inj built)
      refine ⟨by simp, ?_⟩
      rw [tokens_of_build first]
      simp [itemTokens, enclosed]
    · next item behind first =>
      rcases Option.map_eq_some_iff.mp built with
        ⟨⟨others, after⟩, further, same⟩
      obtain ⟨rfl, rfl⟩ := Prod.mk.inj same
      obtain ⟨nonempty, split⟩ := tokens_of_buildItems further
      refine ⟨by simp, ?_⟩
      rw [tokens_of_build first, split, itemTokens,
        enclosed_cons (by simpa using nonempty)]
      simp
    · exact absurd built (by simp)

theorem tokens_of_buildFields {steps : Nat} {marks rest : List Token}
    {fields : List (List Piece × Written)}
    (built : buildFields steps marks = some (fields, rest)) :
    fields ≠ [] ∧
      marks = enclosed .closeRecord (fieldTokens fields) ++ rest := by
  cases steps with
  | zero => exact absurd built (by simp [buildFields])
  | succ steps =>
    unfold buildFields at built
    split at built
    · exact absurd built (by simp)
    · split at built
      · exact absurd built (by simp)
      · next value behind first =>
        obtain ⟨rfl, rfl⟩ := Prod.mk.inj (Option.some.inj built)
        refine ⟨by simp, ?_⟩
        rw [tokens_of_build first]
        simp [fieldTokens, enclosed]
      · next value behind first =>
        rcases Option.map_eq_some_iff.mp built with
          ⟨⟨others, after⟩, further, same⟩
        obtain ⟨rfl, rfl⟩ := Prod.mk.inj same
        obtain ⟨nonempty, split⟩ := tokens_of_buildFields further
        refine ⟨by simp, ?_⟩
        rw [tokens_of_build first, split, fieldTokens,
          enclosed_cons (by simpa using nonempty)]
        simp
      · exact absurd built (by simp)
    · exact absurd built (by simp)

end

theorem tokens_of_ofTokens? {marks : List Token} {document : Written}
    (built : ofTokens? marks = some document) : marks = document.tokens := by
  unfold ofTokens? at built
  split at built
  · next found =>
    obtain rfl := Option.some.inj built
    rw [tokens_of_build found, List.append_nil]
  · exact absurd built (by simp)

/-- The text of a document is cut into the tokens of the document. -/
theorem cuts_of_ofText? {text : String} {document : Written}
    (built : ofText? text = some document) :
    Cuts text.toList document.tokens := by
  rcases Option.bind_eq_some_iff.mp built with ⟨marks, cut, built⟩
  rw [← tokens_of_ofTokens? built]
  exact cuts_of_tokens? cut

end Written

end ModuleAtlas.Json
