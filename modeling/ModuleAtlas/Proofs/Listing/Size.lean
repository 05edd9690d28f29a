import Mathlib.Algebra.Order.BigOperators.Group.List
import Mathlib.Algebra.Order.Group.Nat
import ModuleAtlas.Clustering.Run
import ModuleAtlas.Proofs.Listing.Sections
import ModuleAtlas.Tokens

/-!
# The size of a listing

The text with code is as long as its lines with their code are together.  A
listing of fewer known candidates has fewer lines: some ids are missing, and
with the last id of a file the line of the file.  No line becomes longer, so the
text with code does not either, and neither does its estimate in tokens, whatever
the width of a token is.  What is in a set that fits the budget fits it as well.
-/

namespace ModuleAtlas

/-- A longer text has no smaller estimate. -/
theorem estimateTokens_mono (charsPerToken : Nat) {left right : String}
    (shorter : left.length ≤ right.length) :
    estimateTokens charsPerToken left ≤ estimateTokens charsPerToken right :=
  Nat.div_le_div_right (Nat.add_le_add_right shorter _)

namespace Listing

variable {components : Keyed Component} {left right : List String}

/-- The characters of a line together with its code. -/
def Line.size (components : Keyed Component) (line : Line) : Nat :=
  (line.text ++ line.code components).length

theorem length_withCode (candidates : List String) :
    (ofCandidates components candidates).withCode.length =
      ((lines (sections components candidates)).map
        (Line.size components)).sum := by
  rw [withCode_eq, String.length_join, List.map_map]
  rfl

section

variable (within : ∀ id ∈ left, components.contains id = true → id ∈ right)

include within

theorem Line.Names.mono {line : Line}
    (names : line.Names components left) : line.Names components right := by
  cases line with
  | file path =>
    rcases names with ⟨id, member, here⟩
    exact ⟨id, within id member (exists_fileOf?_iff.1 ⟨path, here⟩), here⟩
  | member id => exact ⟨within id names.1 names.2, names.2⟩

/-- Fewer known candidates have fewer lines. -/
theorem lines_subperm :
    (lines (sections components left)).Subperm
      (lines (sections components right)) := by
  apply (sectioned_sections components left).lines_nodup.subperm
  intro line member
  rw [(sectioned_sections components right).mem_lines]
  exact ((sectioned_sections components left).mem_lines.1 member).mono within

theorem length_withCode_le :
    (ofCandidates components left).withCode.length ≤
      (ofCandidates components right).withCode.length := by
  rcases lines_subperm within with ⟨kept, same, part⟩
  calc (ofCandidates components left).withCode.length
      = (kept.map (Line.size components)).sum := by
        rw [length_withCode, (same.map _).sum_eq]
    _ ≤ ((lines (sections components right)).map
          (Line.size components)).sum :=
        (part.map _).sum_le_sum fun _ _ => Nat.zero_le _
    _ = (ofCandidates components right).withCode.length :=
        (length_withCode right).symm

/-- Fewer known candidates have no larger estimate.  Where the larger set fits a
budget, the smaller one does too, and nobody is asked about it. -/
theorem estimate_withCode_le (charsPerToken : Nat) :
    estimateTokens charsPerToken (ofCandidates components left).withCode ≤
      estimateTokens charsPerToken
        (ofCandidates components right).withCode ∧
    ∀ rules : ClusterRules, rules.components = components →
      rules.count = estimateTokens charsPerToken →
      rules.fits (rules.listing right) = true →
      rules.fits (rules.listing left) = true ∧
        ∀ (path : List String) (state : ClusterState),
          (state.prepare rules ⟨path, left⟩).2 = none := by
  have less := estimateTokens_mono charsPerToken (length_withCode_le within)
  refine ⟨less, ?_⟩
  rintro rules rfl estimated fits
  have small : rules.fits (rules.listing left) = true := by
    rw [ClusterRules.fits, estimated, decide_eq_true_iff] at fits ⊢
    exact less.trans fits
  refine ⟨small, fun path state => ?_⟩
  simp only [ClusterState.prepare, small, if_true]

end

namespace Sample

/-- Five characters to a token, and a budget that two functions of one file fit
exactly. -/
def rules : ClusterRules where
  components := functions
  count := estimateTokens 5
  budget := 6
  excerptChars := 200

end Sample

/-- Two of three functions in another order, with an id that is not known. -/
theorem estimate_withCode_le_part :
    (∀ id ∈ ["ghost", "c"], Sample.functions.contains id = true →
      id ∈ ["b", "c"]) ∧
    Sample.rules.fits (Sample.rules.listing ["b", "c"]) = true ∧
    Sample.rules.fits (Sample.rules.listing ["ghost", "c"]) = true := by
  have within : ∀ id ∈ ["ghost", "c"], Sample.functions.contains id = true →
      id ∈ ["b", "c"] := by decide
  have fits : Sample.rules.fits (Sample.rules.listing ["b", "c"]) = true := by
    decide
  exact ⟨within, fits, ((estimate_withCode_le within 5).2 Sample.rules rfl rfl
    fits).1⟩

end Listing

end ModuleAtlas
