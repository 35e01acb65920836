import Mathlib
import Affinity.Proofs.Comparison.Closeness

/-!
# The two sides exchanged

What two repositories have in common does not depend on which of them is the reference. Exchanging
them negates what the candidate falls short of and exchanges the languages that one of them lacks;
the base, the overlap and the factor for complexity stay as they are. The other factors look at one
side only, and of the two penalties for anti-patterns at most one is felt.

* `CategoryComparison.swap`, `LanguageOverlap.swap` — a part of a comparison seen from the other
  side.
* `LanguageOverlap.ofProfiles_comm`, `Comparison.categoriesOf_comm`, `Comparison.baseOf_comm` — the
  parts of the comparison of two profiles.
* `Comparison.Mirrored`, `Comparison.ofProfiles_mirrored` — the two comparisons of two repositories.
-/

namespace Affinity

open Scalar

variable {K : Type} [ExactScalar K]

/-! ## Categories -/

theorem correlation_comm (a b : K) : correlation a b = correlation b a := by
  rw [correlation_eq, correlation_eq, min_comm, max_comm]

theorem similarity_comm (a b : K) : similarity a b = similarity b a := by
  unfold similarity
  rw [magnitude_eq_abs, magnitude_eq_abs, abs_sub_comm]

namespace CategoryComparison

/-- A category seen from the other side: the scores are exchanged, and who fell short is ahead. -/
def swap (c : CategoryComparison K) : CategoryComparison K :=
  { c with reference := c.candidate, candidate := c.reference, delta := -c.delta }

theorem ofScores_comm (category : Category) (weight a b : K) :
    ofScores category weight b a = (ofScores category weight a b).swap := by
  unfold ofScores swap
  simp only [neg_sub, similarity_comm b a, correlation_comm b a]

theorem shortfall_swap (c : CategoryComparison K) : c.swap.shortfall = c.shortfall := rfl

end CategoryComparison

/-! ## Languages -/

namespace LanguageOverlap

omit [ExactScalar K] in
/-- The overlap seen from the other side: what one side lacks the other has in addition. -/
def swap (overlap : LanguageOverlap K) : LanguageOverlap K :=
  { overlap with missing := overlap.extra, extra := overlap.missing }

variable (importance : Language → K) (a b : Profile K)

omit [ExactScalar K] in
theorem languagesOf_comm : languagesOf a b = languagesOf b a := by
  unfold languagesOf
  simp only [Bool.or_comm]

theorem intersection_comm : intersection importance a b = intersection importance b a := by
  rw [intersection_eq, intersection_eq, languagesOf_comm]
  simp only [min_comm]

theorem union_comm : union importance a b = union importance b a := by
  rw [union_eq, union_eq, languagesOf_comm]
  simp only [max_comm]

/-- **The overlap does not depend on the side from which it is seen**, apart from the names of the
two lists of languages of one side only. -/
theorem ofProfiles_comm : ofProfiles importance b a = (ofProfiles importance a b).swap := by
  unfold ofProfiles swap
  simp only [intersection_comm importance b a, union_comm importance b a, languagesOf_comm b a,
    Bool.and_comm]

end LanguageOverlap

/-! ## Factors -/

namespace Factors

theorem complexityFactor_comm (a b : K) : complexityFactor a b = complexityFactor b a := by
  rw [complexityFactor_eq, complexityFactor_eq, abs_sub_comm]

/-- The penalty for anti-patterns is felt only by a candidate that has more of them. -/
theorem density_lt_of_antiPatternFactor_lt_one {reference candidate : Profile K}
    (h : antiPatternFactor reference candidate < 1) :
    antiPatternDensity reference < antiPatternDensity candidate := by
  by_contra hle
  have hexcess : max (antiPatternDensity candidate - antiPatternDensity reference) 0 = 0 :=
    max_eq_right (sub_nonpos.2 (not_lt.1 hle))
  rw [antiPatternFactor_eq, hexcess] at h
  norm_num at h

end Factors

/-! ## Comparisons -/

namespace Comparison

variable (weights : Weights K) (a b : Profile K)

theorem categoriesOf_comm :
    categoriesOf weights b a = (categoriesOf weights a b).map (·.swap) := by
  unfold categoriesOf
  rw [List.map_map]
  refine List.map_congr_left fun c _ => ?_
  exact CategoryComparison.ofScores_comm c (weights.of c) _ _

theorem baseOf_comm : baseOf (categoriesOf weights b a) = baseOf (categoriesOf weights a b) := by
  have hshortfalls : (categoriesOf weights b a).map (·.shortfall) =
      (categoriesOf weights a b).map (·.shortfall) := by
    rw [categoriesOf_comm, List.map_map]
    exact List.map_congr_left fun c _ => CategoryComparison.shortfall_swap c
  unfold baseOf
  rw [hshortfalls]

variable {weights a b}

/-- One comparison is the other one with the two sides exchanged. -/
structure Mirrored (forward backward : Comparison K) : Prop where
  base : backward.baseScore = forward.baseScore
  /-- The factor and the shared languages are the same, the other two lists are exchanged. -/
  overlap : backward.languageOverlap = forward.languageOverlap.swap
  /-- All eleven categories are there, … -/
  all : forward.categories.map (·.category) = Category.all
  /-- … and in each of them only the scores are exchanged and the sign of the gap is. -/
  categories : backward.categories = forward.categories.map (·.swap)
  complexity : backward.factors.complexity = forward.factors.complexity
  /-- At most one side has too many anti-patterns. -/
  antiPatterns : ¬ (forward.factors.antiPatterns < 1 ∧ backward.factors.antiPatterns < 1)

/-- **Exchanging the two repositories** changes neither the base nor the overlap nor the factor for
complexity, whatever the settings and the profiles are, as long as something was analyzed on one
side. -/
theorem ofProfiles_mirrored (settings : Settings K)
    (h : ¬ (a.isEmpty = true ∧ b.isEmpty = true)) :
    ∃ forward backward, ofProfiles settings a b = .ok forward ∧
      ofProfiles settings b a = .ok backward ∧ forward.Mirrored backward := by
  have h' : ¬ (b.isEmpty = true ∧ a.isEmpty = true) := fun hboth => h hboth.symm
  refine ⟨_, _, ofProfiles_eq_ok settings h, ofProfiles_eq_ok settings h', ?_⟩
  refine { base := baseOf_comm .., overlap := LanguageOverlap.ofProfiles_comm ..,
           all := map_category_categoriesOf .., categories := categoriesOf_comm ..,
           complexity := Factors.complexityFactor_comm .., antiPatterns := ?_ }
  rintro ⟨hforward, hbackward⟩
  have hmore : Factors.antiPatternDensity a < Factors.antiPatternDensity b :=
    Factors.density_lt_of_antiPatternFactor_lt_one hforward
  exact hmore.asymm (Factors.density_lt_of_antiPatternFactor_lt_one hbackward)

/-- A repository in two languages and one in a third, which has another score and many
anti-patterns. -/
theorem ofProfiles_mirrored_three_languages :
    let a : Profile ℚ :=
      { Profile.empty "acme/api" .standard {} with
        scores := .ofList (Category.all.map (.of · 80))
        languages := ⟨[(.python, { files := 1, lines := 10, share := 1 / 4 }),
          (.go, { files := 3, lines := 20, share := 3 / 4 })]⟩ }
    let b : Profile ℚ :=
      { Profile.empty "acme/web" .standard {} with
        scores := .ofList (Category.all.map (.of · 60))
        languages := ⟨[(.go, { files := 1, lines := 10, share := 1 / 2 }),
          (.css, { files := 1, lines := 10, share := 1 / 2 })]⟩
        advanced :=
          { AdvancedMetrics.empty with
            patterns := { PatternReport.empty with antiPatterns := ⟨[("god_class", 5)]⟩ } } }
    ¬ (a.isEmpty = true ∧ b.isEmpty = true) ∧
      ∃ forward backward, ofProfiles .standard a b = .ok forward ∧
        ofProfiles .standard b a = .ok backward ∧ forward.Mirrored backward ∧
        forward.languageOverlap.missing = [.python] ∧ forward.languageOverlap.extra = [.css] ∧
        forward.factors.antiPatterns = 9 / 10 := by
  intro a b
  have hsome : ¬ (a.isEmpty = true ∧ b.isEmpty = true) := by
    rintro ⟨hempty, -⟩
    cases hempty
  obtain ⟨forward, backward, hforward, hbackward, hmirrored⟩ :=
    ofProfiles_mirrored (Settings.standard : Settings ℚ) hsome
  refine ⟨hsome, forward, backward, hforward, hbackward, hmirrored, ?_⟩
  rw [eq_compute_of_ofProfiles_eq_ok hforward]
  decide +kernel

end Comparison

end Affinity
