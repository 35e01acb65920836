import Mathlib
import Affinity.Comparison.Basic
import Affinity.Proofs.Comparison.Factors
import Affinity.Proofs.Comparison.Overlap
import Affinity.Proofs.Settings.Valid

/-!
# Full agreement

A repository compared with itself agrees in everything: it lacks nothing in any category and in any
language, the bonuses cannot lift it above a hundred, and there is nothing to recommend.

* `FullAgreement` — what full agreement means for each part of a comparison.
* `ofProfiles_self` — the comparison of a repository with itself.
-/

namespace Affinity

open Scalar

variable {K : Type} [ExactScalar K]

/-! ## Categories -/

theorem similarity_self (x : K) : similarity x x = 100 := by
  unfold similarity
  rw [sub_self, magnitude_eq_abs, abs_zero, clamp_eq (by norm_num [literal_eq])]
  norm_num [literal_eq]

/-- Two scores are never further apart because both are high or both are low. -/
theorem one_le_correlation (reference candidate : K) : 1 ≤ correlation reference candidate := by
  unfold correlation
  simp only
  split
  · norm_num [literal_eq]
  · split
    · norm_num [literal_eq]
    · split <;> norm_num [literal_eq]

namespace CategoryComparison

theorem delta_self (category : Category) (weight x : K) :
    (ofScores category weight x x).delta = 0 := sub_self x

/-- The bonus lifts the similarity of a category to a hundred at most. -/
theorem similarity_ofScores (category : Category) (weight reference candidate : K) :
    (ofScores category weight reference candidate).similarity =
      min (Affinity.similarity reference candidate * Affinity.correlation reference candidate)
        100 := by
  unfold ofScores
  rw [least_eq_min, literal_eq]
  norm_num

theorem similarity_self (category : Category) (weight x : K) :
    (ofScores category weight x x).similarity = 100 := by
  have hbonus : (100 : K) ≤ 100 * Affinity.correlation x x :=
    le_mul_of_one_le_right (by norm_num) (one_le_correlation x x)
  rw [similarity_ofScores, Affinity.similarity_self, min_eq_right hbonus]

theorem shortfall_self (category : Category) (weight x : K) :
    (ofScores category weight x x).shortfall = 0 := by
  unfold shortfall
  rw [similarity_self]
  norm_num [literal_eq]

end CategoryComparison

/-! ## Recommendations -/

/-- Without gaps there is nothing to recommend. -/
theorem Recommendation.ofGaps_eq_nil {gaps : List (Category × K)} (h : ∀ g ∈ gaps, g.2 = 0)
    (limit : Nat) : ofGaps gaps limit = [] := by
  have hfilter : (gaps.filter fun g => minGap ≤ g.2) = [] := by
    refine List.filter_eq_nil_iff.2 fun g hg => ?_
    rw [h g hg]
    norm_num [minGap, literal_eq]
  simp [ofGaps, rankedGaps, hfilter]

namespace Comparison

omit [ExactScalar K] in
/-- All eleven categories are compared, in their order. -/
theorem map_category_categoriesOf [Scalar K] (weights : Weights K)
    (reference candidate : Profile K) :
    (categoriesOf weights reference candidate).map (·.category) = Category.all := by
  unfold categoriesOf
  rw [List.map_map]
  exact List.map_id _

/-! ## The comparison of a profile with itself -/

theorem mem_categoriesOf_self {weights : Weights K} {p : Profile K} {entry : CategoryComparison K}
    (h : entry ∈ categoriesOf weights p p) :
    entry.delta = 0 ∧ entry.similarity = 100 ∧ entry.shortfall = 0 := by
  obtain ⟨c, -, rfl⟩ := List.mem_map.1 h
  exact ⟨CategoryComparison.delta_self .., CategoryComparison.similarity_self ..,
    CategoryComparison.shortfall_self ..⟩

theorem baseOf_self (weights : Weights K) (p : Profile K) :
    baseOf (categoriesOf weights p p) = 100 := by
  have hzero : ∀ x ∈ (categoriesOf weights p p).map (·.shortfall), x = 0 := by
    intro x hx
    obtain ⟨entry, hentry, rfl⟩ := List.mem_map.1 hx
    exact (mem_categoriesOf_self hentry).2.2
  unfold baseOf
  rw [sum_eq, List.sum_eq_zero hzero, clampScore_eq]
  norm_num [literal_eq]

theorem score_self {product : K} (h : 1 ≤ product) : clampScore (100 * 1 * product) = 100 := by
  rw [clampScore_eq, min_eq_left (by linarith)]
  norm_num

/-- Full agreement of two repositories. -/
structure FullAgreement (comparison : Comparison K) : Prop where
  score : comparison.score = 100
  base : comparison.baseScore = 100
  level : comparison.level = .excellent
  overlap : comparison.languageOverlap.factor = 1
  missing : comparison.languageOverlap.missing = []
  extra : comparison.languageOverlap.extra = []
  /-- All eleven categories are there, … -/
  all : comparison.categories.map (·.category) = Category.all
  /-- … and in each of them the candidate lacks nothing. -/
  categories : ∀ entry ∈ comparison.categories, entry.delta = 0 ∧ entry.similarity = 100
  recommendations : comparison.recommendations = []

/-- **A repository agrees with itself in everything**, whatever its scores and findings are. -/
theorem ofProfiles_self {settings : Settings K} (hvalid : settings.isValid = true) {p : Profile K}
    (hnonneg : ∀ l, 0 ≤ p.share l) (hsome : ∃ l, 0 < p.share l) :
    ∃ comparison, ofProfiles settings p p = .ok comparison ∧ comparison.FullAgreement := by
  obtain ⟨l, hl⟩ := hsome
  have himportance : ∀ l, 0 < settings.importanceOf l := Settings.importanceOf_pos hvalid
  have hoverlap : (LanguageOverlap.ofProfiles settings.importanceOf p p).factor = 1 :=
    LanguageOverlap.factor_self himportance hnonneg hl
  have hscore : (compute settings p p).score = 100 := by
    show clampScore (baseOf (categoriesOf settings.weights p p) *
      (LanguageOverlap.ofProfiles settings.importanceOf p p).factor *
      (Factors.ofProfiles p p).product) = 100
    rw [baseOf_self, hoverlap]
    exact score_self (Factors.one_le_product_self p)
  refine ⟨compute settings p p, ?_, ?_⟩
  · unfold ofProfiles
    rw [Profile.isEmpty_eq_false_of_share_pos hl]
    rfl
  · refine { score := hscore, base := baseOf_self .., level := ?_, overlap := hoverlap,
             missing := LanguageOverlap.missing_self p, extra := LanguageOverlap.extra_self p,
             all := ?_, categories := ?_, recommendations := ?_ }
    · show Level.ofScore (compute settings p p).score = .excellent
      rw [hscore, Level.ofScore, if_pos (by norm_num [literal_eq])]
    · show (categoriesOf settings.weights p p).map (·.category) = Category.all
      unfold categoriesOf
      rw [List.map_map]
      exact List.map_id _
    · intro entry hentry
      obtain ⟨hdelta, hsimilarity, -⟩ := mem_categoriesOf_self hentry
      exact ⟨hdelta, hsimilarity⟩
    · refine Recommendation.ofGaps_eq_nil ?_ _
      intro gap hgap
      obtain ⟨entry, hentry, rfl⟩ := List.mem_map.1 hgap
      exact (mem_categoriesOf_self hentry).1

/-- A repository in two languages, of which one counts twice. -/
theorem ofProfiles_self_two_languages :
    let settings : Settings ℚ := { Settings.standard with importance := ⟨[("python", 2)]⟩ }
    let p : Profile ℚ :=
      { Profile.empty "acme/api" .standard {} with
        languages := ⟨[(.python, { files := 1, lines := 10, share := 1 / 4 }),
          (.go, { files := 3, lines := 20, share := 3 / 4 })]⟩ }
    settings.isValid = true ∧ (∀ l, 0 ≤ p.share l) ∧ (∃ l, 0 < p.share l) ∧
      ∃ comparison, ofProfiles settings p p = .ok comparison ∧ comparison.FullAgreement := by
  intro settings p
  have hvalid : settings.isValid = true := by
    obtain ⟨hweights, -, hlimits, hthresholds, hexclude⟩ :=
      (Settings.isValid_iff (Settings.standard : Settings ℚ)).1 Settings.standard_isValid
    refine (Settings.isValid_iff settings).2 ⟨hweights, ?_, hlimits, hthresholds, hexclude⟩
    intro entry hentry
    have hname : Language.ofName? "python" = some .python := by decide +kernel
    rw [List.mem_singleton.1 hentry]
    norm_num [importanceProblem?, hname, isFinite_eq, literal_eq]
  have hnonneg : ∀ l, 0 ≤ p.share l := by
    intro l
    cases l <;> decide +kernel
  have hsome : ∃ l, 0 < p.share l := ⟨.python, by decide +kernel⟩
  exact ⟨hvalid, hnonneg, hsome, ofProfiles_self hvalid hnonneg hsome⟩

end Comparison

end Affinity
