import Mathlib
import Affinity.Proofs.Comparison.Closeness

/-!
# What the categories contribute

The base is computed from what the categories lack, so that full agreement is exactly a hundred. It
could as well be the sum of what they contribute: what a category contributes and what it lacks are
a hundred times its weight together, so the two ways differ by a hundred times the error of the
weights, at most.

* `Comparison.contributions` — the sum of what the categories contribute.
* `Comparison.abs_baseOf_sub_le` — how far the base is from it, for any weights.
* `Comparison.ofProfiles_base_near` — the same for weights that pass the check.
-/

namespace Affinity

open Scalar

variable {K : Type} [ExactScalar K]

/-! ## One category -/

namespace CategoryComparison

/-- The similarity with its bonus is between zero and a hundred, whatever the scores are. -/
theorem similarity_mem_Icc (category : Category) (weight reference candidate : K) :
    (ofScores category weight reference candidate).similarity ∈ Set.Icc 0 100 := by
  have hproduct : 0 ≤ Affinity.similarity reference candidate *
      Affinity.correlation reference candidate :=
    mul_nonneg (similarity_nonneg _ _) (zero_le_one.trans (one_le_correlation _ _))
  rw [similarity_ofScores]
  exact ⟨le_min hproduct (by norm_num), min_le_right _ _⟩

/-- A category contributes what it does not lack. -/
theorem shortfall_add_contribution (c : CategoryComparison K) :
    c.shortfall + c.contribution = 100 * c.weight := by
  unfold shortfall contribution
  norm_num [literal_eq]
  ring

end CategoryComparison

/-! ## All categories -/

namespace Comparison

variable {weights : Weights K} {reference candidate : Profile K}

/-- The sum of what the categories contribute. -/
def contributions (categories : List (CategoryComparison K)) : K :=
  (categories.map (·.contribution)).sum

/-- The sum of what the categories lack. -/
def shortfalls (categories : List (CategoryComparison K)) : K :=
  (categories.map (·.shortfall)).sum

theorem shortfalls_add_contributions (weights : Weights K) (reference candidate : Profile K) :
    shortfalls (categoriesOf weights reference candidate) +
      contributions (categoriesOf weights reference candidate) = 100 * weights.sum := by
  have hweights : weights.sum =
      ((categoriesOf weights reference candidate).map (·.weight)).sum := by
    unfold Weights.sum categoriesOf
    rw [sum_eq, List.map_map]
    rfl
  rw [hweights, shortfalls, contributions, ← List.sum_map_add, ← List.sum_map_mul_left]
  simp only [CategoryComparison.shortfall_add_contribution]

/-- With weights that are not negative no category contributes or lacks less than nothing. -/
theorem nonneg_of_mem_categoriesOf (hnonneg : ∀ c, 0 ≤ weights.of c)
    {entry : CategoryComparison K} (h : entry ∈ categoriesOf weights reference candidate) :
    0 ≤ entry.contribution ∧ 0 ≤ entry.shortfall := by
  obtain ⟨c, -, rfl⟩ := List.mem_map.1 h
  obtain ⟨hlow, hhigh⟩ := CategoryComparison.similarity_mem_Icc c (weights.of c)
    (reference.scores.value c) (candidate.scores.value c)
  refine ⟨mul_nonneg hlow (hnonneg c), mul_nonneg ?_ (hnonneg c)⟩
  norm_num [literal_eq]
  exact hhigh

/-- **How far the base is from the contributions**: by a hundred times the error of the weights, at
most. Below zero the base is cut off, but then the contributions are smaller than this. -/
theorem abs_baseOf_sub_le (hnonneg : ∀ c, 0 ≤ weights.of c) (reference candidate : Profile K) :
    |baseOf (categoriesOf weights reference candidate) -
        contributions (categoriesOf weights reference candidate)| ≤
      100 * |weights.sum - 1| := by
  have hcontributions : 0 ≤ contributions (categoriesOf weights reference candidate) :=
    List.sum_nonneg <| List.forall_mem_map.2 fun _ h => (nonneg_of_mem_categoriesOf hnonneg h).1
  have hshortfalls : 0 ≤ shortfalls (categoriesOf weights reference candidate) :=
    List.sum_nonneg <| List.forall_mem_map.2 fun _ h => (nonneg_of_mem_categoriesOf hnonneg h).2
  have hbase : baseOf (categoriesOf weights reference candidate) =
      max 0 (100 - shortfalls (categoriesOf weights reference candidate)) := by
    unfold baseOf
    rw [sum_eq, clampScore_eq]
    norm_num [literal_eq]
    rw [← shortfalls, min_eq_right (by linarith)]
  have htotal := shortfalls_add_contributions weights reference candidate
  have hbelow := neg_abs_le (weights.sum - 1)
  have habove := le_abs_self (weights.sum - 1)
  rw [hbase, abs_le]
  rcases le_total 0 (100 - shortfalls (categoriesOf weights reference candidate)) with hin | hout
  · rw [max_eq_right hin]
    constructor <;> linarith
  · rw [max_eq_left hout]
    constructor <;> linarith

/-- **The base is the weighted sum of the similarities**, up to a ten-thousandth, for weights that
pass the check; it is exactly this sum if the weights sum to one. There is a comparison unless
nothing was analyzed on either side. -/
theorem ofProfiles_base_near {settings : Settings K} (hvalid : settings.isValid = true)
    (reference candidate : Profile K) :
    (reference.isEmpty = true ∧ candidate.isEmpty = true) ∨
      ∃ comparison, ofProfiles settings reference candidate = .ok comparison ∧
        comparison.categories.map (·.category) = Category.all ∧
        |comparison.baseScore - contributions comparison.categories| ≤ 1 / 10000 ∧
        (settings.weights.sum = 1 →
          comparison.baseScore = contributions comparison.categories) := by
  by_cases hempty : reference.isEmpty = true ∧ candidate.isEmpty = true
  · exact .inl hempty
  obtain ⟨hnonneg, hsum⟩ :=
    (Weights.problem?_eq_none_iff _).1 ((Settings.isValid_iff settings).1 hvalid).1
  have hnear := abs_baseOf_sub_le hnonneg reference candidate
  refine .inr ⟨_, ofProfiles_eq_ok settings hempty, map_category_categoriesOf .., ?_, ?_⟩
  · exact hnear.trans (by linarith)
  · intro hone
    rw [hone, sub_self, abs_zero, mul_zero] at hnear
    exact sub_eq_zero.1 (abs_nonpos_iff.1 hnear)

/-- A repository compared with itself, with weights that are as much too large as they may be, and
with another one that has lower scores, with weights that sum to one. -/
theorem ofProfiles_base_near_heavy :
    let heavy : Settings ℚ :=
      { Settings.standard with
        weights := ⟨fun c => if c = .naming then 120001 / 1000000 else Weights.standard.of c⟩ }
    let profile (score : ℚ) : Profile ℚ :=
      { Profile.empty "acme/api" .standard {} with
        scores := .ofList (Category.all.map (.of · score))
        languages := ⟨[(.python, { files := 1, lines := 10, share := 1 })]⟩ }
    (heavy.isValid = true ∧
      ∃ comparison, ofProfiles heavy (profile 80) (profile 80) = .ok comparison ∧
        |comparison.baseScore - contributions comparison.categories| ≤ 1 / 10000 ∧
        comparison.baseScore = 100 ∧ contributions comparison.categories = 100 + 1 / 10000) ∧
      (Settings.standard : Settings ℚ).isValid = true ∧
      (Settings.standard : Settings ℚ).weights.sum = 1 ∧
      ∃ comparison, ofProfiles .standard (profile 80) (profile 50) = .ok comparison ∧
        comparison.baseScore = contributions comparison.categories := by
  intro heavy profile
  have hvalid : heavy.isValid = true := by decide +kernel
  have hsome : ∀ score, ¬ ((profile 80).isEmpty = true ∧ (profile score).isEmpty = true) := by
    rintro score ⟨hempty, -⟩
    cases hempty
  constructor
  · obtain ⟨comparison, hok, -, hnear, -⟩ :=
      (ofProfiles_base_near hvalid (profile 80) (profile 80)).resolve_left (hsome 80)
    refine ⟨hvalid, comparison, hok, hnear, ?_⟩
    rw [eq_compute_of_ofProfiles_eq_ok hok]
    decide +kernel
  · obtain ⟨comparison, hok, -, -, hexact⟩ :=
      (ofProfiles_base_near Settings.standard_isValid (profile 80) (profile 50)).resolve_left
        (hsome 50)
    exact ⟨Settings.standard_isValid, Weights.sum_standard, comparison, hok,
      hexact Weights.sum_standard⟩

end Comparison

end Affinity
