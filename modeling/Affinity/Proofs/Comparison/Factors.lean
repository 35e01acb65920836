import Mathlib
import Affinity.Comparison.Factors
import Affinity.Proofs.Scalar.Exact

/-!
# The six factors over exact scalars

Two of the factors are penalties: they fall with the distance of the two sides and are one if there
is none. The other four are bonuses, which are never below one. All six are bounded, so their
product stays near one.

* `complexityFactor_eq`, `antiPatternFactor_eq` — the penalties.
* `InRange`, `ofProfiles_inRange` — the range of each factor, whatever the two sides are.
* `InRange.product_mem_Icc` — the range of their product.
* `one_le_product_self` — a repository compared with itself is not penalized.
-/

namespace Affinity

open Scalar

variable {K : Type} [ExactScalar K]

namespace Factors

/-! ## Penalties -/

theorem complexityFactor_eq (reference candidate : K) :
    complexityFactor reference candidate =
      max (1 - max (|reference - candidate| - 10) 0 / 300) (17 / 20) := by
  unfold complexityFactor
  simp only [greatest_eq_max, magnitude_eq_abs, literal_eq]
  norm_num

theorem antiPatternFactor_eq (reference candidate : Profile K) :
    antiPatternFactor reference candidate =
      max (1 - 1 / 50 * max (antiPatternDensity candidate - antiPatternDensity reference) 0)
        (17 / 20) := by
  unfold antiPatternFactor
  simp only [greatest_eq_max, literal_eq]
  norm_num

theorem complexityFactor_self (x : K) : complexityFactor x x = 1 := by
  rw [complexityFactor_eq, sub_self, abs_zero]
  norm_num

theorem antiPatternFactor_self (p : Profile K) : antiPatternFactor p p = 1 := by
  rw [antiPatternFactor_eq, sub_self, max_self]
  norm_num

theorem complexityFactor_mem_Icc (reference candidate : K) :
    complexityFactor reference candidate ∈ Set.Icc (17 / 20) 1 := by
  have hexcess : (0 : K) ≤ max (|reference - candidate| - 10) 0 / 300 :=
    div_nonneg (le_max_right _ _) (by norm_num)
  rw [complexityFactor_eq]
  exact ⟨le_max_right _ _, max_le (by linarith) (by norm_num)⟩

theorem antiPatternFactor_mem_Icc (reference candidate : Profile K) :
    antiPatternFactor reference candidate ∈ Set.Icc (17 / 20) 1 := by
  have hexcess : (0 : K) ≤
      1 / 50 * max (antiPatternDensity candidate - antiPatternDensity reference) 0 :=
    mul_nonneg (by norm_num) (le_max_right _ _)
  rw [antiPatternFactor_eq]
  exact ⟨le_max_right _ _, max_le (by linarith) (by norm_num)⟩

/-! ## Bonuses -/

theorem consistencyFactor_mem (scores : CategoryScores K) :
    consistencyFactor scores ∈ ({1, 51 / 50} : Set K) := by
  unfold consistencyFactor
  split
  · right
    norm_num [literal_eq]
  · left
    norm_num [literal_eq]

theorem excellenceFactor_mem (reference candidate : CategoryScores K) :
    excellenceFactor reference candidate ∈ ({1, 103 / 100} : Set K) := by
  unfold excellenceFactor
  split
  · right
    norm_num [literal_eq]
  · left
    norm_num [literal_eq]

theorem patternFactor_eq (distinct : Nat) :
    (patternFactor distinct : K) = 1 + min (1 / 100 * (distinct : K)) (1 / 20) := by
  unfold patternFactor
  simp only [least_eq_min, literal_eq]
  norm_num

theorem patternFactor_mem_Icc (distinct : Nat) :
    (patternFactor distinct : K) ∈ Set.Icc 1 (21 / 20) := by
  have hdistinct : (0 : K) ≤ 1 / 100 * (distinct : K) := by positivity
  have hbonus : (0 : K) ≤ min (1 / 100 * (distinct : K)) (1 / 20) :=
    le_min hdistinct (by norm_num)
  have hbonus' : min (1 / 100 * (distinct : K)) (1 / 20) ≤ 1 / 20 := min_le_right _ _
  rw [patternFactor_eq]
  constructor
  · linarith
  · linarith

theorem balanceFactor_mem (scores : CategoryScores K) :
    balanceFactor scores ∈ ({1, 51 / 50} : Set K) := by
  unfold balanceFactor
  simp only
  split
  · left
    norm_num [literal_eq]
  · split
    · right
      norm_num [literal_eq]
    · left
      norm_num [literal_eq]

/-- A bonus that is given or not is between one and the bonus. -/
theorem mem_Icc_of_mem_pair {x bonus : K} (hbonus : 1 ≤ bonus) (h : x ∈ ({1, bonus} : Set K)) :
    x ∈ Set.Icc 1 bonus := by
  rcases h with rfl | rfl
  · exact ⟨le_refl 1, hbonus⟩
  · exact ⟨hbonus, le_refl _⟩

/-! ## All six -/

/-- Every factor is in its own range. -/
structure InRange (f : Factors K) : Prop where
  complexity : f.complexity ∈ Set.Icc (17 / 20) 1
  consistency : f.consistency ∈ ({1, 51 / 50} : Set K)
  excellence : f.excellence ∈ ({1, 103 / 100} : Set K)
  antiPatterns : f.antiPatterns ∈ Set.Icc (17 / 20) 1
  patterns : f.patterns ∈ Set.Icc 1 (21 / 20)
  balance : f.balance ∈ ({1, 51 / 50} : Set K)

/-- **Every factor is in its range**, whatever the two sides are. -/
theorem ofProfiles_inRange (reference candidate : Profile K) :
    (ofProfiles reference candidate).InRange where
  complexity := complexityFactor_mem_Icc _ _
  consistency := consistencyFactor_mem _
  excellence := excellenceFactor_mem _ _
  antiPatterns := antiPatternFactor_mem_Icc _ _
  patterns := patternFactor_mem_Icc _
  balance := balanceFactor_mem _

/-- **The product stays near one.** Both penalties at their worst give `0.7225`, all bonuses
together a little less than `1.1252`. -/
theorem InRange.product_mem_Icc {f : Factors K} (h : f.InRange) :
    f.product ∈ Set.Icc (18 / 25) (113 / 100) := by
  obtain ⟨hcomplexity, hcomplexity'⟩ := h.complexity
  obtain ⟨hconsistency, hconsistency'⟩ := mem_Icc_of_mem_pair (by norm_num) h.consistency
  obtain ⟨hexcellence, hexcellence'⟩ := mem_Icc_of_mem_pair (by norm_num) h.excellence
  obtain ⟨hanti, hanti'⟩ := h.antiPatterns
  obtain ⟨hpatterns, hpatterns'⟩ := h.patterns
  obtain ⟨hbalance, hbalance'⟩ := mem_Icc_of_mem_pair (by norm_num) h.balance
  constructor
  · calc (18 / 25 : K) ≤ 17 / 20 * 1 * 1 * (17 / 20) * 1 * 1 := by norm_num
      _ ≤ f.product := by
        unfold product
        gcongr
  · calc f.product ≤ 1 * (51 / 50) * (103 / 100) * 1 * (21 / 20) * (51 / 50) := by
          unfold product
          gcongr
      _ ≤ 113 / 100 := by norm_num

/-- **A repository compared with itself is not penalized.** -/
theorem one_le_product_self (p : Profile K) : 1 ≤ (ofProfiles p p).product := by
  have h : (ofProfiles p p).InRange := ofProfiles_inRange p p
  obtain ⟨hconsistency, -⟩ := mem_Icc_of_mem_pair (by norm_num) h.consistency
  obtain ⟨hexcellence, -⟩ := mem_Icc_of_mem_pair (by norm_num) h.excellence
  obtain ⟨hpatterns, -⟩ := h.patterns
  obtain ⟨hbalance, -⟩ := mem_Icc_of_mem_pair (by norm_num) h.balance
  have hcomplexity : (ofProfiles p p).complexity = 1 := complexityFactor_self _
  have hanti : (ofProfiles p p).antiPatterns = 1 := antiPatternFactor_self p
  unfold product
  rw [hcomplexity, hanti, one_mul, mul_one]
  exact one_le_mul_of_one_le_of_one_le
    (one_le_mul_of_one_le_of_one_le
      (one_le_mul_of_one_le_of_one_le hconsistency hexcellence) hpatterns) hbalance

end Factors

end Affinity
