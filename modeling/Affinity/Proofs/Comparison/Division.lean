import Mathlib
import Affinity.Comparison.Basic
import Affinity.Proofs.Scalar.Exact

/-!
# What a comparison divides by

A quotient by zero has no meaning, and a field gives it an arbitrary one. A comparison never makes
use of that: each of its divisors is a constant, is at least one, or was tested before.

* `divisors` — the numbers by which the comparison of two profiles divides.
* `ne_zero_of_mem_divisors` — none of them is zero.
* `ofProfiles_withDivision` — there are no others: any division that agrees with that of the field
  on these divisors leads to the same comparison.
-/

namespace Affinity

open Scalar

variable {K : Type} [ExactScalar K]

/-! ## The divisors -/

/-- The files of a profile in blocks of ten, at least one block. -/
def Profile.blocks (p : Profile K) : K := greatest (((p.totalFiles : Nat) : K) / 10.0) 1.0

/-- The divisors of the overlap: the union, if it is positive. -/
def LanguageOverlap.divisors (importance : Language → K) (reference candidate : Profile K) :
    List K :=
  let whole := union importance reference candidate
  if 0.0 < whole then [whole] else []

/-- The divisors of the factors. The mean of the candidate's scores is one if it is not low. -/
def Factors.divisors (reference candidate : Profile K) : List K :=
  let mean := candidate.scores.mean Category.all
  [10.0, 300.0, reference.blocks, candidate.blocks, (Category.base.length : Nat),
    (Category.all.length : Nat)] ++ if mean < 50.0 then [] else [mean]

/-- The numbers by which the comparison of two profiles divides. -/
def Comparison.divisors (settings : Settings K) (reference candidate : Profile K) : List K :=
  LanguageOverlap.divisors settings.importanceOf reference candidate ++
    Factors.divisors reference candidate

/-! ## None of them is zero -/

theorem Profile.blocks_ne_zero (p : Profile K) : p.blocks ≠ 0 := by
  have hone : (1 : K) ≤ p.blocks := by
    unfold blocks
    rw [greatest_eq_max]
    apply le_max_of_le_right
    norm_num [literal_eq]
  exact (zero_lt_one.trans_le hone).ne'

theorem LanguageOverlap.ne_zero_of_mem_divisors {importance : Language → K}
    {reference candidate : Profile K} {y : K} (h : y ∈ divisors importance reference candidate) :
    y ≠ 0 := by
  unfold divisors at h
  simp only at h
  split at h
  · next hpos =>
    rw [List.mem_singleton.1 h]
    norm_num [literal_eq] at hpos
    exact hpos.ne'
  · cases h

theorem Factors.ne_zero_of_mem_divisors {reference candidate : Profile K} {y : K}
    (h : y ∈ divisors reference candidate) : y ≠ 0 := by
  unfold divisors at h
  simp only [List.mem_append, List.mem_cons, List.not_mem_nil, or_false] at h
  rcases h with (rfl | rfl | rfl | rfl | rfl | rfl) | h
  · norm_num [literal_eq]
  · norm_num [literal_eq]
  · exact reference.blocks_ne_zero
  · exact candidate.blocks_ne_zero
  · norm_num [Category.base]
  · norm_num [Category.all, Category.base, Category.advanced]
  · split at h
    · cases h
    · next hlow =>
      rw [List.mem_singleton.1 h]
      norm_num [literal_eq] at hlow
      exact (lt_of_lt_of_le (by norm_num) hlow).ne'

/-- **A comparison does not divide by zero.** -/
theorem Comparison.ne_zero_of_mem_divisors {settings : Settings K}
    {reference candidate : Profile K} {y : K} (h : y ∈ divisors settings reference candidate) :
    y ≠ 0 := by
  rcases List.mem_append.1 h with h | h
  · exact LanguageOverlap.ne_zero_of_mem_divisors h
  · exact Factors.ne_zero_of_mem_divisors h

/-! ## There are no others -/

/-- The scalars with another division. -/
@[reducible] def Scalar.withDivision (divide : K → K → K) : Scalar K :=
  { (inferInstance : Scalar K) with div := divide }

/-- The other division has the quotients by `y` of the field. -/
def AgreesAt (divide : K → K → K) (y : K) : Prop := ∀ x, divide x y = x / y

section

variable {divide : K → K → K}

theorem CategoryScores.mean_withDivision (scores : CategoryScores K) {categories : List Category}
    (h : AgreesAt divide (categories.length : Nat)) :
    @mean K (withDivision divide) scores categories = scores.mean categories := by
  show (if categories.isEmpty then _ else divide _ _) = _
  rw [h]
  rfl

theorem CategoryScores.deviation_withDivision (scores : CategoryScores K)
    {categories : List Category} (h : AgreesAt divide (categories.length : Nat)) :
    @deviation K (withDivision divide) scores categories = scores.deviation categories := by
  show (if categories.isEmpty then _ else
    sqrt (divide (sum (categories.map fun c => square (scores.value c -
      @mean K (withDivision divide) scores categories))) _)) = _
  rw [mean_withDivision scores h, h]
  rfl

theorem LanguageOverlap.ofProfiles_withDivision {importance : Language → K}
    {reference candidate : Profile K}
    (h : ∀ y ∈ divisors importance reference candidate, AgreesAt divide y) :
    @ofProfiles K (withDivision divide) importance reference candidate =
      ofProfiles importance reference candidate := by
  have hfactor : (@ofProfiles K (withDivision divide) importance reference candidate).factor =
      (ofProfiles importance reference candidate).factor := by
    show (if 0.0 < union importance reference candidate then
      clamp floor 1.0 (divide _ (union importance reference candidate)) else floor) = _
    by_cases hpos : 0.0 < union importance reference candidate
    · have hagrees : AgreesAt divide (union importance reference candidate) :=
        h _ (by simp [divisors, hpos])
      rw [if_pos hpos, hagrees]
      exact (if_pos hpos).symm
    · rw [if_neg hpos]
      exact (if_neg hpos).symm
  exact congrArg (fun factor => { ofProfiles importance reference candidate with factor }) hfactor

namespace Factors

theorem complexityFactor_withDivision (h : AgreesAt divide (300.0 : K)) (a b : K) :
    @complexityFactor K (withDivision divide) a b = complexityFactor a b := by
  show greatest (1.0 - divide _ _) 0.85 = _
  rw [h]
  rfl

theorem consistencyFactor_withDivision (h : AgreesAt divide (Category.base.length : Nat))
    (scores : CategoryScores K) :
    @consistencyFactor K (withDivision divide) scores = consistencyFactor scores := by
  show (if @CategoryScores.deviation K (withDivision divide) scores Category.base ≤ 10.0 ∧
    50.0 ≤ @CategoryScores.mean K (withDivision divide) scores Category.base then _ else _) = _
  rw [CategoryScores.mean_withDivision scores h, CategoryScores.deviation_withDivision scores h]
  rfl

theorem antiPatternDensity_withDivision {p : Profile K} (hten : AgreesAt divide (10.0 : K))
    (hblocks : AgreesAt divide p.blocks) :
    @antiPatternDensity K (withDivision divide) p = antiPatternDensity p := by
  show divide _ (greatest (divide _ 10.0) 1.0) = _
  rw [hten]
  exact hblocks _

theorem antiPatternFactor_withDivision {reference candidate : Profile K}
    (hten : AgreesAt divide (10.0 : K)) (hreference : AgreesAt divide reference.blocks)
    (hcandidate : AgreesAt divide candidate.blocks) :
    @antiPatternFactor K (withDivision divide) reference candidate =
      antiPatternFactor reference candidate := by
  show greatest (1.0 - 0.02 * greatest (@antiPatternDensity K (withDivision divide) candidate -
    @antiPatternDensity K (withDivision divide) reference) 0.0) 0.85 = _
  rw [antiPatternDensity_withDivision hten hcandidate,
    antiPatternDensity_withDivision hten hreference]
  rfl

theorem balanceFactor_withDivision {scores : CategoryScores K}
    (hall : AgreesAt divide (Category.all.length : Nat))
    (hmean : ¬ scores.mean Category.all < 50.0 → AgreesAt divide (scores.mean Category.all)) :
    @balanceFactor K (withDivision divide) scores = balanceFactor scores := by
  show (if @CategoryScores.mean K (withDivision divide) scores Category.all < 50.0 then _
    else if divide (@CategoryScores.deviation K (withDivision divide) scores Category.all)
      (@CategoryScores.mean K (withDivision divide) scores Category.all) ≤ 0.15 then _ else _) = _
  rw [CategoryScores.mean_withDivision scores hall,
    CategoryScores.deviation_withDivision scores hall]
  by_cases hlow : scores.mean Category.all < 50.0
  · rw [balanceFactor, if_pos hlow, if_pos hlow]
  · rw [balanceFactor, if_neg hlow, if_neg hlow, hmean hlow]

theorem ofProfiles_withDivision {reference candidate : Profile K}
    (h : ∀ y ∈ divisors reference candidate, AgreesAt divide y) :
    @ofProfiles K (withDivision divide) reference candidate = ofProfiles reference candidate := by
  have hmean : ¬ candidate.scores.mean Category.all < 50.0 →
      AgreesAt divide (candidate.scores.mean Category.all) := by
    intro hlow
    apply h
    simp [divisors, hlow]
  have hcomplexity := complexityFactor_withDivision (h _ (by simp [divisors]))
    (reference.scores.value .complexity) (candidate.scores.value .complexity)
  have hconsistency := consistencyFactor_withDivision (h _ (by simp [divisors])) candidate.scores
  have hanti : @antiPatternFactor K (withDivision divide) reference candidate =
      antiPatternFactor reference candidate :=
    antiPatternFactor_withDivision (h _ (by simp [divisors])) (h _ (by simp [divisors]))
      (h _ (by simp [divisors]))
  have hbalance : @balanceFactor K (withDivision divide) candidate.scores =
      balanceFactor candidate.scores :=
    balanceFactor_withDivision (h _ (by simp [divisors])) hmean
  unfold ofProfiles
  rw [hconsistency, hanti, hbalance]
  exact congrArg (fun complexity => { ofProfiles reference candidate with complexity }) hcomplexity

end Factors

/-- **A comparison divides by nothing else**: any division that agrees with that of the field on
the divisors leads to the same comparison. -/
theorem Comparison.ofProfiles_withDivision {settings : Settings K}
    {reference candidate : Profile K}
    (h : ∀ y ∈ divisors settings reference candidate, AgreesAt divide y) :
    @ofProfiles K (withDivision divide) settings reference candidate =
      ofProfiles settings reference candidate := by
  have hoverlap : @LanguageOverlap.ofProfiles K (withDivision divide) settings.importanceOf
      reference candidate =
        LanguageOverlap.ofProfiles settings.importanceOf reference candidate :=
    LanguageOverlap.ofProfiles_withDivision fun y hy => h y (List.mem_append_left _ hy)
  have hfactors : @Factors.ofProfiles K (withDivision divide) reference candidate =
      Factors.ofProfiles reference candidate :=
    Factors.ofProfiles_withDivision fun y hy => h y (List.mem_append_right _ hy)
  -- what else there is to a comparison is found without dividing
  let finish (languageOverlap : LanguageOverlap K) (factors : Factors K) : Comparison K :=
    let whole := compute settings reference candidate
    let score := clampScore (whole.baseScore * languageOverlap.factor * factors.product)
    { whole with score, level := .ofScore score, languageOverlap, factors }
  have hcompute : @compute K (withDivision divide) settings reference candidate =
      compute settings reference candidate := congrArg₂ finish hoverlap hfactors
  unfold ofProfiles
  rw [hcompute]

end

end Affinity
