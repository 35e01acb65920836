import Mathlib
import Affinity.Proofs.Comparison.Agreement
import Affinity.Proofs.Comparison.Bounds

/-!
# Getting closer to the reference

A candidate is *at least as close* to a reference as another one if in each category its score lies
between those of the two others. Then the lower of its two scores is no lower and the higher of them
no higher, and this alone keeps it in the same bracket of the bonus or lifts it into a better one:
no category and no base can fall.

* `correlation_le_correlation`, `similarity_le_similarity` — two scores between which a pair of
  others lies.
* `CategoryComparison.noFurther_ofScores`, `NoFurther.shortfall_le` — a category, and what it lacks.
* `Comparison.AtLeastAsClose`, `Comparison.ofProfiles_closer` — two candidates and one reference.
-/

namespace Affinity

open Scalar

variable {K : Type} [ExactScalar K]

/-! ## Two scores -/

theorem correlation_eq (reference candidate : K) :
    correlation reference candidate =
      if 85 ≤ min reference candidate then 21 / 20
      else if 70 ≤ min reference candidate then 103 / 100
      else if max reference candidate ≤ 30 ∧
        max reference candidate - min reference candidate ≤ 10 then 51 / 50
      else 1 := by
  unfold correlation
  simp only [least_eq_min, greatest_eq_max, literal_eq]
  norm_num

theorem correlation_le (reference candidate : K) : correlation reference candidate ≤ 21 / 20 := by
  rw [correlation_eq]
  split_ifs <;> norm_num

theorem similarity_eq (reference candidate : K) :
    similarity reference candidate =
      max 0 (min 100 (100 - (max reference candidate - min reference candidate))) := by
  unfold similarity
  rw [magnitude_eq_abs, clamp_eq (by norm_num [literal_eq]), max_sub_min_eq_abs', abs_sub_comm]
  norm_num [literal_eq]

section Pairs

variable {r c r' c' : K}

/-- **The bonus of two scores is no smaller than that of a pair around them**: with the lower score
the pair may leave a bracket for strong scores only upwards, and with the distance it may leave that
for weak ones only if it is apart. -/
theorem correlation_le_correlation (hlow : min r' c' ≤ min r c) (hhigh : max r c ≤ max r' c') :
    correlation r' c' ≤ correlation r c := by
  by_cases hexcellent : 85 ≤ min r c
  · have hmost : correlation r c = 21 / 20 := by
      rw [correlation_eq, if_pos hexcellent]
    rw [hmost]
    exact correlation_le r' c'
  have hexcellent' : ¬ 85 ≤ min r' c' := fun h => hexcellent (h.trans hlow)
  rw [correlation_eq r c, correlation_eq r' c', if_neg hexcellent, if_neg hexcellent']
  by_cases hstrong : 70 ≤ min r c
  · rw [if_pos hstrong]
    split_ifs <;> norm_num
  have hstrong' : ¬ 70 ≤ min r' c' := fun h => hstrong (h.trans hlow)
  rw [if_neg hstrong, if_neg hstrong']
  by_cases hweak' : max r' c' ≤ 30 ∧ max r' c' - min r' c' ≤ 10
  · have hweak : max r c ≤ 30 ∧ max r c - min r c ≤ 10 :=
      ⟨hhigh.trans hweak'.1, by linarith [hweak'.2]⟩
    rw [if_pos hweak, if_pos hweak']
  · rw [if_neg hweak']
    split_ifs <;> norm_num

theorem similarity_le_similarity (hlow : min r' c' ≤ min r c) (hhigh : max r c ≤ max r' c') :
    similarity r' c' ≤ similarity r c := by
  have hdistance : max r c - min r c ≤ max r' c' - min r' c' := sub_le_sub hhigh hlow
  rw [similarity_eq, similarity_eq]
  gcongr

theorem similarity_nonneg (reference candidate : K) : 0 ≤ similarity reference candidate := by
  rw [similarity_eq]
  exact le_max_left _ _

end Pairs

/-! ## Categories -/

namespace CategoryComparison

/-- One comparison of a category is at least as close as another one. -/
structure NoFurther (near far : CategoryComparison K) : Prop where
  category : near.category = far.category
  similarity : far.similarity ≤ near.similarity
  correlation : far.correlation ≤ near.correlation

variable {r c c' : K}

/-- A score between the reference and another score. -/
theorem noFurther_ofScores (category : Category) (weight : K) (h : c ∈ Set.uIcc r c') :
    NoFurther (ofScores category weight r c) (ofScores category weight r c') := by
  obtain ⟨hlow, hhigh⟩ := h
  have hmin : min r c' ≤ min r c := le_min (min_le_left r c') hlow
  have hmax : max r c ≤ max r c' := max_le (le_max_left r c') hhigh
  have hcorrelation := correlation_le_correlation hmin hmax
  refine { category := rfl, similarity := ?_, correlation := hcorrelation }
  have hproduct : Affinity.similarity r c' * Affinity.correlation r c' ≤
      Affinity.similarity r c * Affinity.correlation r c :=
    mul_le_mul (similarity_le_similarity hmin hmax) hcorrelation
      (zero_le_one.trans (one_le_correlation r c')) (similarity_nonneg r c)
  rw [similarity_ofScores, similarity_ofScores]
  exact min_le_min_right _ hproduct

theorem NoFurther.shortfall_le {near far : CategoryComparison K} (h : NoFurther near far)
    (hweight : near.weight = far.weight) (hnonneg : 0 ≤ far.weight) :
    near.shortfall ≤ far.shortfall := by
  unfold shortfall
  rw [hweight]
  exact mul_le_mul_of_nonneg_right (sub_le_sub_left h.similarity _) hnonneg

end CategoryComparison

/-! ## Profiles -/

namespace Comparison

/-- The candidate of one comparison is at least as close to the reference as that of another one: in
every category and in the base. -/
structure AtLeastAsClose (near far : Comparison K) : Prop where
  /-- Both compare all eleven categories … -/
  all : near.categories.map (·.category) = Category.all
  /-- … and agree at least as much in each of them. -/
  categories : List.Forall₂ CategoryComparison.NoFurther near.categories far.categories
  base : far.baseScore ≤ near.baseScore

variable {reference closer farther : Profile K}

/-- The categories of a candidate whose scores lie between those of two others. -/
theorem forall₂_categoriesOf (weights : Weights K)
    (h : ∀ c, closer.scores.value c ∈
      Set.uIcc (reference.scores.value c) (farther.scores.value c)) :
    List.Forall₂ CategoryComparison.NoFurther (categoriesOf weights reference closer)
      (categoriesOf weights reference farther) := by
  unfold categoriesOf
  rw [List.forall₂_map_left_iff, List.forall₂_map_right_iff, List.forall₂_same]
  intro c _
  exact CategoryComparison.noFurther_ofScores c (weights.of c) (h c)

/-- The base of such a candidate. -/
theorem baseOf_le_baseOf {weights : Weights K} (hnonneg : ∀ c, 0 ≤ weights.of c)
    (h : ∀ c, closer.scores.value c ∈
      Set.uIcc (reference.scores.value c) (farther.scores.value c)) :
    baseOf (categoriesOf weights reference farther) ≤
      baseOf (categoriesOf weights reference closer) := by
  have hlacks : ((categoriesOf weights reference closer).map (·.shortfall)).sum ≤
      ((categoriesOf weights reference farther).map (·.shortfall)).sum := by
    unfold categoriesOf
    rw [List.map_map, List.map_map]
    apply List.sum_le_sum
    intro c _
    exact (CategoryComparison.noFurther_ofScores c (weights.of c) (h c)).shortfall_le rfl
      (hnonneg c)
  unfold baseOf
  rw [sum_eq, sum_eq]
  exact clampScore_mono (sub_le_sub_left hlacks _)

/-- **Getting closer to the reference lowers nothing.** If each score of one candidate lies between
those of the reference and of another candidate, its similarities, its bonuses and its base are no
lower than those of the other one. There are both comparisons unless nothing was analyzed in the
reference and in one of the candidates. -/
theorem ofProfiles_closer {settings : Settings K} (hvalid : settings.isValid = true)
    (h : ∀ c, closer.scores.value c ∈
      Set.uIcc (reference.scores.value c) (farther.scores.value c)) :
    (reference.isEmpty = true ∧ (closer.isEmpty = true ∨ farther.isEmpty = true)) ∨
      ∃ near far, ofProfiles settings reference closer = .ok near ∧
        ofProfiles settings reference farther = .ok far ∧ near.AtLeastAsClose far := by
  by_cases hempty : reference.isEmpty = true ∧ (closer.isEmpty = true ∨ farther.isEmpty = true)
  · exact .inl hempty
  have hnear : ¬ (reference.isEmpty = true ∧ closer.isEmpty = true) :=
    fun hboth => hempty ⟨hboth.1, .inl hboth.2⟩
  have hfar : ¬ (reference.isEmpty = true ∧ farther.isEmpty = true) :=
    fun hboth => hempty ⟨hboth.1, .inr hboth.2⟩
  have hweights : ∀ c, 0 ≤ settings.weights.of c :=
    ((Weights.problem?_eq_none_iff _).1 ((Settings.isValid_iff settings).1 hvalid).1).1
  refine .inr ⟨_, _, ofProfiles_eq_ok settings hnear, ofProfiles_eq_ok settings hfar, ?_⟩
  refine { all := ?_, categories := forall₂_categoriesOf settings.weights h,
           base := baseOf_le_baseOf hweights h }
  show (categoriesOf settings.weights reference closer).map (·.category) = Category.all
  unfold categoriesOf
  rw [List.map_map]
  exact List.map_id _

/-- Two weak repositories and a third that is weaker still: only the closer one has the bonus. -/
theorem ofProfiles_closer_weak :
    let weak (name : String) (score : ℚ) : Profile ℚ :=
      { Profile.empty name .standard {} with
        scores := .ofList (Category.all.map (.of · score))
        languages := ⟨[(.python, { files := 1, lines := 10, share := 1 })]⟩ }
    let reference := weak "acme/api" 28
    let closer := weak "acme/web" 20
    let farther := weak "acme/old" 17
    (Settings.standard : Settings ℚ).isValid = true ∧
      (∀ c, closer.scores.value c ∈
        Set.uIcc (reference.scores.value c) (farther.scores.value c)) ∧
      (correlation 28 20 : ℚ) = 51 / 50 ∧ (correlation 28 17 : ℚ) = 1 ∧
      ∃ near far, ofProfiles .standard reference closer = .ok near ∧
        ofProfiles .standard reference farther = .ok far ∧ near.AtLeastAsClose far := by
  intro weak reference closer farther
  have hbetween : ∀ c, closer.scores.value c ∈
      Set.uIcc (reference.scores.value c) (farther.scores.value c) := by
    intro c
    cases c <;> exact ⟨by decide +kernel, by decide +kernel⟩
  refine ⟨Settings.standard_isValid, hbetween, by decide +kernel, by decide +kernel, ?_⟩
  refine (ofProfiles_closer Settings.standard_isValid hbetween).resolve_left ?_
  rintro ⟨hempty, -⟩
  cases hempty

end Comparison

end Affinity
