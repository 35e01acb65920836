import Mathlib
import Affinity.Comparison.Basic
import Affinity.Proofs.Comparison.Division
import Affinity.Proofs.Comparison.Factors
import Affinity.Proofs.Comparison.Overlap

/-!
# The bounds of a comparison

Whatever the two profiles hold, a comparison stays within fixed bounds: the scores between zero and
a hundred, the overlap between one tenth and one, the product of the factors near one. The overlap
bounds the score, and two repositories without a common language are in the lowest band.

* `WithinBounds` — the bounds of every part of a comparison.
* `ofProfiles_withinBounds` — there is a comparison unless both sides are empty, it is within its
  bounds, and it divides by nothing that is zero.
* `ofProfiles_of_apart` — repositories without a common language.
-/

namespace Affinity

open Scalar

variable {K : Type} [ExactScalar K]

theorem Level.ofScore_of_lt {score : K} (h : score < 45) : ofScore score = poor := by
  have hfair : ¬ (45 : K) ≤ score := not_le.2 h
  have hacceptable : ¬ (60 : K) ≤ score := by linarith
  have hgood : ¬ (75 : K) ≤ score := by linarith
  have hexcellent : ¬ (90 : K) ≤ score := by linarith
  unfold ofScore
  norm_num [literal_eq, hfair, hacceptable, hgood, hexcellent]

namespace Comparison

/-- Every part of a comparison is within its bounds. -/
structure WithinBounds (comparison : Comparison K) : Prop where
  score : comparison.score ∈ Set.Icc 0 100
  base : comparison.baseScore ∈ Set.Icc 0 100
  overlap : comparison.languageOverlap.factor ∈ Set.Icc (1 / 10) 1
  factors : comparison.factors.InRange
  product : comparison.factors.product ∈ Set.Icc (18 / 25) (113 / 100)
  /-- The overlap bounds the score. -/
  score_le : comparison.score ≤ 113 * comparison.languageOverlap.factor

/-- What is left of a score after it was multiplied by the overlap and the factors. -/
theorem clampScore_mul_le {base overlap product : K} (hbase : base ∈ Set.Icc 0 100)
    (hoverlap : 0 ≤ overlap) (hproduct : product ∈ Set.Icc 0 (113 / 100)) :
    clampScore (base * overlap * product) ≤ 113 * overlap := by
  obtain ⟨hbase, hbase'⟩ := hbase
  obtain ⟨hproduct, hproduct'⟩ := hproduct
  have hle : base * overlap * product ≤ 113 * overlap :=
    calc base * overlap * product ≤ 100 * overlap * (113 / 100) := by gcongr
      _ = 113 * overlap := by ring
  rw [clampScore_eq]
  exact max_le (by linarith) (min_le_of_right_le hle)

theorem compute_withinBounds (settings : Settings K) (reference candidate : Profile K) :
    (compute settings reference candidate).WithinBounds := by
  have hbase : (compute settings reference candidate).baseScore ∈ Set.Icc 0 100 :=
    clampScore_mem_Icc _
  have hoverlap : (compute settings reference candidate).languageOverlap.factor ∈
      Set.Icc (1 / 10) 1 := LanguageOverlap.factor_mem_Icc
  have hfactors : (compute settings reference candidate).factors.InRange :=
    Factors.ofProfiles_inRange reference candidate
  have hproduct := hfactors.product_mem_Icc
  refine { score := clampScore_mem_Icc _, base := hbase, overlap := hoverlap,
           factors := hfactors, product := hproduct, score_le := ?_ }
  apply clampScore_mul_le hbase
  · exact le_trans (by norm_num) hoverlap.1
  · exact ⟨le_trans (by norm_num) hproduct.1, hproduct.2⟩

omit [ExactScalar K] in
/-- Nothing was analyzed if and only if the profile has no language. -/
theorem isEmpty_iff {p : Profile K} : p.isEmpty = true ↔ p.languages.keys = [] := by
  unfold Profile.isEmpty Table.isEmpty Table.keys
  rw [List.isEmpty_iff, List.map_eq_nil_iff]

/-- There is a comparison unless nothing was analyzed on either side. -/
theorem ofProfiles_eq_ok (settings : Settings K) {reference candidate : Profile K}
    (h : ¬ (reference.isEmpty = true ∧ candidate.isEmpty = true)) :
    ofProfiles settings reference candidate = .ok (compute settings reference candidate) := by
  unfold ofProfiles
  rw [if_neg (by simpa using h)]

omit [ExactScalar K] in
/-- What comes of a comparison is what is computed for it. -/
theorem eq_compute_of_ofProfiles_eq_ok [Scalar K] {settings : Settings K}
    {reference candidate : Profile K} {comparison : Comparison K}
    (h : ofProfiles settings reference candidate = .ok comparison) :
    comparison = compute settings reference candidate := by
  unfold ofProfiles at h
  split at h
  · cases h
  · exact (Except.ok.inj h).symm

/-- **The result of a comparison is bounded.** There is none exactly if neither side has a language;
otherwise every part of it is within its bounds, whatever the profiles and the settings are. All
divisors differ from zero, and the result depends on no other quotient. -/
theorem ofProfiles_withinBounds (settings : Settings K) (reference candidate : Profile K) :
    (ofProfiles settings reference candidate = .error .noAnalyzableInput ↔
        reference.languages.keys = [] ∧ candidate.languages.keys = []) ∧
      ((reference.languages.keys = [] ∧ candidate.languages.keys = []) ∨
        ∃ comparison, ofProfiles settings reference candidate = .ok comparison ∧
          comparison.WithinBounds) ∧
      (∀ y ∈ divisors settings reference candidate, y ≠ 0) ∧
      ∀ divide : K → K → K,
        (∀ y ∈ divisors settings reference candidate, ∀ x, divide x y = x / y) →
          @ofProfiles K (withDivision divide) settings reference candidate =
            ofProfiles settings reference candidate := by
  rw [← isEmpty_iff, ← isEmpty_iff]
  refine ⟨?_, ?_, fun y hy => ne_zero_of_mem_divisors hy, fun divide hdivide =>
    ofProfiles_withDivision hdivide⟩
  · by_cases h : reference.isEmpty = true ∧ candidate.isEmpty = true
    · refine iff_of_true ?_ h
      unfold ofProfiles
      rw [if_pos (by simpa using h)]
    · refine iff_of_false ?_ h
      rw [ofProfiles_eq_ok settings h]
      nofun
  · by_cases h : reference.isEmpty = true ∧ candidate.isEmpty = true
    · exact .inl h
    · exact .inr ⟨_, ofProfiles_eq_ok settings h, compute_withinBounds ..⟩

/-- A candidate in which nothing was analyzed, and a division in which a quotient by zero is
seven. -/
theorem ofProfiles_withinBounds_empty_candidate :
    let reference : Profile ℚ :=
      { Profile.empty "acme/api" .standard {} with
        languages := ⟨[(.python, { files := 1, lines := 10, share := 1 })]⟩ }
    let candidate : Profile ℚ := Profile.empty "acme/web" .standard {}
    let divide (x y : ℚ) : ℚ := if y = 0 then 7 else x / y
    (∀ y ∈ divisors .standard reference candidate, ∀ x, divide x y = x / y) ∧
      @ofProfiles ℚ (withDivision divide) .standard reference candidate =
        ofProfiles .standard reference candidate ∧
      ∃ comparison, ofProfiles .standard reference candidate = .ok comparison ∧
        comparison.WithinBounds := by
  intro reference candidate divide
  obtain ⟨-, hbounds, hzero, hsame⟩ := ofProfiles_withinBounds .standard reference candidate
  have hdivide : ∀ y ∈ divisors .standard reference candidate, ∀ x, divide x y = x / y := by
    intro y hy x
    exact if_neg (hzero y hy)
  refine ⟨hdivide, hsame divide hdivide, hbounds.resolve_left ?_⟩
  rintro ⟨hkeys, -⟩
  cases hkeys

/-- **Repositories without a common language are in the lowest band**, whatever their scores and
findings are; in particular if nothing was analyzed on one side. -/
theorem ofProfiles_of_apart (settings : Settings K) {reference candidate : Profile K}
    (hreference : ∀ l, 0 ≤ reference.share l) (hcandidate : ∀ l, 0 ≤ candidate.share l)
    (hsome : ¬ (reference.isEmpty = true ∧ candidate.isEmpty = true))
    (hapart : LanguageOverlap.Apart reference candidate ∨
      reference.isEmpty = true ∨ candidate.isEmpty = true) :
    ∃ comparison, ofProfiles settings reference candidate = .ok comparison ∧
      comparison.languageOverlap.factor = 1 / 10 ∧ comparison.level = .poor ∧
      comparison.score < 45 := by
  have hoverlap : (compute settings reference candidate).languageOverlap.factor = 1 / 10 :=
    LanguageOverlap.factor_of_apart hreference hcandidate
      (hapart.elim id LanguageOverlap.apart_of_isEmpty)
  have hscore : (compute settings reference candidate).score < 45 := by
    have hle := (compute_withinBounds settings reference candidate).score_le
    rw [hoverlap] at hle
    exact lt_of_le_of_lt hle (by norm_num)
  exact ⟨_, ofProfiles_eq_ok settings hsome, hoverlap, Level.ofScore_of_lt hscore, hscore⟩

/-- Perfect scores on both sides, in different languages. -/
theorem ofProfiles_of_apart_perfect_scores :
    let perfect (l : Language) : Profile ℚ :=
      { Profile.empty "acme/api" .standard {} with
        scores := .ofList (Category.all.map (.of · 100))
        languages := ⟨[(l, { files := 1, lines := 10, share := 1 })]⟩ }
    (∀ l, 0 ≤ (perfect .python).share l) ∧ (∀ l, 0 ≤ (perfect .go).share l) ∧
      LanguageOverlap.Apart (perfect .python) (perfect .go) ∧
      ∃ comparison, ofProfiles .standard (perfect .python) (perfect .go) = .ok comparison ∧
        comparison.languageOverlap.factor = 1 / 10 ∧ comparison.level = .poor ∧
        comparison.score < 45 := by
  intro perfect
  have hpython : ∀ l, 0 ≤ (perfect .python).share l := by
    intro l
    cases l <;> decide +kernel
  have hgo : ∀ l, 0 ≤ (perfect .go).share l := by
    intro l
    cases l <;> decide +kernel
  have hapart : LanguageOverlap.Apart (perfect .python) (perfect .go) := by
    intro l
    cases l <;> decide +kernel
  exact ⟨hpython, hgo, hapart,
    ofProfiles_of_apart .standard hpython hgo (by decide +kernel) (.inl hapart)⟩

end Comparison

end Affinity
