import Mathlib
import Affinity.Proofs.Facts.WellFormed
import Affinity.Proofs.Score.Division

/-!
# The formulas keep to the scale by themselves

A score is brought to the scale from 0 to 100 whatever the value is. The formulas do not need it:
their parts are shares and decays between 0 and 1, and the weights of the parts add up to one.

* `FormulasInRange` — what holds of the eight formulas over some files.
* `formulaValue_mem_Icc` — the range of the formulas.
* `formulasInRange` — all of it, for files whose counts fit together.
-/

namespace Affinity

open Scalar

variable {K : Type} [ExactScalar K]

/-! ## Parts between 0 and 1 -/

theorem ratio_nonneg (part whole : Nat) : (0 : K) ≤ ratio part whole := by
  rw [ratio_eq]
  positivity

theorem ratio_mem_Icc {part whole : Nat} (h : part ≤ whole) :
    (ratio part whole : K) ∈ Set.Icc 0 1 := by
  refine ⟨ratio_nonneg part whole, ?_⟩
  rw [ratio_eq]
  exact div_le_one_of_le₀ (Nat.cast_le.2 h) (Nat.cast_nonneg whole)

theorem least_mem_Icc {x : K} (h : 0 ≤ x) : min x 1 ∈ Set.Icc (0 : K) 1 :=
  ⟨le_min h zero_le_one, min_le_right x 1⟩

theorem one_sub_mem_Icc {x : K} (h : x ∈ Set.Icc (0 : K) 1) : 1 - x ∈ Set.Icc (0 : K) 1 :=
  ⟨sub_nonneg.2 h.2, sub_le_self 1 h.1⟩

theorem decay_mem_Icc {x : K} (h : 0 ≤ x) : 1 / (1 + x) ∈ Set.Icc (0 : K) 1 := by
  have hone : 1 ≤ 1 + x := le_add_of_nonneg_right h
  exact ⟨one_div_nonneg.2 (zero_le_one.trans hone), div_le_one_of_le₀ hone (zero_le_one.trans hone)⟩

theorem hundred_mul_mem_Icc {x : K} (h : x ∈ Set.Icc (0 : K) 1) :
    100 * x ∈ Set.Icc (0 : K) 100 := by
  obtain ⟨hzero, hone⟩ := h
  constructor <;> linarith

theorem comfort_mem_Icc {total files : Nat} {comfortable : K} (h : 0 < comfortable) :
    comfort total files comfortable ∈ Set.Icc (0 : K) 1 := by
  rw [comfort_eq]
  split
  · exact ⟨zero_le_one, le_refl 1⟩
  · next haverage =>
    have hless : comfortable < (total : K) / files := not_le.1 haverage
    exact ⟨(div_pos h (h.trans hless)).le, div_le_one_of_le₀ hless.le (h.trans hless).le⟩

theorem inverseDecay_mem_Icc (excess scale : K) :
    inverseDecay excess scale ∈ Set.Icc (0 : K) 1 := by
  rw [inverseDecay_eq]
  exact decay_mem_Icc (sq_nonneg _)

theorem testPresence_mem_Icc (files : List FileFacts) :
    (testPresence files : K) ∈ Set.Icc 0 1 := by
  rw [testPresence_eq]
  exact least_mem_Icc (div_nonneg (ratio_nonneg _ _) (by norm_num))

theorem testCoverage_mem_Icc (files : List FileFacts) :
    (testCoverage files : K) ∈ Set.Icc 0 1 := by
  rw [testCoverage_eq]
  split
  · exact ⟨le_refl 0, zero_le_one⟩
  · exact least_mem_Icc (div_nonneg (Nat.cast_nonneg _) (zero_le_one.trans (le_max_right _ _)))

theorem assertionDensity_mem_Icc (files : List FileFacts) :
    (assertionDensity files : K) ∈ Set.Icc 0 1 := by
  rw [assertionDensity_eq]
  exact least_mem_Icc (ratio_nonneg _ _)

theorem habitShare_mem_Icc (a b : Nat) : (habitShare a b : K) ∈ Set.Icc 0 1 := by
  rw [habitShare_eq]
  split
  · exact ⟨zero_le_one, le_refl 1⟩
  · exact ratio_mem_Icc (max_le (Nat.le_add_right a b) (Nat.le_add_left b a))

theorem variance_nonneg (values : List K) : 0 ≤ variance values := by
  refine div_nonneg (List.sum_nonneg fun x hx => ?_) (Nat.cast_nonneg _)
  obtain ⟨u, -, rfl⟩ := List.mem_map.1 hx
  exact sq_nonneg _

theorem indentConsistency_mem_Icc (files : List FileFacts) :
    (indentConsistency files : K) ∈ Set.Icc 0 1 := by
  rw [indentConsistency_eq]
  exact decay_mem_Icc (div_nonneg (variance_nonneg _) (by norm_num))

theorem cleanShare_mem_Icc (files : List FileFacts) : (cleanShare files : K) ∈ Set.Icc 0 1 := by
  rw [cleanShare_eq]
  exact one_sub_mem_Icc (least_mem_Icc (ratio_nonneg _ _))

/-! ## Means of parts -/

theorem isWeighting_modularityParts (thresholds : Thresholds K) (files : List FileFacts) :
    IsWeighting (modularityParts thresholds files) :=
  ⟨by norm_num [modularityParts, literal_eq], by norm_num [modularityParts, literal_eq]⟩

theorem isWeighting_testingParts (files : List FileFacts) :
    IsWeighting (testingParts files : List (K × K)) :=
  ⟨by norm_num [testingParts, literal_eq], by norm_num [testingParts, literal_eq]⟩

theorem isWeighting_styleParts (files : List FileFacts) :
    IsWeighting (styleParts files : List (K × K)) :=
  ⟨by norm_num [styleParts, literal_eq], by norm_num [styleParts, literal_eq]⟩

theorem modularityParts_mem_Icc (thresholds : Thresholds K) (files : List FileFacts) :
    ∀ part ∈ modularityParts thresholds files, part.2 ∈ Set.Icc (0 : K) 1 := by
  have hmonolithic : monolithicCount thresholds.monolithicFileLines files ≤ files.length :=
    List.countP_le_length
  simp only [modularityParts, literal_one, List.forall_mem_cons]
  exact ⟨one_sub_mem_Icc (ratio_mem_Icc hmonolithic), comfort_mem_Icc (by norm_num [literal_eq]),
    comfort_mem_Icc (by norm_num [literal_eq]), comfort_mem_Icc (by norm_num [literal_eq]),
    List.forall_mem_nil _⟩

theorem testingParts_mem_Icc (files : List FileFacts) :
    ∀ part ∈ testingParts files, part.2 ∈ Set.Icc (0 : K) 1 := by
  simp only [testingParts, List.forall_mem_cons]
  exact ⟨testPresence_mem_Icc files, testCoverage_mem_Icc files, assertionDensity_mem_Icc files,
    List.forall_mem_nil _⟩

theorem styleParts_mem_Icc (files : List FileFacts) :
    ∀ part ∈ styleParts files, part.2 ∈ Set.Icc (0 : K) 1 := by
  simp only [styleParts, List.forall_mem_cons]
  exact ⟨indentConsistency_mem_Icc files, habitShare_mem_Icc _ _, habitShare_mem_Icc _ _,
    habitShare_mem_Icc _ _, cleanShare_mem_Icc files, List.forall_mem_nil _⟩

section

variable {parts : List (K × K)} (h : IsWeighting parts)
  (hparts : ∀ part ∈ parts, part.2 ∈ Set.Icc (0 : K) 1)

include h hparts

theorem IsWeighting.hundred_mul_mem_Icc : 100 * weightedMean parts ∈ Set.Icc (0 : K) 100 :=
  Affinity.hundred_mul_mem_Icc (h.mean_mem_Icc hparts)

/-- The mean of the parts is full if and only if each part is. -/
theorem IsWeighting.hundred_mul_eq_iff :
    100 * weightedMean parts = 100 ↔ ∀ part ∈ parts, part.2 = 1 := by
  rw [← h.mean_eq_iff fun part hpart => (hparts part hpart).2]
  exact mul_eq_left₀ (by norm_num)

end

/-! ## The formulas -/

variable {thresholds : Thresholds K} {files : List FileFacts}

theorem namingValue_mem_Icc (h : ∀ f ∈ files, f.naming.WellFormed) :
    (namingValue files : K) ∈ Set.Icc 0 100 := by
  have hconventional := ratio_mem_Icc (K := K)
    (totalOf_le_totalOf fun f hf => (h f hf).conventional)
  have hshort := ratio_mem_Icc (K := K) (totalOf_le_totalOf fun f hf => (h f hf).short)
  rw [namingValue_eq]
  split
  · norm_num
  · rw [mul_assoc]
    -- a share of short names takes at most half of what the conventional ones give
    have hrest : 1 - 1 / 2 * ratio (totalOf (·.naming.short) files)
        (totalOf (·.naming.total) files) ∈ Set.Icc (0 : K) 1 := by
      obtain ⟨hzero, hone⟩ := hshort
      constructor <;> linarith
    exact hundred_mul_mem_Icc
      ⟨mul_nonneg hconventional.1 hrest.1, mul_le_one₀ hconventional.2 hrest.1 hrest.2⟩

theorem documentationValue_mem_Icc
    (h : ∀ f ∈ files, f.docs.documentedSymbols ≤ f.docs.publicSymbols) :
    (documentationValue files : K) ∈ Set.Icc 0 100 := by
  have hmodules : (ratio (moduleDocCount files) files.length : K) ∈ Set.Icc 0 1 :=
    ratio_mem_Icc List.countP_le_length
  have hsymbols := ratio_mem_Icc (K := K) (totalOf_le_totalOf h)
  rw [documentationValue_eq]
  split
  · exact hundred_mul_mem_Icc hmodules
  · obtain ⟨hzero, hone⟩ := hmodules
    obtain ⟨hnone, hall⟩ := hsymbols
    constructor <;> linarith

theorem complexityValue_mem_Icc (functions : List FunctionFacts) :
    complexityValue thresholds functions ∈ Set.Icc (0 : K) 100 := by
  rw [complexityValue_eq]
  split
  · norm_num
  · exact hundred_mul_mem_Icc (inverseDecay_mem_Icc _ _)

theorem errorHandlingValue_mem_Icc : (errorHandlingValue files : K) ∈ Set.Icc 0 100 := by
  rw [errorHandlingValue_eq]
  split
  · split <;> norm_num
  · exact hundred_mul_mem_Icc (least_mem_Icc (ratio_nonneg _ _))

theorem securityValue_mem_Icc : (securityValue files : K) ∈ Set.Icc 0 100 := by
  rw [securityValue_eq]
  split
  · norm_num
  · rw [← mul_one_div]
    exact hundred_mul_mem_Icc (decay_mem_Icc (mul_nonneg zero_le_two (ratio_nonneg _ _)))

/-- **The formulas keep to the scale by themselves.** -/
theorem formulaValue_mem_Icc (hnaming : ∀ f ∈ files, f.naming.WellFormed)
    (hdocs : ∀ f ∈ files, f.docs.documentedSymbols ≤ f.docs.publicSymbols) (category : Category) :
    formulaValue thresholds files category ∈ Set.Icc (0 : K) 100 := by
  have hzero : (0.0 : K) ∈ Set.Icc 0 100 := by norm_num [literal_eq]
  cases category with
  | naming => exact namingValue_mem_Icc hnaming
  | documentation => exact documentationValue_mem_Icc hdocs
  | modularity =>
    rw [formulaValue, modularityValue_eq]
    exact (isWeighting_modularityParts _ _).hundred_mul_mem_Icc (modularityParts_mem_Icc _ _)
  | complexity => exact complexityValue_mem_Icc _
  | errorHandling => exact errorHandlingValue_mem_Icc
  | testing =>
    rw [formulaValue, testingValue_eq]
    exact (isWeighting_testingParts _).hundred_mul_mem_Icc (testingParts_mem_Icc _)
  | security => exact securityValue_mem_Icc
  | styleConsistency =>
    rw [formulaValue, styleConsistencyValue_eq]
    exact (isWeighting_styleParts _).hundred_mul_mem_Icc (styleParts_mem_Icc _)
  | patterns => exact hzero
  | performance => exact hzero
  | comments => exact hzero

/-! ## Scores without clamping -/

/-- Without types and tests of its own a language only brings the values to the scale. -/
theorem LanguageMetrics.scoreOf_eq_clampScore {language : Language}
    (htypes : language ≠ .typescript) {category : Category}
    (htests : category = .testing → language.isMarkup = false) (coverage x : K) :
    scoreOf language coverage category x = clampScore x := by
  cases category with
  | documentation => exact if_neg htypes
  | testing => rw [scoreOf, htests rfl, if_neg Bool.false_ne_true]
  | security => exact if_neg htypes
  | _ => rfl

/-! ## The formulas in range -/

/-- What holds of the eight formulas over some files. -/
structure FormulasInRange (thresholds : Thresholds K) (files : List FileFacts) : Prop where
  /-- The values are on the scale of scores … -/
  range : ∀ category ∈ Category.base, formulaValue thresholds files category ∈ Set.Icc (0 : K) 100
  /-- … so that bringing them to it changes nothing. -/
  unclamped : ∀ language : Language, language ≠ .typescript → ∀ category ∈ Category.base,
    (category = .testing → language.isMarkup = false) →
      (LanguageMetrics.ofFacts language thresholds files).scores.value category =
        formulaValue thresholds files category
  /-- No divisor is zero … -/
  divisors : ∀ category, ∀ y ∈ formulaDivisors thresholds files category, y ≠ 0
  /-- … and there are no others, neither in the formulas nor in the evidence. -/
  divisions : ∀ (divide : K → K → K) (category : Category),
    (∀ y ∈ formulaDivisors thresholds files category, AgreesAt divide y) →
      @formulaValue K (withDivision divide) thresholds files category =
        formulaValue thresholds files category ∧
      ∀ language : Language, language ≠ .typescript →
        @LanguageMetrics.score K (withDivision divide) language thresholds files category =
          LanguageMetrics.score language thresholds files category
  /-- Modularity is full if no file is monolithic and each average is comfortable. -/
  modularity : modularityValue thresholds files = 100 ↔
    1 - ratio (monolithicCount thresholds.monolithicFileLines files) files.length = (1 : K) ∧
      comfort (totalOf (·.lines.total) files) files.length (300.0 : K) = 1 ∧
      comfort (totalOf (·.functions.length) files) files.length (20.0 : K) = 1 ∧
      comfort (totalOf (·.classes.length) files) files.length (3.0 : K) = 1
  testing : (testingValue files : K) = 100 ↔
    (testPresence files : K) = 1 ∧ (testCoverage files : K) = 1 ∧ (assertionDensity files : K) = 1
  styleConsistency : (styleConsistencyValue files : K) = 100 ↔
    (indentConsistency files : K) = 1 ∧ (whitespaceConsistency files : K) = 1 ∧
      (braceConsistency files : K) = 1 ∧ (lineEndingConsistency files : K) = 1 ∧
      (cleanShare files : K) = 1

/-- **The eight formulas over files whose counts fit together** keep to the scale by themselves,
divide by no zero, and are full exactly when each of their parts is. -/
theorem formulasInRange (hscale : 0 < thresholds.complexityPerFunction) (hfiles : files ≠ [])
    (hnaming : ∀ f ∈ files, f.naming.WellFormed)
    (hdocs : ∀ f ∈ files, f.docs.documentedSymbols ≤ f.docs.publicSymbols) :
    FormulasInRange thresholds files where
  range category _ := formulaValue_mem_Icc hnaming hdocs category
  unclamped language htypes category hbase htests := by
    rw [LanguageMetrics.value_eq language thresholds hfiles hbase,
      LanguageMetrics.scoreOf_eq_clampScore htypes htests]
    exact clampScore_eq_self (formulaValue_mem_Icc hnaming hdocs category)
  divisors _ _ hy := (formulaDivisors_pos hscale hfiles hy).ne'
  divisions _ _ hagree := ⟨formulaValue_withDivision hagree, fun _ htypes =>
    LanguageMetrics.score_withDivision htypes hagree⟩
  modularity := by
    rw [modularityValue_eq, (isWeighting_modularityParts _ _).hundred_mul_eq_iff
      (modularityParts_mem_Icc _ _)]
    simp only [modularityParts, literal_one, List.forall_mem_cons, List.not_mem_nil,
      IsEmpty.forall_iff, implies_true, and_true]
  testing := by
    rw [testingValue_eq, (isWeighting_testingParts _).hundred_mul_eq_iff (testingParts_mem_Icc _)]
    simp only [testingParts, List.forall_mem_cons, List.not_mem_nil, IsEmpty.forall_iff,
      implies_true, and_true]
  styleConsistency := by
    rw [styleConsistencyValue_eq, (isWeighting_styleParts _).hundred_mul_eq_iff
      (styleParts_mem_Icc _)]
    simp only [styleParts, List.forall_mem_cons, List.not_mem_nil, IsEmpty.forall_iff,
      implies_true, and_true]

/-- A production file and its test: half of the functions of the repository are tests, which is more
than needed, so testing is full. The quotients by zero may be anything. -/
theorem formulasInRange_of_tested :
    let thresholds : Thresholds ℚ := .standard
    let production : FileFacts :=
      { path := "run.go", language := .go, lines := { total := 640, code := 600 }
        naming := { total := 4, conventional := 3, short := 1 }
        docs := { publicSymbols := 2, documentedSymbols := 1 }
        functions := [{ name := "run", line := 3, branches := 9 }] }
    let test : FileFacts :=
      { path := "run_test.go", language := .go, lines := { total := 40, code := 30 }
        tests := { isTestFile := true, testFunctions := 1, assertions := 2 } }
    let files := [production, test]
    (0 < thresholds.complexityPerFunction ∧ files ≠ [] ∧ (∀ f ∈ files, f.naming.WellFormed) ∧
      ∀ f ∈ files, f.docs.documentedSymbols ≤ f.docs.publicSymbols) ∧
    FormulasInRange thresholds files ∧ (testingValue files : ℚ) = 100 ∧
    modularityValue thresholds files ≠ 100 ∧
    @namingValue ℚ (withDivision fun x y => if y = 0 then 7 else x / y) files = 525 / 8 := by
  intro thresholds production test files
  have hscale : 0 < thresholds.complexityPerFunction := by decide +kernel
  have hnaming : ∀ f ∈ files, f.naming.WellFormed := by
    intro f hf
    rcases List.mem_pair.1 hf with rfl | rfl <;> constructor <;> decide
  have hdocs : ∀ f ∈ files, f.docs.documentedSymbols ≤ f.docs.publicSymbols := by decide
  have hrange := formulasInRange hscale (List.cons_ne_nil _ _) hnaming hdocs
  refine ⟨⟨hscale, List.cons_ne_nil _ _, hnaming, hdocs⟩, hrange, ?_, ?_, ?_⟩
  · rw [hrange.testing]
    decide +kernel
  · rw [Ne, hrange.modularity]
    decide +kernel
  · have hdivisions := (hrange.divisions (fun x y => if y = 0 then 7 else x / y) .naming
      fun y hy x => if_neg (hrange.divisors _ y hy)).1
    refine hdivisions.trans ?_
    decide +kernel

end Affinity
