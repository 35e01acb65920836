import Mathlib
import Affinity.Proofs.Scalar.WeightedMean
import Affinity.Proofs.Score.Evidence

/-!
# The formulas over exact scalars

Over exact scalars the eight formulas are rational functions of the counts: fractions have their
value, the lesser and the greater of two numbers are minimum and maximum. Here each formula is
written so, and everything else about the scores starts from these equations.

* `formulaValue` — what the formula of a base category gives before it becomes a score.
* `namingValue_eq`, …, `styleConsistencyValue_eq` — the formulas.
* `LanguageMetrics.value_eq` — the scores of a language come from the values of the formulas.
-/

namespace Affinity

open Scalar

/-! ## Sums of counts over files -/

section

variable (f : FileFacts → Nat)

@[simp] theorem totalOf_cons (file : FileFacts) (files : List FileFacts) :
    totalOf f (file :: files) = f file + totalOf f files := rfl

@[simp] theorem totalOf_append (before after : List FileFacts) :
    totalOf f (before ++ after) = totalOf f before + totalOf f after := by
  unfold totalOf
  rw [List.map_append, sumOf_append]

theorem totalOf_le_totalOf {f g : FileFacts → Nat} {files : List FileFacts}
    (h : ∀ file ∈ files, f file ≤ g file) : totalOf f files ≤ totalOf g files := by
  induction files with
  | nil => exact Nat.le_refl 0
  | cons file rest ih =>
    rw [totalOf_cons, totalOf_cons]
    exact Nat.add_le_add (h file (List.mem_cons_self ..))
      (ih fun x hx => h x (List.mem_cons_of_mem _ hx))

end

/-! ## Dangerous constructs of several files -/

theorem dangersByKind_eq (files : List FileFacts) :
    dangersByKind files = (files.flatMap (·.security.entries)).foldl
      (fun table entry => table.add entry.1 entry.2) {} :=
  List.foldl_flatMap.symm

/-- The dangerous constructs of all kinds are those of all files. -/
theorem total_dangersByKind (files : List FileFacts) :
    (dangersByKind files).total = totalOf (·.security.total) files := by
  rw [dangersByKind_eq, Table.total_foldl_add]
  refine (Nat.zero_add _).trans ?_
  induction files with
  | nil => rfl
  | cons file rest ih =>
    rw [List.flatMap_cons, List.map_append, sumOf_append, ih]
    rfl

/-! ## The formulas -/

/-- What the formula of a base category gives for some files, before it becomes a score. -/
def formulaValue {K : Type} [Scalar K] (thresholds : Thresholds K) (files : List FileFacts) :
    Category → K
  | .naming => namingValue files
  | .documentation => documentationValue files
  | .modularity => modularityValue thresholds files
  | .complexity => complexityValue thresholds (files.flatMap (·.functions))
  | .errorHandling => errorHandlingValue files
  | .testing => testingValue files
  | .security => securityValue files
  | .styleConsistency => styleConsistencyValue files
  | _ => 0.0

/-! ## From formulas to scores -/

namespace LanguageMetrics

variable {K : Type} [Scalar K]

/-- What a language makes of the value of a formula, by the share of annotated places. -/
def scoreOf (language : Language) (coverage : K) : Category → K → K
  | .documentation, x =>
    if language = .typescript then
      clampScore (clampScore x + if 0.7 < coverage then 20.0 else 0.0)
    else clampScore x
  | .testing, x => if language.isMarkup then clampScore neutralScore else clampScore x
  | .security, x =>
    if language = .typescript then clampScore (clampScore x + coverage * 20.0) else clampScore x
  | _, x => clampScore x

/-- **The scores of a language come from the values of the formulas.** -/
theorem value_eq (language : Language) (thresholds : Thresholds K) {files : List FileFacts}
    (hfiles : files ≠ []) {category : Category} (hbase : category ∈ Category.base) :
    (ofFacts language thresholds files).scores.value category =
      scoreOf language (typeCoverage files) category (formulaValue thresholds files category) := by
  have hsome : ¬ files.isEmpty = true := by simpa using hfiles
  rw [value_ofFacts language thresholds files hbase]
  cases category with
  | naming => exact CategoryScore.value_withEvidence ..
  | documentation =>
    rw [score, scoreOf]
    split
    · simp only [typedDocumentationScore, documentationScore, CategoryScore.value_withEvidence,
        formulaValue]
    · exact CategoryScore.value_withEvidence ..
  | modularity => exact (congrArg _ (if_neg hsome)).trans (CategoryScore.value_withEvidence ..)
  | complexity => exact CategoryScore.value_withEvidence ..
  | errorHandling => exact CategoryScore.value_withEvidence ..
  | testing =>
    rw [score, scoreOf]
    split
    · rfl
    · exact CategoryScore.value_withEvidence ..
  | security =>
    rw [score, scoreOf]
    split
    · simp only [typedSecurityScore, securityScore, CategoryScore.value_withEvidence, formulaValue]
    · exact CategoryScore.value_withEvidence ..
  | styleConsistency =>
    exact (congrArg _ (if_neg hsome)).trans (CategoryScore.value_withEvidence ..)
  | patterns => exact absurd hbase (by decide)
  | performance => exact absurd hbase (by decide)
  | comments => exact absurd hbase (by decide)

end LanguageMetrics

variable {K : Type} [ExactScalar K]

/-- What a language has of its own does not turn the direction. -/
theorem LanguageMetrics.scoreOf_mono (language : Language) (coverage : K) (category : Category)
    {x y : K} (h : x ≤ y) :
    scoreOf language coverage category x ≤ scoreOf language coverage category y := by
  have hclamp := clampScore_mono h
  cases category with
  | documentation =>
    rw [scoreOf, scoreOf]
    split
    · exact clampScore_mono (add_le_add_left hclamp _)
    · exact hclamp
  | testing =>
    rw [scoreOf, scoreOf]
    split
    · exact le_rfl
    · exact hclamp
  | security =>
    rw [scoreOf, scoreOf]
    split
    · exact clampScore_mono (add_le_add_left hclamp _)
    · exact hclamp
  | _ => exact hclamp

/-! ## The equations of the formulas -/

/-- Against a whole of one any positive count is enough. -/
theorem capped_ratio_one {part : Nat} (h : 0 < part) : min (ratio part 1 : K) 1 = 1 := by
  rw [ratio_eq, Nat.cast_one, div_one]
  exact min_eq_right (Nat.one_le_cast.2 h)

theorem namingValue_eq (files : List FileFacts) :
    (namingValue files : K) =
      if totalOf (·.naming.total) files = 0 then 50
      else 100 * ratio (totalOf (·.naming.conventional) files) (totalOf (·.naming.total) files) *
        (1 - 1 / 2 * ratio (totalOf (·.naming.short) files) (totalOf (·.naming.total) files)) := by
  simp only [namingValue, neutralScore, literal_eq]
  norm_num

theorem documentationValue_eq (files : List FileFacts) :
    (documentationValue files : K) =
      if totalOf (·.docs.publicSymbols) files = 0 then
        100 * ratio (moduleDocCount files) files.length
      else
        85 * ratio (totalOf (·.docs.documentedSymbols) files)
            (totalOf (·.docs.publicSymbols) files) +
          15 * ratio (moduleDocCount files) files.length := by
  simp only [documentationValue, literal_eq]
  norm_num

theorem comfort_eq (total files : Nat) (comfortable : K) :
    comfort total files comfortable =
      if (total : K) / files ≤ comfortable then 1 else comfortable / (total / files) := by
  simp only [comfort, literal_eq]
  norm_num

/-- What modularity is made of, with weights. -/
def modularityParts {K : Type} [Scalar K] (thresholds : Thresholds K) (files : List FileFacts) :
    List (K × K) := [
  (0.4, 1.0 - ratio (monolithicCount thresholds.monolithicFileLines files) files.length),
  (0.3, comfort (totalOf (·.lines.total) files) files.length 300.0),
  (0.2, comfort (totalOf (·.functions.length) files) files.length 20.0),
  (0.1, comfort (totalOf (·.classes.length) files) files.length 3.0)]

theorem modularityValue_eq (thresholds : Thresholds K) (files : List FileFacts) :
    modularityValue thresholds files = 100 * weightedMean (modularityParts thresholds files) := by
  simp only [modularityValue, modularityParts, weightedMean, literal_eq, List.map_cons,
    List.map_nil, List.sum_cons, List.sum_nil]
  norm_num [add_assoc]

theorem inverseDecay_eq (excess scale : K) :
    inverseDecay excess scale = 1 / (1 + (max excess 0 / scale) ^ 2) := by
  simp only [inverseDecay, square, greatest_eq_max, literal_eq]
  norm_num [sq]

theorem meanOf_eq (f : FunctionFacts → Nat) (functions : List FunctionFacts) :
    (meanOf f functions : K) = (functions.map fun x => (f x : K)).sum / functions.length := by
  rw [meanOf, sum_eq]

theorem complexityValue_eq (thresholds : Thresholds K) (functions : List FunctionFacts) :
    complexityValue thresholds functions =
      if functions = [] then 100
      else 100 * inverseDecay
        (meanOf (·.complexity) functions + 2 * max (meanOf (·.maxNesting) functions - 2) 0 - 1)
        thresholds.complexityPerFunction := by
  simp only [complexityValue, greatest_eq_max, literal_eq, List.isEmpty_iff]
  norm_num

theorem errorHandlingValue_eq (files : List FileFacts) :
    (errorHandlingValue files : K) =
      if totalOf (·.errors.risk) files = 0 then
        (if totalOf (·.errors.checks) files = 0 then 70 else 100)
      else 100 * min
        (ratio (totalOf (·.errors.guarded) files + totalOf (·.errors.checks) files)
          (totalOf (·.errors.risk) files)) 1 := by
  simp only [errorHandlingValue, least_eq_min, literal_eq]
  norm_num

theorem testPresence_eq (files : List FileFacts) :
    (testPresence files : K) = min (ratio (testFileCount files) files.length / (1 / 4)) 1 := by
  simp only [testPresence, least_eq_min, literal_eq]
  norm_num

/-- The functions outside of tests. -/
def productionFunctions (files : List FileFacts) : Nat :=
  totalOf (·.functions.length) (files.filter (!·.tests.isTestFile))

theorem testCoverage_eq (files : List FileFacts) :
    (testCoverage files : K) =
      if totalOf (·.tests.testFunctions) files = 0 then 0
      else min ((totalOf (·.tests.testFunctions) files : Nat) /
        max ((productionFunctions files : K) * (1 / 2)) 1) 1 := by
  simp only [testCoverage, productionFunctions, greatest_eq_max, least_eq_min, literal_eq]
  norm_num

theorem assertionDensity_eq (files : List FileFacts) :
    (assertionDensity files : K) =
      min (ratio (totalOf (·.tests.assertions) files)
        (totalOf (·.tests.testFunctions) files)) 1 := by
  simp only [assertionDensity, least_eq_min, literal_eq]
  norm_num

/-- What testing is made of, with weights. -/
def testingParts {K : Type} [Scalar K] (files : List FileFacts) : List (K × K) := [
  (0.4, testPresence files), (0.35, testCoverage files), (0.25, assertionDensity files)]

theorem testingValue_eq (files : List FileFacts) :
    (testingValue files : K) = 100 * weightedMean (testingParts files) := by
  simp only [testingValue, testingParts, weightedMean, literal_eq, List.map_cons, List.map_nil,
    List.sum_cons, List.sum_nil]
  norm_num [add_assoc]

theorem securityValue_eq (files : List FileFacts) :
    (securityValue files : K) =
      if files = [] then 0 else 100 / (1 + 2 * ratio (dangersByKind files).total files.length) := by
  simp only [securityValue, literal_eq, List.isEmpty_iff]
  norm_num

theorem habitShare_eq (a b : Nat) :
    (habitShare a b : K) = if a + b = 0 then 1 else ratio (max a b) (a + b) := by
  simp only [habitShare, ratio, literal_eq]
  norm_num
  split <;> rfl

/-- The steps of indentation of the files that have one. -/
def indentUnits {K : Type} [Scalar K] (files : List FileFacts) : List K :=
  (files.filterMap (·.style.indentUnit)).map fun n => (n : K)

/-- The mean of the squared distances from the mean. -/
def variance (values : List K) : K :=
  (values.map fun x => (x - values.sum / values.length) ^ 2).sum / values.length

theorem indentConsistency_eq (files : List FileFacts) :
    (indentConsistency files : K) = 1 / (1 + variance (indentUnits files) / 4) := by
  show (let steps : List K := indentUnits files
    let mean := sum steps / (steps.length : Nat)
    if steps.isEmpty then 1.0
    else 1.0 / (1.0 + sum (steps.map fun u => square (u - mean)) / (steps.length : Nat) / 4.0)) = _
  simp only [sum_eq, square, ← sq, literal_eq, List.isEmpty_iff, variance]
  split
  · next h =>
    rw [h]
    norm_num
  · norm_num

theorem cleanShare_eq (files : List FileFacts) :
    (cleanShare files : K) =
      1 - min (ratio (totalOf (·.style.trailingWhitespace) files)
        (max (totalOf (·.lines.code) files) 1)) 1 := by
  simp only [cleanShare, least_eq_min, literal_eq]
  norm_num

/-- What consistency of style is made of, with weights. -/
def styleParts {K : Type} [Scalar K] (files : List FileFacts) : List (K × K) := [
  (0.35, indentConsistency files), (0.2, whitespaceConsistency files),
  (0.25, braceConsistency files), (0.1, lineEndingConsistency files), (0.1, cleanShare files)]

theorem styleConsistencyValue_eq (files : List FileFacts) :
    (styleConsistencyValue files : K) = 100 * weightedMean (styleParts files) := by
  simp only [styleConsistencyValue, styleParts, weightedMean, literal_eq, List.map_cons,
    List.map_nil, List.sum_cons, List.sum_nil]
  norm_num [add_assoc]

end Affinity
