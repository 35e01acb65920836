import Mathlib
import Affinity.Proofs.Finding.Counting
import Affinity.Proofs.Score.Formula

/-!
# Scores depend on proportions

Neither the order of the files nor their number matters, only how often something occurs relative to
something else: every formula is made of sums over the files, and takes the quotient of two of them.
Where a divisor is at least one whatever the counts are, the quotient counts up to one only, and is
one already wherever the bound applies.

* `LanguageMetrics.ofFacts_perm` — files in another order have the same metrics.
* `formulaValue_repeated` — the formulas over a batch of files that is repeated.
* `scores_proportional` — the scores of a language do not depend on order and size of a batch.
-/

namespace Affinity

open Scalar

/-! ## The order of the files -/

section

variable {files others : List FileFacts} (h : files.Perm others)

include h

theorem totalOf_perm (f : FileFacts → Nat) : totalOf f files = totalOf f others :=
  (h.map f).sum_eq

theorem dangersByKind_perm : dangersByKind files = dangersByKind others := by
  rw [dangersByKind_eq, dangersByKind_eq]
  exact Table.foldl_add_perm (h.flatMap_right _) Table.ascending_empty

variable {K : Type} [ExactScalar K]

theorem typeCoverage_perm : (typeCoverage files : K) = typeCoverage others := by
  have htypes := h.filterMap (·.types)
  unfold typeCoverage
  simp only [sumOf_eq_sum, (htypes.map _).sum_eq]

omit h in
theorem meanOf_perm {functions others : List FunctionFacts} (h : functions.Perm others)
    (f : FunctionFacts → Nat) : (meanOf f functions : K) = meanOf f others := by
  rw [meanOf_eq, meanOf_eq, (h.map _).sum_eq, h.length_eq]

omit h in
theorem variance_perm {values others : List K} (h : values.Perm others) :
    variance values = variance others := by
  rw [variance, variance, (h.map _).sum_eq, h.sum_eq, h.length_eq]

theorem indentConsistency_perm : (indentConsistency files : K) = indentConsistency others := by
  have hunits : (indentUnits files : List K).Perm (indentUnits others) :=
    (h.filterMap _).map _
  rw [indentConsistency_eq, indentConsistency_eq, variance_perm hunits]

theorem testingScore_perm : (testingScore files : CategoryScore K) = testingScore others := by
  have hproduction := h.filter (!·.tests.isTestFile)
  simp only [testingScore, testingValue, testPresence, testCoverage, assertionDensity,
    testFileCount, totalOf_perm h, totalOf_perm hproduction, h.countP_eq, h.length_eq]

theorem complexityScore_perm (thresholds : Thresholds K) :
    complexityScore thresholds files = complexityScore thresholds others := by
  have hfunctions := h.flatMap_right (·.functions)
  simp only [complexityScore, complexityValue, meanOf_perm hfunctions, hfunctions.isEmpty_eq,
    hfunctions.length_eq]

theorem securityScore_perm : (securityScore files : CategoryScore K) = securityScore others := by
  simp only [securityScore, securityValue, dangersByKind_perm h, h.isEmpty_eq, h.length_eq]

theorem styleConsistencyScore_perm :
    (styleConsistencyScore files : CategoryScore K) = styleConsistencyScore others := by
  simp only [styleConsistencyScore, styleConsistencyValue, whitespaceConsistency,
    braceConsistency, lineEndingConsistency, cleanShare, indentConsistency_perm h,
    totalOf_perm h, h.countP_eq, h.isEmpty_eq]

theorem documentationScore_perm :
    (documentationScore files : CategoryScore K) = documentationScore others := by
  simp only [documentationScore, documentationValue, moduleDocCount, totalOf_perm h, h.countP_eq,
    h.length_eq]

theorem LanguageMetrics.score_perm (language : Language) (thresholds : Thresholds K)
    (category : Category) :
    score language thresholds files category = score language thresholds others category := by
  cases category with
  | naming => simp only [score, namingScore, namingValue, totalOf_perm h]
  | documentation =>
    simp only [score, typedDocumentationScore, typeCoverage_perm h, documentationScore_perm h]
  | modularity =>
    simp only [score, modularityScore, modularityValue, monolithicCount, totalOf_perm h,
      h.countP_eq, h.isEmpty_eq, h.length_eq]
  | complexity => exact complexityScore_perm h thresholds
  | errorHandling => simp only [score, errorHandlingScore, errorHandlingValue, totalOf_perm h]
  | testing => simp only [score, testingScore_perm h]
  | security => simp only [score, typedSecurityScore, typeCoverage_perm h, securityScore_perm h]
  | styleConsistency => exact styleConsistencyScore_perm h
  | patterns => rfl
  | performance => rfl
  | comments => rfl

/-- **Files in another order have the same metrics**, the evidence included. -/
theorem LanguageMetrics.ofFacts_perm (language : Language) (thresholds : Thresholds K) :
    ofFacts language thresholds files = ofFacts language thresholds others := by
  have hscore : score language thresholds files = score language thresholds others :=
    funext (score_perm h language thresholds)
  rw [ofFacts, ofFacts, hscore, h.length_eq, totalOf_perm h]

end

/-! ## The number of the files -/

section

variable {α : Type}

/-- Some items, `k` times over. -/
def repeated (k : Nat) (items : List α) : List α := (List.replicate k items).flatten

/-- What adds up over items that stand one after the other is multiplied. -/
theorem additive_repeated {M : Type} [AddMonoid M] (μ : List α → M) (hnil : μ [] = 0)
    (happend : ∀ before after, μ (before ++ after) = μ before + μ after) (k : Nat)
    (items : List α) : μ (repeated k items) = k • μ items := by
  induction k with
  | zero => rw [zero_nsmul]; exact hnil
  | succ k ih =>
    show μ (items ++ repeated k items) = _
    rw [happend, ih, succ_nsmul']

/-- Items that come from others, piece by piece, are repeated with them. -/
theorem piecewise_repeated {β : Type} (φ : List α → List β) (hnil : φ [] = [])
    (happend : ∀ before after, φ (before ++ after) = φ before ++ φ after) (k : Nat)
    (items : List α) : φ (repeated k items) = repeated k (φ items) := by
  induction k with
  | zero => exact hnil
  | succ k ih =>
    show φ (items ++ repeated k items) = φ items ++ repeated k (φ items)
    rw [happend, ih]

theorem length_repeated (k : Nat) (items : List α) :
    (repeated k items).length = k * items.length :=
  additive_repeated List.length rfl (fun _ _ => List.length_append) k items

theorem countP_repeated (p : α → Bool) (k : Nat) (items : List α) :
    (repeated k items).countP p = k * items.countP p :=
  additive_repeated (List.countP p) rfl (fun _ _ => List.countP_append) k items

theorem repeated_eq_nil_iff {k : Nat} (hk : 0 < k) {items : List α} :
    repeated k items = [] ↔ items = [] := by
  rw [← List.length_eq_zero_iff, length_repeated, Nat.mul_eq_zero, List.length_eq_zero_iff]
  exact or_iff_right hk.ne'

theorem totalOf_repeated (f : FileFacts → Nat) (k : Nat) (files : List FileFacts) :
    totalOf f (repeated k files) = k * totalOf f files :=
  additive_repeated (totalOf f) rfl (totalOf_append f) k files

end

variable {K : Type} [ExactScalar K]

theorem sum_map_repeated {α : Type} (f : α → K) (k : Nat) (items : List α) :
    ((repeated k items).map f).sum = k * (items.map f).sum := by
  rw [← nsmul_eq_mul]
  exact additive_repeated (fun items => (items.map f).sum) rfl
    (fun _ _ => by rw [List.map_append, List.sum_append]) k items

section

variable {k : Nat} (hk : 0 < k)

include hk

theorem mul_div_mul (x y : K) : k * x / (k * y) = x / y :=
  mul_div_mul_left x y (Nat.cast_ne_zero.2 hk.ne')

theorem ratio_mul (part whole : Nat) : (ratio (k * part) (k * whole) : K) = ratio part whole := by
  rw [ratio_eq, ratio_eq, Nat.cast_mul, Nat.cast_mul, mul_div_mul hk]

theorem mul_eq_zero_iff (n : Nat) : k * n = 0 ↔ n = 0 := by
  rw [Nat.mul_eq_zero]
  exact or_iff_right hk.ne'

theorem comfort_mul (total files : Nat) (comfortable : K) :
    comfort (k * total) (k * files) comfortable = comfort total files comfortable := by
  rw [comfort_eq, comfort_eq, Nat.cast_mul, Nat.cast_mul, mul_div_mul hk]

theorem habitShare_mul (a b : Nat) : (habitShare (k * a) (k * b) : K) = habitShare a b := by
  rw [habitShare_eq, habitShare_eq, Nat.mul_max_mul_left, ← Nat.mul_add, ratio_mul hk]
  exact if_congr (mul_eq_zero_iff hk _) rfl rfl

theorem meanOf_repeated (f : FunctionFacts → Nat) (functions : List FunctionFacts) :
    (meanOf f (repeated k functions) : K) = meanOf f functions := by
  rw [meanOf_eq, meanOf_eq, sum_map_repeated, length_repeated, Nat.cast_mul, mul_div_mul hk]

theorem variance_repeated (values : List K) : variance (repeated k values) = variance values := by
  have hsum : (repeated k values).sum = k * values.sum := by
    simpa only [List.map_id'] using sum_map_repeated (fun x : K => x) k values
  rw [variance, variance, sum_map_repeated, length_repeated, hsum, Nat.cast_mul, mul_div_mul hk,
    mul_div_mul hk]

/-- The bound of the divisor applies only where the quotient is at least one, however often the
counts are repeated. -/
theorem capped_div_mul {n : Nat} (hn : 0 < n) (m : Nat) :
    min (((k * n : Nat) : K) / max (((k * m : Nat) : K) * (1 / 2)) 1) 1 =
      min ((n : K) / max ((m : K) * (1 / 2)) 1) 1 := by
  have hnone : (1 : K) ≤ n := Nat.one_le_cast.2 hn
  have hkone : (1 : K) ≤ k := Nat.one_le_cast.2 hk
  rw [Nat.cast_mul, Nat.cast_mul, mul_assoc]
  rcases le_total 1 ((m : K) * (1 / 2)) with hle | hle
  · rw [max_eq_left hle, max_eq_left (one_le_mul_of_one_le_of_one_le hkone hle), mul_div_mul hk]
  · have hmore : max ((k : K) * (m * (1 / 2))) 1 ≤ k * n := by
      refine max_le ?_ (one_le_mul_of_one_le_of_one_le hkone hnone)
      exact mul_le_mul_of_nonneg_left (hle.trans hnone) (zero_le_one.trans hkone)
    rw [max_eq_right hle, div_one, min_eq_right hnone, min_eq_right]
    exact (one_le_div (zero_lt_one.trans_le (le_max_right _ _))).2 hmore

theorem capped_ratio_mul (part whole : Nat) :
    min (ratio (k * part) (max (k * whole) 1) : K) 1 = min (ratio part (max whole 1)) 1 := by
  rcases Nat.eq_zero_or_pos whole with rfl | hwhole
  · rcases Nat.eq_zero_or_pos part with rfl | hpart
    · rfl
    · exact (capped_ratio_one (Nat.mul_pos hk hpart)).trans (capped_ratio_one hpart).symm
  · rw [max_eq_left (Nat.mul_pos hk hwhole), max_eq_left hwhole, ratio_mul hk]

/-! ### The formulas -/

theorem testCoverage_repeated (files : List FileFacts) :
    (testCoverage (repeated k files) : K) = testCoverage files := by
  have hproduction : productionFunctions (repeated k files) = k * productionFunctions files := by
    unfold productionFunctions
    rw [piecewise_repeated _ rfl (fun _ _ => List.filter_append ..), totalOf_repeated]
  rw [testCoverage_eq, testCoverage_eq, hproduction, totalOf_repeated]
  refine if_ctx_congr (mul_eq_zero_iff hk _) (fun _ => rfl) fun hsome => ?_
  exact capped_div_mul hk (Nat.pos_of_ne_zero hsome) _

theorem testingValue_repeated (files : List FileFacts) :
    (testingValue (repeated k files) : K) = testingValue files := by
  have hpresence : (testPresence (repeated k files) : K) = testPresence files := by
    rw [testPresence_eq, testPresence_eq, testFileCount, countP_repeated, length_repeated,
      ratio_mul hk, testFileCount]
  have hdensity : (assertionDensity (repeated k files) : K) = assertionDensity files := by
    rw [assertionDensity_eq, assertionDensity_eq, totalOf_repeated, totalOf_repeated, ratio_mul hk]
  rw [testingValue, testingValue, hpresence, testCoverage_repeated hk, hdensity]

theorem complexityValue_repeated (thresholds : Thresholds K) (functions : List FunctionFacts) :
    complexityValue thresholds (repeated k functions) = complexityValue thresholds functions := by
  rw [complexityValue_eq, complexityValue_eq, meanOf_repeated hk, meanOf_repeated hk]
  exact if_congr (repeated_eq_nil_iff hk) rfl rfl

theorem modularityValue_repeated (thresholds : Thresholds K) (files : List FileFacts) :
    modularityValue thresholds (repeated k files) = modularityValue thresholds files := by
  simp only [modularityValue, monolithicCount, totalOf_repeated, countP_repeated, length_repeated,
    ratio_mul hk, comfort_mul hk]

theorem documentationValue_repeated (files : List FileFacts) :
    (documentationValue (repeated k files) : K) = documentationValue files := by
  simp only [documentationValue, moduleDocCount, totalOf_repeated, countP_repeated,
    length_repeated, ratio_mul hk, mul_eq_zero_iff hk]

theorem errorHandlingValue_repeated (files : List FileFacts) :
    (errorHandlingValue (repeated k files) : K) = errorHandlingValue files := by
  simp only [errorHandlingValue, totalOf_repeated, ← Nat.mul_add, ratio_mul hk,
    mul_eq_zero_iff hk]

theorem securityValue_repeated (files : List FileFacts) :
    (securityValue (repeated k files) : K) = securityValue files := by
  simp only [securityValue_eq, total_dangersByKind, totalOf_repeated, length_repeated,
    ratio_mul hk, repeated_eq_nil_iff hk]

theorem styleConsistencyValue_repeated (files : List FileFacts) :
    (styleConsistencyValue (repeated k files) : K) = styleConsistencyValue files := by
  have hindent : (indentConsistency (repeated k files) : K) = indentConsistency files := by
    have hunits : (indentUnits (repeated k files) : List K) = repeated k (indentUnits files) :=
      piecewise_repeated indentUnits rfl
        (fun _ _ => by rw [indentUnits, List.filterMap_append, List.map_append]; rfl) k files
    rw [indentConsistency_eq, indentConsistency_eq, hunits, variance_repeated hk]
  have hclean : (cleanShare (repeated k files) : K) = cleanShare files := by
    rw [cleanShare_eq, cleanShare_eq, totalOf_repeated, totalOf_repeated, capped_ratio_mul hk]
  simp only [styleConsistencyValue, whitespaceConsistency, braceConsistency,
    lineEndingConsistency, hindent, hclean, totalOf_repeated, countP_repeated, habitShare_mul hk]

/-- **The formulas depend on proportions**: repeating the files changes no value. -/
theorem formulaValue_repeated (thresholds : Thresholds K) (files : List FileFacts)
    (category : Category) :
    formulaValue thresholds (repeated k files) category =
      formulaValue thresholds files category := by
  cases category with
  | naming =>
    simp only [formulaValue, namingValue, totalOf_repeated, ratio_mul hk, mul_eq_zero_iff hk]
  | documentation => exact documentationValue_repeated hk files
  | modularity => exact modularityValue_repeated hk thresholds files
  | complexity =>
    have hfunctions : (repeated k files).flatMap (·.functions) =
        repeated k (files.flatMap (·.functions)) :=
      piecewise_repeated _ rfl (fun _ _ => List.flatMap_append) k files
    rw [formulaValue, formulaValue, hfunctions, complexityValue_repeated hk]
  | errorHandling => exact errorHandlingValue_repeated hk files
  | testing => exact testingValue_repeated hk files
  | security => exact securityValue_repeated hk files
  | styleConsistency => exact styleConsistencyValue_repeated hk files
  | patterns => rfl
  | performance => rfl
  | comments => rfl

theorem typeCoverage_repeated (files : List FileFacts) :
    (typeCoverage (repeated k files) : K) = typeCoverage files := by
  have htypes : (repeated k files).filterMap (·.types) =
      repeated k (files.filterMap (·.types)) :=
    piecewise_repeated _ rfl (fun _ _ => List.filterMap_append) k files
  have hsum : ∀ (f : TypeFacts → Nat) (types : List TypeFacts),
      sumOf ((repeated k types).map f) = k * sumOf (types.map f) := fun f types =>
    additive_repeated (fun types => sumOf (types.map f)) rfl
      (fun _ _ => by rw [List.map_append, sumOf_append]) k types
  unfold typeCoverage
  rw [htypes]
  simp only [hsum, TypeFacts.coverage, mul_eq_zero_iff hk, Nat.cast_mul, mul_div_mul hk]

end

/-! ## Scores -/

/-- **Scores depend on proportions, not on size or order.** In every language the metrics of the
files in another order are the same, and the scores of the files `k` times over are. -/
theorem scores_proportional (language : Language) (thresholds : Thresholds K)
    (files : List FileFacts) :
    (∀ others, files.Perm others →
      LanguageMetrics.ofFacts language thresholds others =
        LanguageMetrics.ofFacts language thresholds files) ∧
    ∀ k, 0 < k → ∀ category,
      (LanguageMetrics.ofFacts language thresholds (repeated k files)).scores.value category =
        (LanguageMetrics.ofFacts language thresholds files).scores.value category := by
  refine ⟨fun others h => (LanguageMetrics.ofFacts_perm h language thresholds).symm, ?_⟩
  intro k hk category
  by_cases hfiles : files = []
  · rw [hfiles, (repeated_eq_nil_iff hk).2 rfl]
  by_cases hbase : category ∈ Category.base
  · rw [LanguageMetrics.value_eq language thresholds hfiles hbase,
      LanguageMetrics.value_eq language thresholds (mt (repeated_eq_nil_iff hk).1 hfiles) hbase,
      typeCoverage_repeated hk, formulaValue_repeated hk]
  · -- a language has no scores of the other categories
    simp only [CategoryScores.value, LanguageMetrics.get?_ofFacts, if_neg hbase]

/-- A file with one function and its test. The divisor of coverage is at its bound for the two
files, and no longer for six. -/
theorem scores_proportional_of_tested :
    let code : FileFacts :=
      { path := "cart.ts", language := .typescript, lines := { total := 12, code := 9 }
        functions := [{ name := "total", line := 1, branches := 3 }]
        security := ⟨[("eval", 1)]⟩
        types := some { annotatable := 4, annotated := 3 } }
    let test : FileFacts :=
      { path := "cart.test.ts", language := .typescript, lines := { total := 8, code := 8 }
        tests := { isTestFile := true, testFunctions := 1, assertions := 1 }
        security := ⟨[("Function", 1), ("eval", 2)]⟩ }
    let metrics : List FileFacts → LanguageMetrics ℚ := .ofFacts .typescript .standard
    [code, test].Perm [test, code] ∧ 0 < 3 ∧
      metrics [test, code] = metrics [code, test] ∧
      (metrics (repeated 3 [code, test])).scores.value .testing =
        (metrics [code, test]).scores.value .testing ∧
      (metrics [code, test]).scores.value .testing = 100 ∧
      (metrics [code, test]).scores.value .security = 35 := by
  intro code test metrics
  have hproportional := scores_proportional .typescript (.standard : Thresholds ℚ) [code, test]
  have hperm : [code, test].Perm [test, code] := List.Perm.swap test code []
  refine ⟨hperm, by decide, hproportional.1 _ hperm, hproportional.2 3 (by decide) _, ?_, ?_⟩ <;>
    decide +kernel

end Affinity
