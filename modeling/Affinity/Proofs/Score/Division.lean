import Mathlib
import Affinity.Proofs.Comparison.Division
import Affinity.Proofs.Score.Formula

/-!
# What the formulas divide by

The formulas divide by counts, by averages and by sums of one and a square. The counts are tested
before, or are at least one because there is a file; the averages are above a positive number.

* `formulaDivisors` — the numbers by which the formula of a category divides.
* `formulaDivisors_pos` — they are positive.
* `formulaValue_withDivision` — there are no others: any division that agrees with that of the field
  on these divisors leads to the same value.
* `LanguageMetrics.score_withDivision` — the same of the scores with their evidence.
-/

namespace Affinity

open Scalar

variable {K : Type} [ExactScalar K]

/-! ## The divisors -/

/-- The divisor of a quotient of counts: the whole, if there is something. -/
def ratioDivisors (whole : Nat) : List K := if whole = 0 then [] else [(whole : K)]

/-- The divisors of comfort: the number of files, and the average if it is not comfortable. -/
def comfortDivisors (total files : Nat) (comfortable : K) : List K :=
  let average : K := (total : K) / (files : K)
  (files : K) :: if average ≤ comfortable then [] else [average]

/-- The excess of paths and nesting over what is free. -/
def complexityExcess {K : Type} [Scalar K] (functions : List FunctionFacts) : K :=
  meanOf (·.complexity) functions + 2.0 * greatest (meanOf (·.maxNesting) functions - 2.0) 0.0 - 1.0

/-- What is divided by in the complexity of functions. -/
def complexityDivisors (thresholds : Thresholds K) (functions : List FunctionFacts) : List K :=
  if functions.isEmpty then []
  else [(functions.length : Nat), thresholds.complexityPerFunction,
    1.0 + square (greatest (complexityExcess functions) 0.0 / thresholds.complexityPerFunction)]

/-- What is divided by in the coverage by tests. -/
def coverageDivisors (files : List FileFacts) : List K :=
  if totalOf (·.tests.testFunctions) files = 0 then []
  else [greatest ((productionFunctions files : K) * 0.5) 1.0]

/-- What is divided by in the share of a habit. -/
def habitDivisors (a b : Nat) : List K := if a + b = 0 then [] else [(a + b : Nat)]

/-- The variance of the steps of indentation as it is computed. -/
def indentVariance (files : List FileFacts) : K :=
  let steps : List K := indentUnits files
  let mean := sum steps / (steps.length : Nat)
  sum (steps.map fun u => square (u - mean)) / (steps.length : Nat)

/-- What is divided by in the consistency of indentation. -/
def indentDivisors (files : List FileFacts) : List K :=
  if (indentUnits files : List K).isEmpty then []
  else [((indentUnits files : List K).length : Nat), 4.0, 1.0 + indentVariance files / 4.0]

/-- The numbers by which the formula of a category divides. -/
def formulaDivisors (thresholds : Thresholds K) (files : List FileFacts) : Category → List K
  | .naming => ratioDivisors (totalOf (·.naming.total) files)
  | .documentation =>
    ratioDivisors files.length ++ ratioDivisors (totalOf (·.docs.publicSymbols) files)
  | .modularity =>
    ratioDivisors files.length ++
      comfortDivisors (totalOf (·.lines.total) files) files.length 300.0 ++
      comfortDivisors (totalOf (·.functions.length) files) files.length 20.0 ++
      comfortDivisors (totalOf (·.classes.length) files) files.length 3.0
  | .complexity => complexityDivisors thresholds (files.flatMap (·.functions))
  | .errorHandling => ratioDivisors (totalOf (·.errors.risk) files)
  | .testing =>
    ratioDivisors files.length ++ [0.25] ++ coverageDivisors files ++
      ratioDivisors (totalOf (·.tests.testFunctions) files)
  | .security =>
    ratioDivisors files.length ++
      if files.isEmpty then [] else [1.0 + 2.0 * ratio (dangersByKind files).total files.length]
  | .styleConsistency =>
    indentDivisors files ++
      habitDivisors (totalOf (·.style.tabLines) files) (totalOf (·.style.spaceLines) files) ++
      habitDivisors (totalOf (·.style.braceSameLine) files)
        (totalOf (·.style.braceNextLine) files) ++
      habitDivisors (files.countP (·.style.crlf)) (files.countP (!·.style.crlf)) ++
      ratioDivisors (max (totalOf (·.lines.code) files) 1)
  | _ => []

/-! ## All of them are positive -/

theorem ratioDivisors_pos {whole : Nat} {y : K} (h : y ∈ ratioDivisors whole) : 0 < y := by
  unfold ratioDivisors at h
  split at h
  · cases h
  · next hwhole =>
    rw [List.mem_singleton.1 h]
    exact Nat.cast_pos.2 (Nat.pos_of_ne_zero hwhole)

theorem comfortDivisors_pos {total files : Nat} {comfortable y : K} (hfiles : 0 < files)
    (hcomfortable : 0 < comfortable) (h : y ∈ comfortDivisors total files comfortable) :
    0 < y := by
  rcases List.mem_cons.1 h with rfl | h
  · exact Nat.cast_pos.2 hfiles
  · split at h
    · cases h
    · next haverage =>
      rw [List.mem_singleton.1 h]
      exact hcomfortable.trans (not_le.1 haverage)

theorem one_add_square_pos (x : K) : (0 : K) < 1.0 + square x := by
  rw [literal_one]
  exact add_pos_of_pos_of_nonneg one_pos (mul_self_nonneg x)

theorem complexityDivisors_pos {thresholds : Thresholds K}
    (hscale : 0 < thresholds.complexityPerFunction) {functions : List FunctionFacts} {y : K}
    (h : y ∈ complexityDivisors thresholds functions) : 0 < y := by
  unfold complexityDivisors at h
  split at h
  · cases h
  · next hsome =>
    simp only [List.mem_cons, List.not_mem_nil, or_false] at h
    rcases h with rfl | rfl | rfl
    · exact Nat.cast_pos.2 (List.length_pos_iff.2 (by simpa using hsome))
    · exact hscale
    · exact one_add_square_pos _

theorem coverageDivisors_pos {files : List FileFacts} {y : K} (h : y ∈ coverageDivisors files) :
    0 < y := by
  unfold coverageDivisors at h
  split at h
  · cases h
  · rw [List.mem_singleton.1 h, greatest_eq_max]
    norm_num [literal_eq]

theorem habitDivisors_pos {a b : Nat} {y : K} (h : y ∈ habitDivisors a b) : 0 < y := by
  unfold habitDivisors at h
  split at h
  · cases h
  · next hsome =>
    rw [List.mem_singleton.1 h]
    exact Nat.cast_pos.2 (Nat.pos_of_ne_zero hsome)

theorem indentVariance_nonneg (files : List FileFacts) : (0 : K) ≤ indentVariance files := by
  refine div_nonneg ?_ (Nat.cast_nonneg _)
  rw [sum_eq]
  refine List.sum_nonneg fun x hx => ?_
  obtain ⟨u, -, rfl⟩ := List.mem_map.1 hx
  exact mul_self_nonneg _

theorem indentDivisors_pos {files : List FileFacts} {y : K} (h : y ∈ indentDivisors files) :
    0 < y := by
  unfold indentDivisors at h
  split at h
  · cases h
  · next hsome =>
    simp only [List.mem_cons, List.not_mem_nil, or_false] at h
    have hvariance : (0 : K) ≤ indentVariance files := indentVariance_nonneg files
    rcases h with rfl | rfl | rfl
    · exact Nat.cast_pos.2 (List.length_pos_iff.2 (by simpa using hsome))
    · norm_num [literal_eq]
    · norm_num [literal_eq]
      positivity

/-- **The formulas divide by positive numbers only**, as long as there is a file. -/
theorem formulaDivisors_pos {thresholds : Thresholds K}
    (hscale : 0 < thresholds.complexityPerFunction) {files : List FileFacts} (hfiles : files ≠ [])
    {category : Category} {y : K} (h : y ∈ formulaDivisors thresholds files category) : 0 < y := by
  have hlength : 0 < files.length := List.length_pos_iff.2 hfiles
  cases category <;> simp only [formulaDivisors, List.mem_append, List.not_mem_nil] at h
  case naming => exact ratioDivisors_pos h
  case documentation => exact h.elim ratioDivisors_pos ratioDivisors_pos
  case modularity =>
    rcases h with ((h | h) | h) | h
    · exact ratioDivisors_pos h
    all_goals exact comfortDivisors_pos hlength (by norm_num [literal_eq]) h
  case complexity => exact complexityDivisors_pos hscale h
  case errorHandling => exact ratioDivisors_pos h
  case testing =>
    rcases h with ((h | h) | h) | h
    · exact ratioDivisors_pos h
    · rw [List.mem_singleton.1 h]
      norm_num [literal_eq]
    · exact coverageDivisors_pos h
    · exact ratioDivisors_pos h
  case security =>
    rcases h with h | h
    · exact ratioDivisors_pos h
    · split at h
      · cases h
      · rw [List.mem_singleton.1 h, ratio_eq]
        norm_num [literal_eq]
        positivity
  case styleConsistency =>
    rcases h with (((h | h) | h) | h) | h
    · exact indentDivisors_pos h
    · exact habitDivisors_pos h
    · exact habitDivisors_pos h
    · exact habitDivisors_pos h
    · exact ratioDivisors_pos h

/-! ## There are no others -/

section

variable {divide : K → K → K}

theorem ratio_withDivision {whole : Nat} (h : ∀ y ∈ ratioDivisors whole, AgreesAt divide y)
    (part : Nat) : @ratio K (withDivision divide) part whole = ratio part whole := by
  by_cases hnone : whole = 0
  · exact (if_pos hnone).trans (if_pos hnone).symm
  · have hwhole : AgreesAt divide (whole : K) := h _ (by simp [ratioDivisors, hnone])
    exact (if_neg hnone).trans ((hwhole _).trans (if_neg hnone).symm)

theorem namingValue_withDivision {files : List FileFacts}
    (h : ∀ y ∈ ratioDivisors (totalOf (·.naming.total) files), AgreesAt divide y) :
    @namingValue K (withDivision divide) files = namingValue files := by
  show (if totalOf (·.naming.total) files = 0 then 50.0 else
    100.0 * @ratio K (withDivision divide) _ _ *
      (1.0 - 0.5 * @ratio K (withDivision divide) _ _)) = _
  rw [ratio_withDivision h, ratio_withDivision h]
  rfl

theorem documentationValue_withDivision {files : List FileFacts}
    (hfiles : ∀ y ∈ ratioDivisors files.length, AgreesAt divide y)
    (hsymbols : ∀ y ∈ ratioDivisors (totalOf (·.docs.publicSymbols) files), AgreesAt divide y) :
    @documentationValue K (withDivision divide) files = documentationValue files := by
  show (if totalOf (·.docs.publicSymbols) files = 0 then
      100.0 * @ratio K (withDivision divide) _ _
    else 85.0 * @ratio K (withDivision divide) _ _ +
      15.0 * @ratio K (withDivision divide) _ _) = _
  rw [ratio_withDivision hfiles, ratio_withDivision hsymbols]
  rfl

theorem comfort_withDivision {total files : Nat} {comfortable : K}
    (h : ∀ y ∈ comfortDivisors total files comfortable, AgreesAt divide y) :
    @comfort K (withDivision divide) total files comfortable = comfort total files comfortable := by
  have hfiles : AgreesAt divide (files : K) := h _ (List.mem_cons_self ..)
  show (if divide total files ≤ comfortable then 1.0
    else divide comfortable (divide total files)) =
      if (total : K) / files ≤ comfortable then 1.0 else comfortable / (total / files)
  rw [hfiles]
  split
  · rfl
  · next haverage => exact h _ (by simp [comfortDivisors, haverage]) _

theorem modularityValue_withDivision {thresholds : Thresholds K} {files : List FileFacts}
    (h : ∀ y ∈ formulaDivisors thresholds files .modularity, AgreesAt divide y) :
    @modularityValue K (withDivision divide) thresholds files =
      modularityValue thresholds files := by
  simp only [formulaDivisors, List.forall_mem_append] at h
  obtain ⟨⟨⟨hratio, hlines⟩, hfunctions⟩, hclasses⟩ := h
  show 100.0 * (0.4 * (1.0 - @ratio K (withDivision divide) _ _) +
    0.3 * @comfort K (withDivision divide) _ _ _ + 0.2 * @comfort K (withDivision divide) _ _ _ +
    0.1 * @comfort K (withDivision divide) _ _ _) = _
  rw [ratio_withDivision hratio]
  rw [comfort_withDivision hlines]
  rw [comfort_withDivision hfunctions, comfort_withDivision hclasses]
  rfl

theorem meanOf_withDivision {functions : List FunctionFacts}
    (h : AgreesAt divide (functions.length : K)) (f : FunctionFacts → Nat) :
    @meanOf K (withDivision divide) f functions = meanOf f functions :=
  h _

theorem complexityExcess_withDivision {functions : List FunctionFacts}
    (h : AgreesAt divide (functions.length : K)) :
    @complexityExcess K (withDivision divide) functions = complexityExcess functions := by
  show @meanOf K (withDivision divide) _ functions +
    2.0 * greatest (@meanOf K (withDivision divide) _ functions - 2.0) 0.0 - 1.0 = _
  rw [meanOf_withDivision h, meanOf_withDivision h]
  rfl

theorem complexityValue_withDivision {thresholds : Thresholds K} {functions : List FunctionFacts}
    (h : ∀ y ∈ complexityDivisors thresholds functions, AgreesAt divide y) :
    @complexityValue K (withDivision divide) thresholds functions =
      complexityValue thresholds functions := by
  by_cases hnone : functions.isEmpty
  · exact (if_pos hnone).trans (if_pos hnone).symm
  · simp only [complexityDivisors, hnone, Bool.false_eq_true, if_false, List.forall_mem_cons] at h
    obtain ⟨hlength, hscale, hdecay, -⟩ := h
    refine (if_neg hnone).trans (Eq.trans ?_ (if_neg hnone).symm)
    show 100.0 * divide 1.0 (1.0 + square (divide (greatest
      (@complexityExcess K (withDivision divide) functions) 0.0)
        thresholds.complexityPerFunction)) = _
    rw [complexityExcess_withDivision hlength, hscale, hdecay]
    rfl

theorem errorHandlingValue_withDivision {files : List FileFacts}
    (h : ∀ y ∈ ratioDivisors (totalOf (·.errors.risk) files), AgreesAt divide y) :
    @errorHandlingValue K (withDivision divide) files = errorHandlingValue files := by
  show (if totalOf (·.errors.risk) files = 0 then
      (if totalOf (·.errors.checks) files = 0 then 70.0 else 100.0)
    else 100.0 * least (@ratio K (withDivision divide) _ _) 1.0) = _
  rw [ratio_withDivision h]
  rfl

theorem testingValue_withDivision {thresholds : Thresholds K} {files : List FileFacts}
    (h : ∀ y ∈ formulaDivisors thresholds files .testing, AgreesAt divide y) :
    @testingValue K (withDivision divide) files = testingValue files := by
  simp only [formulaDivisors, List.forall_mem_append, List.forall_mem_singleton] at h
  obtain ⟨⟨⟨hfiles, hquarter⟩, hcoverage⟩, htests⟩ := h
  have hpresence : @testPresence K (withDivision divide) files = testPresence files := by
    show least (divide (@ratio K (withDivision divide) _ _) 0.25) 1.0 = _
    rw [ratio_withDivision hfiles, hquarter]
    rfl
  have hcovered : @testCoverage K (withDivision divide) files = testCoverage files := by
    by_cases hnone : totalOf (·.tests.testFunctions) files = 0
    · exact (if_pos hnone).trans (if_pos hnone).symm
    · refine (if_neg hnone).trans (Eq.trans ?_ (if_neg hnone).symm)
      show least (divide _ (greatest ((productionFunctions files : K) * 0.5) 1.0)) 1.0 = _
      rw [hcoverage _ (by simp [coverageDivisors, hnone])]
      rfl
  have hdensity : @assertionDensity K (withDivision divide) files = assertionDensity files := by
    show least (@ratio K (withDivision divide) _ _) 1.0 = _
    rw [ratio_withDivision htests]
    rfl
  show 100.0 * (0.4 * @testPresence K (withDivision divide) files +
    0.35 * @testCoverage K (withDivision divide) files +
    0.25 * @assertionDensity K (withDivision divide) files) = _
  rw [hpresence, hcovered, hdensity]
  rfl

theorem securityValue_withDivision {thresholds : Thresholds K} {files : List FileFacts}
    (h : ∀ y ∈ formulaDivisors thresholds files .security, AgreesAt divide y) :
    @securityValue K (withDivision divide) files = securityValue files := by
  simp only [formulaDivisors, List.forall_mem_append] at h
  obtain ⟨hfiles, hdecay⟩ := h
  by_cases hnone : files.isEmpty
  · exact (if_pos hnone).trans (if_pos hnone).symm
  · simp only [hnone, Bool.false_eq_true, if_false, List.forall_mem_singleton] at hdecay
    refine (if_neg hnone).trans (Eq.trans ?_ (if_neg hnone).symm)
    show divide 100.0 (1.0 + 2.0 * @ratio K (withDivision divide) _ _) = _
    rw [ratio_withDivision hfiles, hdecay]

theorem habitShare_withDivision {a b : Nat} (h : ∀ y ∈ habitDivisors a b, AgreesAt divide y) :
    @habitShare K (withDivision divide) a b = habitShare a b := by
  by_cases hnone : a + b = 0
  · exact (if_pos hnone).trans (if_pos hnone).symm
  · have hwhole : AgreesAt divide ((a + b : Nat) : K) := h _ (by
      rw [habitDivisors, if_neg hnone]
      exact List.mem_singleton_self _)
    exact (if_neg hnone).trans ((hwhole _).trans (if_neg hnone).symm)

theorem indentConsistency_withDivision {files : List FileFacts}
    (h : ∀ y ∈ indentDivisors files, AgreesAt divide y) :
    @indentConsistency K (withDivision divide) files = indentConsistency files := by
  let steps : List K := indentUnits files
  by_cases hnone : steps.isEmpty
  · exact (if_pos hnone).trans (if_pos hnone).symm
  · have hsome : ¬ (indentUnits files : List K).isEmpty = true := hnone
    rw [indentDivisors, if_neg hsome] at h
    simp only [List.forall_mem_cons] at h
    obtain ⟨hlength, hfour, hdecay, -⟩ := h
    refine (if_neg hnone).trans (Eq.trans ?_ (if_neg hnone).symm)
    show divide 1.0 (1.0 + divide (divide (sum (steps.map fun u =>
      square (u - divide (sum steps) (steps.length : Nat)))) (steps.length : Nat)) 4.0) = _
    have hlength : AgreesAt divide ((steps.length : Nat) : K) := hlength
    simp only [hlength _, hfour _]
    exact hdecay _

theorem styleConsistencyValue_withDivision {thresholds : Thresholds K} {files : List FileFacts}
    (h : ∀ y ∈ formulaDivisors thresholds files .styleConsistency, AgreesAt divide y) :
    @styleConsistencyValue K (withDivision divide) files = styleConsistencyValue files := by
  simp only [formulaDivisors, List.forall_mem_append] at h
  obtain ⟨⟨⟨⟨hindent, htabs⟩, hbraces⟩, hendings⟩, hclean⟩ := h
  show 100.0 * (0.35 * @indentConsistency K (withDivision divide) files +
    0.2 * @habitShare K (withDivision divide) _ _ +
    0.25 * @habitShare K (withDivision divide) _ _ +
    0.1 * @habitShare K (withDivision divide) _ _ +
    0.1 * (1.0 - least (@ratio K (withDivision divide) _ _) 1.0)) = _
  rw [indentConsistency_withDivision hindent, habitShare_withDivision htabs,
    habitShare_withDivision hbraces, habitShare_withDivision hendings, ratio_withDivision hclean]
  rfl

/-- **The formulas divide by nothing else**: any division that agrees with that of the field on
the divisors leads to the same value. -/
theorem formulaValue_withDivision {thresholds : Thresholds K} {files : List FileFacts}
    {category : Category}
    (h : ∀ y ∈ formulaDivisors thresholds files category, AgreesAt divide y) :
    @formulaValue K (withDivision divide) thresholds files category =
      formulaValue thresholds files category := by
  cases category with
  | naming => exact namingValue_withDivision h
  | documentation =>
    obtain ⟨hfiles, hsymbols⟩ := List.forall_mem_append.1 h
    exact documentationValue_withDivision hfiles hsymbols
  | modularity => exact modularityValue_withDivision h
  | complexity => exact complexityValue_withDivision h
  | errorHandling => exact errorHandlingValue_withDivision h
  | testing => exact testingValue_withDivision h
  | security => exact securityValue_withDivision h
  | styleConsistency => exact styleConsistencyValue_withDivision h
  | patterns => rfl
  | performance => rfl
  | comments => rfl

theorem modularityScore_withDivision {thresholds : Thresholds K} {files : List FileFacts}
    (h : ∀ y ∈ formulaDivisors thresholds files .modularity, AgreesAt divide y) :
    @modularityScore K (withDivision divide) thresholds files =
      modularityScore thresholds files := by
  have hcount : AgreesAt divide ((files.length : Nat) : K) :=
    h _ (by simp [formulaDivisors, comfortDivisors])
  by_cases hnone : files.isEmpty
  · exact (if_pos hnone).trans (if_pos hnone).symm
  · refine (if_neg hnone).trans (Eq.trans ?_ (if_neg hnone).symm)
    show CategoryScore.withEvidence .modularity
      (@modularityValue K (withDivision divide) thresholds files) [
        ("files", ((files.length : Nat) : K)), ("avg_file_lines", divide _ _),
        ("functions_per_file", divide _ _), ("monolithic_files", _)] = _
    rw [modularityValue_withDivision h, hcount, hcount]

theorem complexityScore_withDivision {thresholds : Thresholds K} {files : List FileFacts}
    (h : ∀ y ∈ formulaDivisors thresholds files .complexity, AgreesAt divide y) :
    @complexityScore K (withDivision divide) thresholds files =
      complexityScore thresholds files := by
  show CategoryScore.withEvidence .complexity
    (@complexityValue K (withDivision divide) thresholds (files.flatMap (·.functions))) (if _ then _
      else [("functions", _), ("avg_complexity", @meanOf K (withDivision divide) _ _),
        ("avg_nesting", @meanOf K (withDivision divide) _ _)]) = _
  rw [complexityValue_withDivision h]
  by_cases hnone : (files.flatMap (·.functions)).isEmpty
  · rw [if_pos hnone, complexityScore, if_pos hnone]
  · have hcount : AgreesAt divide ((files.flatMap (·.functions)).length : K) := by
      refine h _ ?_
      rw [formulaDivisors, complexityDivisors, if_neg hnone]
      exact List.mem_cons_self ..
    rw [if_neg hnone, meanOf_withDivision hcount, meanOf_withDivision hcount, complexityScore,
      if_neg hnone]

theorem styleConsistencyScore_withDivision {thresholds : Thresholds K} {files : List FileFacts}
    (h : ∀ y ∈ formulaDivisors thresholds files .styleConsistency, AgreesAt divide y) :
    @styleConsistencyScore K (withDivision divide) files = styleConsistencyScore files := by
  by_cases hnone : files.isEmpty
  · exact (if_pos hnone).trans (if_pos hnone).symm
  · have hvalue := styleConsistencyValue_withDivision h
    simp only [formulaDivisors, List.forall_mem_append] at h
    obtain ⟨⟨⟨⟨hindent, htabs⟩, hbraces⟩, hendings⟩, -⟩ := h
    refine (if_neg hnone).trans (Eq.trans ?_ (if_neg hnone).symm)
    show CategoryScore.withEvidence .styleConsistency
      (@styleConsistencyValue K (withDivision divide) files) [
        ("indent_consistency", @indentConsistency K (withDivision divide) files),
        ("whitespace_consistency", @habitShare K (withDivision divide) _ _),
        ("brace_consistency", @habitShare K (withDivision divide) _ _),
        ("line_ending_consistency", @habitShare K (withDivision divide) _ _)] = _
    rw [hvalue, indentConsistency_withDivision hindent, habitShare_withDivision htabs,
      habitShare_withDivision hbraces, habitShare_withDivision hendings]
    rfl

/-- The evidence divides by nothing else either. -/
theorem LanguageMetrics.score_withDivision {language : Language}
    (hlanguage : language ≠ .typescript) {thresholds : Thresholds K} {files : List FileFacts}
    {category : Category}
    (h : ∀ y ∈ formulaDivisors thresholds files category, AgreesAt divide y) :
    @score K (withDivision divide) language thresholds files category =
      score language thresholds files category := by
  have hvalue := formulaValue_withDivision h
  cases category with
  | naming => exact congrArg (CategoryScore.withEvidence .naming · _) hvalue
  | documentation =>
    refine (if_neg hlanguage).trans (Eq.trans ?_ (if_neg hlanguage).symm)
    exact congrArg (CategoryScore.withEvidence .documentation · _) hvalue
  | modularity => exact modularityScore_withDivision h
  | complexity => exact complexityScore_withDivision h
  | errorHandling => exact congrArg (CategoryScore.withEvidence .errorHandling · _) hvalue
  | testing =>
    have hscore : @testingScore K (withDivision divide) files = testingScore files :=
      congrArg (CategoryScore.withEvidence .testing · _) hvalue
    exact congrArg (if language.isMarkup then .of .testing neutralScore else ·) hscore
  | security =>
    refine (if_neg hlanguage).trans (Eq.trans ?_ (if_neg hlanguage).symm)
    exact congrArg (CategoryScore.withEvidence .security · _) hvalue
  | styleConsistency => exact styleConsistencyScore_withDivision h
  | patterns => rfl
  | performance => rfl
  | comments => rfl

end

end Affinity
