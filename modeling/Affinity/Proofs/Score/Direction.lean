import Mathlib
import Affinity.Proofs.Score.Range

/-!
# In which direction the scores react

Better habits never lower a score and worse ones never raise it. The formulas distinguish whether
there are symbols, risky constructs or tests at all, and a change may lead from one case into the
other: the first public symbol, the first risky construct, the first test. What a language has of
its own is added to the score and does not turn the direction.

* `FileFacts.addSymbol`, `FileFacts.addRisk`, … — the changes of a file.
* `errorHandlingValue_le_of_guarded`, … — each formula when its totals change.
* `ScoresReact` — how the scores react to the changes of one file.
* `scoresReact` — they do so in every language, whatever the other files are.
-/

namespace Affinity

open Scalar

/-! ## Changes of a file -/

namespace FileFacts

/-- One more public symbol. -/
def addSymbol (file : FileFacts) (documented : Bool) : FileFacts :=
  { file with docs := { file.docs with
      publicSymbols := file.docs.publicSymbols + 1
      documentedSymbols := file.docs.documentedSymbols + documented.toNat } }

/-- One more call that can fail. -/
def addRisk (file : FileFacts) (guarded : Bool) : FileFacts :=
  { file with errors := { file.errors with
      risk := file.errors.risk + 1
      guarded := file.errors.guarded + guarded.toNat } }

/-- One more explicit check. -/
def addCheck (file : FileFacts) : FileFacts :=
  { file with errors := { file.errors with checks := file.errors.checks + 1 } }

/-- One more test function with one more assertion; `functions` are the functions after it. -/
def addTest (file : FileFacts) (functions : List FunctionFacts) : FileFacts :=
  { file with
    functions
    tests := { file.tests with
      testFunctions := file.tests.testFunctions + 1
      assertions := file.tests.assertions + 1 } }

end FileFacts

/-! ## Counts when one file changes -/

section

variable {before after : List FileFacts} {file changed : FileFacts} {f : FileFacts → Nat}

theorem totalOf_middle (f : FileFacts → Nat) (before after : List FileFacts) (file : FileFacts) :
    totalOf f (before ++ file :: after) = totalOf f (before ++ after) + f file := by
  simp only [totalOf_append, totalOf_cons]
  omega

theorem totalOf_unchanged (h : f changed = f file) :
    totalOf f (before ++ changed :: after) = totalOf f (before ++ file :: after) := by
  rw [totalOf_middle, totalOf_middle, h]

theorem totalOf_succ (h : f changed = f file + 1) :
    totalOf f (before ++ changed :: after) = totalOf f (before ++ file :: after) + 1 := by
  rw [totalOf_middle, totalOf_middle, h, Nat.add_assoc]

theorem countP_unchanged {p : FileFacts → Bool} (h : p changed = p file) :
    (before ++ changed :: after).countP p = (before ++ file :: after).countP p := by
  rw [List.countP_append, List.countP_append, List.countP_cons, List.countP_cons, h]

theorem length_unchanged (before after : List FileFacts) (file changed : FileFacts) :
    (before ++ changed :: after).length = (before ++ file :: after).length := by
  rw [List.length_append, List.length_append, List.length_cons, List.length_cons]

theorem types_unchanged (h : changed.types = file.types) :
    (before ++ changed :: after).filterMap (·.types) =
      (before ++ file :: after).filterMap (·.types) := by
  rw [List.filterMap_append, List.filterMap_append, List.filterMap_cons, List.filterMap_cons, h]

/-- The functions of the other files stand around those of one file. -/
theorem flatMap_functions (before after : List FileFacts) {earlier later : List FunctionFacts}
    {g : FunctionFacts} (h : file.functions = earlier ++ g :: later) :
    (before ++ file :: after).flatMap (·.functions) =
      (before.flatMap (·.functions) ++ earlier) ++
        g :: (later ++ after.flatMap (·.functions)) := by
  simp [h]

theorem productionFunctions_addTest_le {functions : List FunctionFacts}
    (h : functions.length ≤ file.functions.length + 1) :
    productionFunctions (before ++ file.addTest functions :: after) ≤
      productionFunctions (before ++ file :: after) + 1 := by
  have htest : (file.addTest functions).tests.isTestFile = file.tests.isTestFile := rfl
  unfold productionFunctions
  rw [List.filter_append, List.filter_append, List.filter_cons, List.filter_cons, htest]
  split
  · rw [totalOf_middle, totalOf_middle, Nat.add_assoc]
    exact Nat.add_le_add_left h _
  · exact Nat.le_succ _

theorem total_addSecurity (file : FileFacts) (kind : String) (n : Nat) :
    (file.addSecurity kind n).security.total = file.security.total + n := by
  unfold FileFacts.addSecurity
  split
  · next hnone => rw [hnone, Nat.add_zero]
  · exact Table.total_add _ _ _

theorem total_dangersByKind_addSecurity_ge (kind : String) (n : Nat) :
    (dangersByKind (before ++ file :: after)).total ≤
      (dangersByKind (before ++ file.addSecurity kind n :: after)).total := by
  rw [total_dangersByKind, total_dangersByKind, totalOf_middle, totalOf_middle, total_addSecurity]
  exact Nat.add_le_add_left (Nat.le_add_right _ n) _

theorem types_addSecurity (file : FileFacts) (kind : String) (n : Nat) :
    (file.addSecurity kind n).types = file.types := by
  unfold FileFacts.addSecurity
  split <;> rfl

end

variable {K : Type} [ExactScalar K]

/-! ## Quotients of counts -/

/-- One more on both sides brings a share nearer to one. -/
theorem div_le_succ_div_succ {x m : K} (hx : 0 ≤ x) (h : x ≤ m) : x / m ≤ (x + 1) / (m + 1) := by
  rcases (hx.trans h).eq_or_lt with rfl | hpos
  · rw [div_zero]
    positivity
  · rw [div_le_div_iff₀ hpos (by positivity)]
    linarith

/-- A quotient that counts up to one is not lowered by one more on both sides. -/
theorem capped_div_le {x m more : K} (hx : 0 ≤ x) (hmore : 0 < more) (h : more ≤ m + 1) :
    min (x / m) 1 ≤ min ((x + 1) / more) 1 := by
  rcases le_total x m with hle | hle
  · refine min_le_min_right 1 ?_
    calc x / m ≤ (x + 1) / (m + 1) := div_le_succ_div_succ hx hle
      _ ≤ (x + 1) / more := by gcongr
  · refine (min_le_right _ _).trans (le_min ?_ le_rfl)
    rw [le_div_iff₀ hmore]
    linarith

theorem ratio_le_of_part {part more : Nat} (h : part ≤ more) (whole : Nat) :
    (ratio part whole : K) ≤ ratio more whole := by
  rw [ratio_eq, ratio_eq]
  gcongr

theorem ratio_le_of_whole (part : Nat) {whole more : Nat} (hpos : 0 < whole) (h : whole ≤ more) :
    (ratio part more : K) ≤ ratio part whole := by
  rw [ratio_eq, ratio_eq]
  gcongr

theorem ratio_le_ratio_succ {part whole : Nat} (h : part ≤ whole) :
    (ratio part whole : K) ≤ ratio (part + 1) (whole + 1) := by
  rw [ratio_eq, ratio_eq, Nat.cast_succ, Nat.cast_succ]
  exact div_le_succ_div_succ (Nat.cast_nonneg _) (Nat.cast_le.2 h)

theorem capped_ratio_le_ratio_succ (part whole : Nat) :
    min (ratio part whole : K) 1 ≤ min (ratio (part + 1) (whole + 1)) 1 := by
  rw [ratio_eq, ratio_eq, Nat.cast_succ, Nat.cast_succ]
  exact capped_div_le (Nat.cast_nonneg _) (Nat.cast_add_one_pos _) le_rfl

/-! ## The formulas when totals change -/

section

variable {files others : List FileFacts}

/-! ### Documentation -/

section

variable (hmodules : moduleDocCount others = moduleDocCount files)
  (hlength : others.length = files.length)
  (hpublic : totalOf (·.docs.publicSymbols) others = totalOf (·.docs.publicSymbols) files + 1)
  (h : ∀ f ∈ files, f.docs.documentedSymbols ≤ f.docs.publicSymbols)

include hmodules hlength hpublic h

/-- A documented symbol never lowers documentation, not even if it is the first public one: then
the share of files that open with documentation counts less, and that of symbols is full. -/
theorem documentationValue_le_of_documented
    (hdocumented : totalOf (·.docs.documentedSymbols) others =
      totalOf (·.docs.documentedSymbols) files + 1) :
    (documentationValue files : K) ≤ documentationValue others := by
  have hopened : (ratio (moduleDocCount files) files.length : K) ≤ 1 :=
    (ratio_mem_Icc List.countP_le_length).2
  have hsymbols := totalOf_le_totalOf h
  have hshare := ratio_le_ratio_succ (K := K) hsymbols
  rw [documentationValue_eq, documentationValue_eq, hmodules, hlength, hpublic, hdocumented,
    if_neg (Nat.succ_ne_zero _)]
  split
  · next hnone =>
    rw [hnone] at hsymbols
    rw [Nat.le_zero.1 hsymbols, hnone, ratio_eq 1 1, Nat.cast_one, div_one]
    linarith
  · linarith

theorem documentationValue_le_of_undocumented
    (hdocumented : totalOf (·.docs.documentedSymbols) others =
      totalOf (·.docs.documentedSymbols) files) :
    documentationValue others ≤ (documentationValue files : K) := by
  have hopened : (0 : K) ≤ ratio (moduleDocCount files) files.length := ratio_nonneg _ _
  have hsymbols := totalOf_le_totalOf h
  rw [documentationValue_eq, documentationValue_eq, hmodules, hlength, hpublic, hdocumented,
    if_neg (Nat.succ_ne_zero _)]
  split
  · next hnone =>
    rw [hnone] at hsymbols
    rw [Nat.le_zero.1 hsymbols, ratio_eq 0, Nat.cast_zero, zero_div]
    linarith
  · next hsome =>
    have hshare := ratio_le_of_whole (K := K) (totalOf (·.docs.documentedSymbols) files)
      (Nat.pos_of_ne_zero hsome) (Nat.le_succ _)
    linarith

end

/-! ### Error handling -/

/-- A guarded risky construct never lowers error handling; the first one leads to the full score. -/
theorem errorHandlingValue_le_of_guarded
    (hrisk : totalOf (·.errors.risk) others = totalOf (·.errors.risk) files + 1)
    (hguarded : totalOf (·.errors.guarded) others = totalOf (·.errors.guarded) files + 1)
    (hchecks : totalOf (·.errors.checks) others = totalOf (·.errors.checks) files) :
    (errorHandlingValue files : K) ≤ errorHandlingValue others := by
  rw [errorHandlingValue_eq others, hrisk, hguarded, hchecks, if_neg (Nat.succ_ne_zero _),
    Nat.add_right_comm]
  by_cases hnone : totalOf (·.errors.risk) files = 0
  · rw [hnone, capped_ratio_one (Nat.succ_pos _), mul_one]
    exact errorHandlingValue_mem_Icc.2
  · rw [errorHandlingValue_eq, if_neg hnone]
    exact mul_le_mul_of_nonneg_left (capped_ratio_le_ratio_succ _ _) (by norm_num)

theorem errorHandlingValue_le_of_unguarded
    (hrisk : totalOf (·.errors.risk) others = totalOf (·.errors.risk) files + 1)
    (hguarded : totalOf (·.errors.guarded) others = totalOf (·.errors.guarded) files)
    (hchecks : totalOf (·.errors.checks) others = totalOf (·.errors.checks) files)
    (h : ∀ f ∈ files, f.errors.guarded ≤ f.errors.risk) :
    errorHandlingValue others ≤ (errorHandlingValue files : K) := by
  have htotal := totalOf_le_totalOf h
  rw [errorHandlingValue_eq files]
  split
  · next hnone =>
    split
    · -- without checks the only risky construct is not guarded: nothing is left
      next hunchecked =>
      rw [hnone] at htotal
      rw [errorHandlingValue_eq, hrisk, hguarded, hchecks, if_neg (Nat.succ_ne_zero _), hunchecked,
        Nat.le_zero.1 htotal, ratio_eq, Nat.cast_zero, zero_div]
      norm_num
    · exact errorHandlingValue_mem_Icc.2
  · next hsome =>
    rw [errorHandlingValue_eq, hrisk, hguarded, hchecks, if_neg (Nat.succ_ne_zero _)]
    gcongr
    exact ratio_le_of_whole _ (Nat.pos_of_ne_zero hsome) (Nat.le_succ _)

theorem errorHandlingValue_le_of_checked
    (hrisk : totalOf (·.errors.risk) others = totalOf (·.errors.risk) files)
    (hguarded : totalOf (·.errors.guarded) others = totalOf (·.errors.guarded) files)
    (hchecks : totalOf (·.errors.checks) others = totalOf (·.errors.checks) files + 1) :
    (errorHandlingValue files : K) ≤ errorHandlingValue others := by
  rw [errorHandlingValue_eq others, hrisk, hguarded, hchecks, if_neg (Nat.succ_ne_zero _)]
  split
  · exact errorHandlingValue_mem_Icc.2
  · next hsome =>
    rw [errorHandlingValue_eq, if_neg hsome]
    gcongr
    exact ratio_le_of_part (Nat.le_succ _) _

/-! ### Testing -/

/-- The test may be one more of the functions outside of tests: then there is one more to cover. -/
theorem testCoverage_le_of_tested
    (htests : totalOf (·.tests.testFunctions) others = totalOf (·.tests.testFunctions) files + 1)
    (hproduction : productionFunctions others ≤ productionFunctions files + 1) :
    (testCoverage files : K) ≤ testCoverage others := by
  by_cases hnone : totalOf (·.tests.testFunctions) files = 0
  · rw [testCoverage_eq, if_pos hnone]
    exact (testCoverage_mem_Icc _).1
  · have hmore : (productionFunctions others : K) ≤ productionFunctions files + 1 := by
      exact_mod_cast hproduction
    have hhalf := le_max_left ((productionFunctions files : K) * (1 / 2)) 1
    have hone := le_max_right ((productionFunctions files : K) * (1 / 2)) 1
    rw [testCoverage_eq, testCoverage_eq, htests, if_neg hnone, if_neg (Nat.succ_ne_zero _),
      Nat.cast_succ]
    refine capped_div_le (Nat.cast_nonneg _) (zero_lt_one.trans_le (le_max_right _ _)) ?_
    refine max_le ?_ ?_ <;> linarith

theorem testingValue_le_of_tested (hfiles : testFileCount others = testFileCount files)
    (hlength : others.length = files.length)
    (htests : totalOf (·.tests.testFunctions) others = totalOf (·.tests.testFunctions) files + 1)
    (hassertions : totalOf (·.tests.assertions) others = totalOf (·.tests.assertions) files + 1)
    (hproduction : productionFunctions others ≤ productionFunctions files + 1) :
    (testingValue files : K) ≤ testingValue others := by
  have hpresence : (testPresence others : K) = testPresence files := by
    rw [testPresence_eq, testPresence_eq, hfiles, hlength]
  have hcoverage : (testCoverage files : K) ≤ testCoverage others :=
    testCoverage_le_of_tested htests hproduction
  have hdensity : (assertionDensity files : K) ≤ assertionDensity others := by
    rw [assertionDensity_eq, assertionDensity_eq, htests, hassertions]
    exact capped_ratio_le_ratio_succ _ _
  simp only [testingValue, hpresence, literal_eq]
  norm_num
  linarith

/-! ### Security -/

theorem securityValue_le_of_endangered (hfiles : files ≠ [])
    (hlength : others.length = files.length)
    (htotal : (dangersByKind files).total ≤ (dangersByKind others).total) :
    securityValue others ≤ (securityValue files : K) := by
  have hothers : others ≠ [] :=
    List.ne_nil_of_length_pos (hlength ▸ List.length_pos_iff.2 hfiles)
  have hshare := ratio_le_of_part (K := K) htotal files.length
  have hnonneg := ratio_nonneg (K := K) (dangersByKind files).total files.length
  rw [securityValue_eq, securityValue_eq, if_neg hfiles, if_neg hothers, hlength]
  gcongr

end

/-! ### Complexity -/

theorem inverseDecay_le {scale excess more : K} (hscale : 0 < scale) (h : excess ≤ more) :
    inverseDecay more scale ≤ inverseDecay excess scale := by
  rw [inverseDecay_eq, inverseDecay_eq]
  have hnonneg : 0 ≤ max excess 0 / scale := div_nonneg (le_max_right _ _) hscale.le
  gcongr

theorem meanOf_le {f : FunctionFacts → Nat} {earlier later : List FunctionFacts}
    {g raised : FunctionFacts} (h : f g ≤ f raised) :
    (meanOf f (earlier ++ g :: later) : K) ≤ meanOf f (earlier ++ raised :: later) := by
  have hcast : (f g : K) ≤ f raised := Nat.cast_le.2 h
  simp only [meanOf_eq, List.map_append, List.map_cons, List.sum_append, List.sum_cons,
    List.length_append, List.length_cons]
  gcongr

/-- A function with more branches or deeper nesting never raises complexity. -/
theorem complexityValue_le {thresholds : Thresholds K}
    (hscale : 0 < thresholds.complexityPerFunction) {earlier later : List FunctionFacts}
    {g raised : FunctionFacts} (hbranches : g.branches ≤ raised.branches)
    (hnesting : g.maxNesting ≤ raised.maxNesting) :
    complexityValue thresholds (earlier ++ raised :: later) ≤
      complexityValue thresholds (earlier ++ g :: later) := by
  have hpaths : (meanOf (·.complexity) (earlier ++ g :: later) : K) ≤
      meanOf (·.complexity) (earlier ++ raised :: later) := meanOf_le (Nat.succ_le_succ hbranches)
  have hdepth : (meanOf (·.maxNesting) (earlier ++ g :: later) : K) ≤
      meanOf (·.maxNesting) (earlier ++ raised :: later) := meanOf_le hnesting
  rw [complexityValue_eq, complexityValue_eq, if_neg (by simp), if_neg (by simp)]
  refine mul_le_mul_of_nonneg_left (inverseDecay_le hscale ?_) (by norm_num)
  gcongr

/-! ## How scores react -/

/-- The score of a language in a category, as it depends on one of its files. -/
def scoreWith (language : Language) (thresholds : Thresholds K) (before after : List FileFacts)
    (category : Category) (file : FileFacts) : K :=
  (LanguageMetrics.ofFacts language thresholds (before ++ file :: after)).scores.value category

/-- A score follows its formula as long as the types of the file are the same. -/
theorem scoreWith_le (language : Language) {thresholds : Thresholds K}
    {before after : List FileFacts} {category : Category} (hbase : category ∈ Category.base)
    {file changed : FileFacts} (htypes : changed.types = file.types)
    (h : formulaValue thresholds (before ++ file :: after) category ≤
      formulaValue thresholds (before ++ changed :: after) category) :
    scoreWith language thresholds before after category file ≤
      scoreWith language thresholds before after category changed := by
  have hcoverage : (typeCoverage (before ++ changed :: after) : K) =
      typeCoverage (before ++ file :: after) := by
    unfold typeCoverage
    rw [types_unchanged htypes]
  unfold scoreWith
  rw [LanguageMetrics.value_eq language thresholds (by simp) hbase,
    LanguageMetrics.value_eq language thresholds (by simp) hbase, hcoverage]
  exact LanguageMetrics.scoreOf_mono _ _ _ h

/-- How the scores of the base categories react to the changes of a file. -/
structure ScoresReact (score : Category → FileFacts → K) (file : FileFacts) : Prop where
  documented : score .documentation file ≤ score .documentation (file.addSymbol true)
  undocumented : score .documentation (file.addSymbol false) ≤ score .documentation file
  guarded : score .errorHandling file ≤ score .errorHandling (file.addRisk true)
  unguarded : score .errorHandling (file.addRisk false) ≤ score .errorHandling file
  checked : score .errorHandling file ≤ score .errorHandling file.addCheck
  /-- The test function may be one more of the functions, or be kept apart from them. -/
  tested : ∀ functions : List FunctionFacts, functions.length ≤ file.functions.length + 1 →
    score .testing file ≤ score .testing (file.addTest functions)
  /-- Any one of the functions, with more branches, with deeper nesting or with both. -/
  complicated : ∀ (earlier later : List FunctionFacts) (g raised : FunctionFacts),
    file.functions = earlier ++ g :: later → g.branches ≤ raised.branches →
      g.maxNesting ≤ raised.maxNesting →
        score .complexity { file with functions := earlier ++ raised :: later } ≤
          score .complexity file
  endangered : ∀ (kind : String) (n : Nat),
    score .security (file.addSecurity kind n) ≤ score .security file

/-- **Scores react in the right direction** in every language, whichever file of a batch changes. -/
theorem scoresReact (language : Language) {thresholds : Thresholds K}
    (hscale : 0 < thresholds.complexityPerFunction) {before after : List FileFacts}
    {file : FileFacts}
    (hdocs : ∀ f ∈ before ++ file :: after, f.docs.documentedSymbols ≤ f.docs.publicSymbols)
    (herrors : ∀ f ∈ before ++ file :: after, f.errors.guarded ≤ f.errors.risk) :
    ScoresReact (scoreWith language thresholds before after) file where
  documented := scoreWith_le language (by decide) rfl <|
    documentationValue_le_of_documented (countP_unchanged rfl) (length_unchanged ..)
      (totalOf_succ rfl) hdocs (totalOf_succ rfl)
  undocumented := scoreWith_le language (by decide) rfl <|
    documentationValue_le_of_undocumented (countP_unchanged rfl) (length_unchanged ..)
      (totalOf_succ rfl) hdocs (totalOf_unchanged rfl)
  guarded := scoreWith_le language (by decide) rfl <|
    errorHandlingValue_le_of_guarded (totalOf_succ rfl) (totalOf_succ rfl) (totalOf_unchanged rfl)
  unguarded := scoreWith_le language (by decide) rfl <|
    errorHandlingValue_le_of_unguarded (totalOf_succ rfl) (totalOf_unchanged rfl)
      (totalOf_unchanged rfl) herrors
  checked := scoreWith_le language (by decide) rfl <|
    errorHandlingValue_le_of_checked (totalOf_unchanged rfl) (totalOf_unchanged rfl)
      (totalOf_succ rfl)
  tested functions h := scoreWith_le language (by decide) rfl <|
    testingValue_le_of_tested (countP_unchanged rfl) (length_unchanged ..) (totalOf_succ rfl)
      (totalOf_succ rfl) (productionFunctions_addTest_le h)
  complicated earlier later g raised hfunctions hbranches hnesting := by
    refine scoreWith_le language (by decide) rfl ?_
    show complexityValue thresholds (List.flatMap _ _) ≤
      complexityValue thresholds (List.flatMap _ _)
    rw [flatMap_functions before after hfunctions, flatMap_functions before after rfl]
    exact complexityValue_le hscale hbranches hnesting
  endangered kind n := scoreWith_le language (by decide) (types_addSecurity file kind n).symm <|
    securityValue_le_of_endangered (by simp) (length_unchanged ..)
      (total_dangersByKind_addSecurity_ge kind n)

/-- Two files without anything risky: the first risky construct leads to the full score of error
handling or to none, and the first test raises that of testing. -/
theorem scoresReact_of_first :
    let thresholds : Thresholds ℚ := .standard
    let file : FileFacts :=
      { path := "cart.ts", language := .typescript
        functions := [{ name := "total", line := 1, branches := 3 }]
        types := some { annotatable := 4, annotated := 3 } }
    let other : FileFacts :=
      { path := "shop.ts", language := .typescript
        docs := { publicSymbols := 3, documentedSymbols := 1, moduleDoc := true } }
    let score := scoreWith .typescript thresholds [] [other]
    (0 < thresholds.complexityPerFunction ∧
      (∀ f ∈ [] ++ file :: [other], f.docs.documentedSymbols ≤ f.docs.publicSymbols) ∧
      ∀ f ∈ [] ++ file :: [other], f.errors.guarded ≤ f.errors.risk) ∧
    ScoresReact score file ∧
    score .errorHandling file = 70 ∧ score .errorHandling (file.addRisk true) = 100 ∧
    score .errorHandling (file.addRisk false) = 0 ∧
    score .testing file = 0 ∧ score .testing (file.addTest file.functions) = 60 := by
  intro thresholds file other score
  have hscale : 0 < thresholds.complexityPerFunction := by decide +kernel
  have hdocs : ∀ f ∈ [] ++ file :: [other], f.docs.documentedSymbols ≤ f.docs.publicSymbols := by
    decide
  have herrors : ∀ f ∈ [] ++ file :: [other], f.errors.guarded ≤ f.errors.risk := by decide
  have hreact := scoresReact .typescript hscale hdocs herrors
  refine ⟨⟨hscale, hdocs, herrors⟩, hreact, ?_, ?_, ?_, ?_, ?_⟩ <;> decide +kernel

end Affinity
