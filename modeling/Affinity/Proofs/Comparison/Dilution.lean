import Mathlib
import Affinity.Proofs.Comparison.Factors
import Affinity.Proofs.Finding.AntiPatterns
import Affinity.Proofs.Profile.Accounting
import Affinity.Proofs.Profile.Deadline

/-!
# Test files and the penalty for anti-patterns

Test files have no anti-patterns, but the density of a repository divides by all of its files. A
further test file thus lowers the density wherever there are anti-patterns and at least ten files,
and with the density the penalty changes, unless it is not felt or at its worst.

* `Factors.antiPatternDensity_ofBatch` — the density of a repository.
* `Factors.penalty_eq_iff_of_le` — when two excesses cost the same.
* `Factors.antiPatternFactor_test_file_iff` — when a further test file leaves the penalty as it was.
* `Factors.test_file_softens_penalty` — a further test file that does not.
-/

namespace Affinity

open Scalar

/-! ## Anti-patterns -/

section

variable {K : Type} [Scalar K] (thresholds : Thresholds K)

theorem AdvancedMetrics.antiPatternCount_ofFiles (files : List FileFacts) :
    (ofFiles thresholds files).patterns.antiPatternCount =
      (instancesIn thresholds files).length := by
  cases files with
  | nil => rfl
  | cons file rest => exact PatternReport.antiPatternCount_ofFiles thresholds (file :: rest)

/-- The order of the files does not matter, and a test file has no anti-patterns. -/
theorem length_instancesIn_of_perm {files larger : List FileFacts} {test : FileFacts}
    (htest : test.tests.isTestFile = true) (h : larger.Perm (test :: files)) :
    (instancesIn thresholds larger).length = (instancesIn thresholds files).length := by
  have hnone : fileInstances thresholds test = [] := if_pos htest
  unfold instancesIn
  rw [(h.flatMap_right _).length_eq, List.flatMap_cons, hnone, List.nil_append]

/-- The anti-patterns of a profile are those of the files of its batch. -/
theorem Profile.antiPatternCount_ofBatch (settings : Settings K) (name : String)
    (coverage : Coverage) (batch : Batch) :
    (ofBatch settings name coverage batch).advanced.patterns.antiPatternCount =
      (instancesIn settings.thresholds batch.files).length := by
  have hperm : batch.inOrder.files.Perm batch.files := List.mergeSort_perm _ _
  have hsorted : (instancesIn settings.thresholds batch.inOrder.files).length =
      (instancesIn settings.thresholds batch.files).length := (hperm.flatMap_right _).length_eq
  rw [← hsorted]
  unfold ofBatch ofMetrics
  simp only [ranked_metricsOf]
  split
  -- without metrics there are no files either
  · next hempty =>
    have hlength := sumOf_fileCount_metricsOf settings.thresholds batch.inOrder.files
    rw [List.isEmpty_iff.1 hempty] at hlength
    rw [List.length_eq_zero_iff.1 hlength.symm]
    rfl
  · exact AdvancedMetrics.antiPatternCount_ofFiles settings.thresholds batch.inOrder.files

end

/-- The files of the batch of some work are those that were begun. -/
theorem Work.files_batch [Python.Grammar] (work : Work) :
    work.batch.files = work.begun.map (·.facts) := by
  rw [batch_eq, Batch.ofFiles_eq]
  exact Batch.factsOf_work work

variable {K : Type} [ExactScalar K]

/-! ## Densities -/

namespace Factors

theorem antiPatternDensity_eq (p : Profile K) :
    antiPatternDensity p =
      (p.advanced.patterns.antiPatternCount : K) / max ((p.totalFiles : K) / 10) 1 := by
  unfold antiPatternDensity
  rw [greatest_eq_max, literal_eq, literal_eq]
  norm_num

/-- **The density of a repository**: the anti-patterns of its files, for ten of all its files. -/
theorem antiPatternDensity_ofBatch (settings : Settings K) (name : String) (coverage : Coverage)
    (batch : Batch) :
    antiPatternDensity (Profile.ofBatch settings name coverage batch) =
      ((instancesIn settings.thresholds batch.files).length : K) /
        max ((batch.files.length : K) / 10) 1 := by
  rw [antiPatternDensity_eq, Profile.antiPatternCount_ofBatch,
    (Profile.counts_ofBatch name coverage settings batch).1]

section

variable {before after : Profile K}
  (hcount : after.advanced.patterns.antiPatternCount = before.advanced.patterns.antiPatternCount)
  (hfiles : after.totalFiles = before.totalFiles + 1)

include hcount hfiles

/-- A file without anti-patterns does not raise the density. -/
theorem antiPatternDensity_le : antiPatternDensity after ≤ antiPatternDensity before := by
  rw [antiPatternDensity_eq, antiPatternDensity_eq, hcount, hfiles]
  gcongr
  omega

/-- It leaves the density as it was if there is nothing to spread, or not enough files for a second
block of ten. -/
theorem antiPatternDensity_eq_iff :
    antiPatternDensity after = antiPatternDensity before ↔
      before.advanced.patterns.antiPatternCount = 0 ∨ before.totalFiles < 10 := by
  rw [antiPatternDensity_eq, antiPatternDensity_eq, hcount, hfiles]
  push_cast
  constructor
  · intro hsame
    by_contra hmany
    obtain ⟨hsome, hten⟩ := not_or.1 hmany
    have hinstances : (0 : K) < (before.advanced.patterns.antiPatternCount : K) :=
      Nat.cast_pos.2 (Nat.pos_of_ne_zero hsome)
    have hblocks : (10 : K) ≤ (before.totalFiles : K) := by exact_mod_cast not_lt.1 hten
    rw [max_eq_left (by linarith), max_eq_left (by linarith)] at hsame
    exact hsame.not_lt (div_lt_div_of_pos_left hinstances (by linarith) (by linarith))
  · rintro (hnone | hfew)
    · rw [hnone, Nat.cast_zero, zero_div, zero_div]
    · have hblocks : (before.totalFiles : K) + 1 ≤ 10 := by exact_mod_cast hfew
      rw [max_eq_right (by linarith), max_eq_right (by linarith)]

end

/-! ## Penalties -/

/-- What an excess of the density costs. -/
def penalty (excess : K) : K := max (1 - 1 / 50 * max excess 0) (17 / 20)

theorem antiPatternFactor_eq_penalty (reference candidate : Profile K) :
    antiPatternFactor reference candidate =
      penalty (antiPatternDensity candidate - antiPatternDensity reference) :=
  antiPatternFactor_eq reference candidate

/-- A greater excess costs more, if it costs anything and the smaller one does not cost all that an
excess can cost. -/
theorem penalty_lt_penalty {x y : K} (h : x < y) (hy : 0 < y) (hx : x < 15 / 2) :
    penalty y < penalty x := by
  have hfelt : max x 0 < y := max_lt h hy
  have hbounded : max x 0 < 15 / 2 := max_lt hx (by norm_num)
  unfold penalty
  rw [max_eq_left hy.le]
  exact lt_max_of_lt_left (max_lt (by linarith) (by linarith))

/-- Two excesses cost the same if they are the same, cost nothing or cost all that an excess can
cost. -/
theorem penalty_eq_iff_of_le {x y : K} (h : x ≤ y) :
    penalty x = penalty y ↔ x = y ∨ y ≤ 0 ∨ 15 / 2 ≤ x := by
  constructor
  · intro hsame
    by_contra hapart
    obtain ⟨hne, hapart⟩ := not_or.1 hapart
    obtain ⟨hfelt, hbounded⟩ := not_or.1 hapart
    have hlt := penalty_lt_penalty (h.lt_of_ne hne) (not_le.1 hfelt) (not_le.1 hbounded)
    exact hlt.ne hsame.symm
  · unfold penalty
    rintro (rfl | hnone | hall)
    · rfl
    · rw [max_eq_right (h.trans hnone), max_eq_right hnone]
    · have hx := le_max_left x 0
      have hy := le_max_left y 0
      rw [max_eq_right (by linarith), max_eq_right (by linarith)]

/-! ## A further test file -/

/-- **When a further test file leaves the penalty as it was.** It is one more file and adds no
anti-pattern. Put into the candidate, it changes nothing if the candidate has no anti-patterns or
fewer than ten files, if its density was no greater than that of the other side, or if it still
exceeds that by as much as is charged for; put into the reference, likewise. -/
theorem antiPatternFactor_test_file_iff [Python.Grammar] (settings : Settings K) (name : String)
    (coverage coverage' : Coverage) {work larger : Work} {test : SourceFile}
    (htest : test.facts.tests.isTestFile = true)
    (hlarger : larger.begun.Perm (test :: work.begun)) (other : Profile K) :
    let before := Profile.ofBatch settings name coverage work.batch
    let after := Profile.ofBatch settings name coverage' larger.batch
    after.advanced.patterns.antiPatternCount = before.advanced.patterns.antiPatternCount ∧
      after.totalFiles = before.totalFiles + 1 ∧
      (antiPatternFactor other after = antiPatternFactor other before ↔
        before.advanced.patterns.antiPatternCount = 0 ∨ before.totalFiles < 10 ∨
          antiPatternDensity before ≤ antiPatternDensity other ∨
          antiPatternDensity other + 15 / 2 ≤ antiPatternDensity after) ∧
      (antiPatternFactor after other = antiPatternFactor before other ↔
        before.advanced.patterns.antiPatternCount = 0 ∨ before.totalFiles < 10 ∨
          antiPatternDensity other ≤ antiPatternDensity after ∨
          antiPatternDensity before + 15 / 2 ≤ antiPatternDensity other) := by
  intro before after
  have hperm : larger.batch.files.Perm (test.facts :: work.batch.files) := by
    rw [Work.files_batch, Work.files_batch]
    exact hlarger.map (·.facts)
  have hcount : after.advanced.patterns.antiPatternCount =
      before.advanced.patterns.antiPatternCount := by
    rw [Profile.antiPatternCount_ofBatch, Profile.antiPatternCount_ofBatch]
    exact length_instancesIn_of_perm settings.thresholds htest hperm
  have hfiles : after.totalFiles = before.totalFiles + 1 := by
    rw [(Profile.counts_ofBatch name coverage' settings larger.batch).1,
      (Profile.counts_ofBatch name coverage settings work.batch).1]
    exact hperm.length_eq
  have hle := antiPatternDensity_le hcount hfiles
  have hsame := antiPatternDensity_eq_iff hcount hfiles
  refine ⟨hcount, hfiles, ?_, ?_⟩
  · rw [antiPatternFactor_eq_penalty, antiPatternFactor_eq_penalty,
      penalty_eq_iff_of_le (sub_le_sub_right hle _), sub_left_inj, hsame, sub_nonpos,
      le_sub_iff_add_le', or_assoc]
  · rw [eq_comm, antiPatternFactor_eq_penalty, antiPatternFactor_eq_penalty,
      penalty_eq_iff_of_le (sub_le_sub_left hle _), sub_right_inj, eq_comm, hsame, sub_nonpos,
      le_sub_iff_add_le', or_assoc]

/-- A function with seven parameters is one anti-pattern. -/
theorem length_fileInstances_wide :
    (fileInstances (.standard : Thresholds ℚ) (SourceFile.facts
      ⟨⟨"a.go"⟩, .go, "func f(a, b, c, d, e, g, h int) \x7b\x7d\n"⟩)).length = 1 := by
  decide +kernel

/-- A file with an anti-pattern, with and without a test file: there is one block either way.
Another file came too late. -/
theorem antiPatternFactor_test_file_one_block :
    let file (path content : String) : SourceFile := ⟨⟨path⟩, .go, content⟩
    let wide := file "a.go" "func f(a, b, c, d, e, g, h int) \x7b\x7d\n"
    let test := file "a_test.go" ""
    let work : Work := .part [(wide, false), (file "b.go" "", true)]
    let larger : Work := .both (.part [(test, false)]) (.part [(wide, false)])
    let before : Profile ℚ := .ofBatch .standard "acme/web" {} work.batch
    let after : Profile ℚ := .ofBatch .standard "acme/web" {} larger.batch
    let other : Profile ℚ := .empty "acme/api" .standard {}
    test.facts.tests.isTestFile = true ∧ larger.begun.Perm (test :: work.begun) ∧
      before.totalFiles < 10 ∧ after.advanced.patterns.antiPatternCount = 1 ∧
      antiPatternFactor other after = antiPatternFactor other before ∧
      antiPatternFactor after other = antiPatternFactor before other := by
  intro file wide test work larger before after other
  have htest : test.facts.tests.isTestFile = true := by decide +kernel
  have hlarger : larger.begun.Perm (test :: work.begun) := .refl _
  have hfew : before.totalFiles < 10 := by
    rw [(Profile.counts_ofBatch "acme/web" {} .standard work.batch).1, Work.files_batch]
    exact (by decide : 1 < 10)
  have hone : before.advanced.patterns.antiPatternCount = 1 := by
    rw [Profile.antiPatternCount_ofBatch, Work.files_batch]
    show (instancesIn .standard [wide.facts]).length = 1
    rw [instancesIn, List.flatMap_singleton]
    exact length_fileInstances_wide
  obtain ⟨hcount, -, hcandidate, hreference⟩ := antiPatternFactor_test_file_iff
    (.standard : Settings ℚ) "acme/web" {} {} htest hlarger other
  exact ⟨htest, hlarger, hfew, hcount.trans hone, hcandidate.2 (.inr (.inl hfew)),
    hreference.2 (.inr (.inl hfew))⟩

/-- **A further test file that softens the penalty**: with ten files and one anti-pattern the
density is one for ten files, and with a test file it is one for eleven. -/
theorem test_file_softens_penalty :
    let file (path content : String) : SourceFile := ⟨⟨path⟩, .go, content⟩
    let wide := file "a.go" "func f(a, b, c, d, e, g, h int) \x7b\x7d\n"
    let blank :=
      ["b.go", "c.go", "d.go", "e.go", "f.go", "g.go", "h.go", "i.go", "j.go"].map (file · "")
    let test := file "a_test.go" ""
    let profile (files : List SourceFile) : Profile ℚ :=
      .ofBatch .standard "acme/web" {} (Work.part (files.map fun file => (file, false))).batch
    let reference := profile blank
    test.facts.tests.isTestFile = true ∧
      antiPatternFactor reference (profile (wide :: blank)) = 49 / 50 ∧
      antiPatternFactor reference (profile (test :: wide :: blank)) = 54 / 55 := by
  intro file wide blank test profile reference
  have hdensity : ∀ files : List SourceFile, antiPatternDensity (profile files) =
      ((instancesIn (.standard : Thresholds ℚ) (files.map (·.facts))).length : ℚ) /
        max ((files.length : ℚ) / 10) 1 := by
    intro files
    have hfiles : (Work.part (files.map fun file => (file, false))).batch.files =
        files.map (·.facts) := by
      rw [Work.files_batch, ← Batch.factsOf_work]
      exact Batch.factsOf_inTime files
    rw [antiPatternDensity_ofBatch, hfiles, List.length_map]
    rfl
  have htest : test.facts.tests.isTestFile = true := by decide +kernel
  have hblank : (instancesIn (.standard : Thresholds ℚ) (blank.map (·.facts))).length = 0 := by
    decide +kernel
  have hone : (instancesIn (.standard : Thresholds ℚ)
      ((wide :: blank).map (·.facts))).length = 1 := by
    rw [List.map_cons, instancesIn, List.flatMap_cons, List.length_append,
      length_fileInstances_wide]
    exact congrArg (1 + ·) hblank
  have hboth : (instancesIn (.standard : Thresholds ℚ)
      ((test :: wide :: blank).map (·.facts))).length = 1 :=
    (length_instancesIn_of_perm _ htest (.refl _)).trans hone
  refine ⟨htest, ?_, ?_⟩
  · rw [antiPatternFactor_eq, hdensity, hdensity, hone, hblank]
    norm_num [blank]
  · rw [antiPatternFactor_eq, hdensity, hdensity, hboth, hblank]
    norm_num [blank]

end Factors

end Affinity
