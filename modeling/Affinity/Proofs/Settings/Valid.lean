import Mathlib
import Affinity.Proofs.Order.Lawful
import Affinity.Proofs.Scalar.Exact
import Affinity.Settings.Basic
import Affinity.Source.FileSet

/-!
# Settings that pass the check

What the rest of the program may rely on once the settings were found to make sense.

* `Settings.isValid_iff` — settings make sense if each of their parts does.
* `Settings.exists_globsOf` — the patterns can be read.
* `Weights.problem?_eq_none_iff` — no weight is negative, and their sum is close to one.
* `Settings.importanceOf_pos` — every language has a positive importance.
* `Settings.standard_isValid` — the defaults make sense.
-/

namespace Affinity

open Scalar

/-- Settings make sense if each of their parts does. -/
theorem Settings.isValid_iff {K : Type} [Scalar K] (settings : Settings K) :
    settings.isValid = true ↔
      settings.weights.problem? = none ∧
      (∀ e ∈ settings.importance.entries, importanceProblem? e.1 e.2 = none) ∧
      (settings.limits.problem? : Option (SettingsProblem K)) = none ∧
      settings.thresholds.problem? = none ∧
      ∀ pattern ∈ settings.exclude,
        (excludeProblem? pattern : Option (SettingsProblem K)) = none := by
  unfold Settings.isValid Settings.problem?
  simp only [Option.isNone_iff_eq_none, Option.orElse_eq_orElse, Option.orElse_eq_or,
    Option.or_eq_none_iff, List.findSome?_eq_none_iff]

/-- The patterns of settings that make sense can be read. -/
theorem Settings.exists_globsOf {K : Type} [Scalar K] {settings : Settings K}
    (h : settings.isValid = true) : ∃ globs, FileSet.globsOf settings.exclude = .ok globs := by
  obtain ⟨-, -, -, -, hexclude⟩ := (Settings.isValid_iff settings).1 h
  generalize settings.exclude = patterns at hexclude ⊢
  induction patterns with
  | nil => exact ⟨[], rfl⟩
  | cons pattern rest ih =>
    obtain ⟨globs, hglobs⟩ := ih fun p hp => hexclude p (List.mem_cons_of_mem _ hp)
    have hpattern := hexclude pattern (List.mem_cons_self ..)
    unfold excludeProblem? at hpattern
    split at hpattern
    · next glob hglob =>
      refine ⟨glob :: globs, ?_⟩
      unfold FileSet.globsOf at hglobs ⊢
      rw [List.mapM_cons, hglob, hglobs]
      rfl
    · cases hpattern

variable {K : Type} [ExactScalar K]

/-! ## Weights -/

/-- Weights make sense if none of them is negative and their sum is close to one. -/
theorem Weights.problem?_eq_none_iff (weights : Weights K) :
    weights.problem? = none ↔ (∀ c, 0 ≤ weights.of c) ∧ |weights.sum - 1| ≤ 1 / 1000000 := by
  have htolerance : (weightTolerance : K) = 1 / 1000000 := by
    norm_num [weightTolerance, literal_eq]
  unfold Weights.problem?
  rw [htolerance, magnitude_eq_abs, literal_eq, literal_eq]
  norm_num [isFinite_eq]
  cases hfind : Category.all.find? fun c => decide (weights.of c < 0) with
  | some c =>
    have hneg : weights.of c < 0 := by simpa using List.find?_some hfind
    simp only [reduceCtorEq, false_iff, not_and]
    exact fun h => absurd (h c) (not_le.2 hneg)
  | none =>
    have hnonneg : ∀ c, 0 ≤ weights.of c := by
      intro c
      have := List.find?_eq_none.1 hfind c (Category.mem_all c)
      simpa using this
    simp only [ite_eq_right_iff, reduceCtorEq, imp_false, not_lt]
    exact ⟨fun h => ⟨hnonneg, h⟩, And.right⟩

theorem Weights.sum_standard : (Weights.standard : Weights K).sum = 1 := by
  rw [Weights.sum, sum_eq]
  simp [Weights.standard, Category.all, Category.base, Category.advanced, literal_eq]
  norm_num

theorem Weights.standard_nonneg (c : Category) : 0 ≤ (Weights.standard : Weights K).of c := by
  cases c <;> norm_num [Weights.standard, literal_eq]

/-! ## Importance of the languages -/

theorem importance_pos_of_problem?_eq_none {name : String} {value : K}
    (h : importanceProblem? name value = none) : 0 < value := by
  unfold importanceProblem? at h
  split at h
  · cases h
  · split at h
    · cases h
    · next hbad =>
      simpa [isFinite_eq, literal_eq] using hbad

/-- Every language has a positive importance if every multiplier is positive. -/
theorem Settings.importanceOf_pos_of_forall {settings : Settings K}
    (h : ∀ entry ∈ settings.importance.entries, 0 < entry.2) (language : Language) :
    0 < settings.importanceOf language := by
  unfold Settings.importanceOf
  split
  · next name multiplier hfind => exact h _ (List.mem_of_find?_eq_some hfind)
  · norm_num [literal_eq]

/-- **Every language has a positive importance** in settings that make sense. -/
theorem Settings.importanceOf_pos {settings : Settings K} (h : settings.isValid = true)
    (language : Language) : 0 < settings.importanceOf language :=
  importanceOf_pos_of_forall (fun entry hentry => importance_pos_of_problem?_eq_none
    (((Settings.isValid_iff settings).1 h).2.1 entry hentry)) language

/-! ## The defaults -/

/-- The defaults make sense. -/
theorem Settings.standard_isValid : (Settings.standard : Settings K).isValid = true := by
  refine (Settings.isValid_iff _).2 ⟨?_, nofun, rfl, ?_, nofun⟩
  · refine (Weights.problem?_eq_none_iff _).2 ⟨Weights.standard_nonneg, ?_⟩
    have hsum : (Settings.standard : Settings K).weights.sum = 1 := Weights.sum_standard
    rw [hsum]
    norm_num
  · norm_num [Settings.standard, Thresholds.standard, Thresholds.problem?, literal_eq]

end Affinity
