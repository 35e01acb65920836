import Mathlib.Algebra.BigOperators.Ring.List
import Mathlib.Algebra.Order.BigOperators.Group.List
import Mathlib.Algebra.Order.Field.Basic
import Mathlib.Order.Interval.Set.Defs
import Mathlib.Tactic.Push

/-!
# Weighted means

A mean of some values is taken with weights that are positive and add up to one. It lies between the
least and the greatest value, and reaches a bound of the values only if all of them do.

* `IsWeighting` — what makes the weights of some values weights of a mean.
* `IsWeighting.exists_le_mean`, `IsWeighting.exists_mean_le` — the mean is between two values.
* `IsWeighting.mean_eq_iff` — when the mean reaches a bound.
-/

namespace Affinity

variable {K : Type} [Field K]

/-- The mean of some values, each of them behind its weight. -/
def weightedMean (parts : List (K × K)) : K := (parts.map fun part => part.1 * part.2).sum

variable [LinearOrder K]

/-- The weights are positive and add up to one. -/
structure IsWeighting (parts : List (K × K)) : Prop where
  pos : ∀ part ∈ parts, 0 < part.1
  sum : (parts.map (·.1)).sum = 1

namespace IsWeighting

variable {parts : List (K × K)} (h : IsWeighting parts)

include h

theorem mean_const (a : K) : (parts.map fun part => part.1 * a).sum = a := by
  rw [List.sum_map_mul_right, h.sum, one_mul]

theorem ne_nil : parts ≠ [] := by
  rintro rfl
  exact zero_ne_one h.sum

variable [IsStrictOrderedRing K]

/-- The mean of values that are at most some others. -/
theorem sum_le {f g : K × K → K} (hle : ∀ part ∈ parts, f part ≤ g part) :
    (parts.map fun part => part.1 * f part).sum ≤ (parts.map fun part => part.1 * g part).sum :=
  List.sum_le_sum fun part hpart => mul_le_mul_of_nonneg_left (hle part hpart) (h.pos part hpart).le

/-- One value that is less makes the mean less. -/
theorem sum_lt {f g : K × K → K} (hle : ∀ part ∈ parts, f part ≤ g part)
    (hlt : ∃ part ∈ parts, f part < g part) :
    (parts.map fun part => part.1 * f part).sum < (parts.map fun part => part.1 * g part).sum := by
  obtain ⟨part, hpart, hless⟩ := hlt
  refine List.sum_lt_sum _ _ (fun part hpart => ?_) ⟨part, hpart, ?_⟩
  · exact mul_le_mul_of_nonneg_left (hle part hpart) (h.pos part hpart).le
  · exact mul_lt_mul_of_pos_left hless (h.pos part hpart)

theorem le_mean {a : K} (ha : ∀ part ∈ parts, a ≤ part.2) : a ≤ weightedMean parts :=
  (h.mean_const a).ge.trans (h.sum_le ha)

theorem mean_le {a : K} (ha : ∀ part ∈ parts, part.2 ≤ a) : weightedMean parts ≤ a :=
  (h.sum_le ha).trans (h.mean_const a).le

theorem mean_mem_Icc {a b : K} (hparts : ∀ part ∈ parts, part.2 ∈ Set.Icc a b) :
    weightedMean parts ∈ Set.Icc a b :=
  ⟨h.le_mean fun part hpart => (hparts part hpart).1,
    h.mean_le fun part hpart => (hparts part hpart).2⟩

/-- **The mean reaches a bound** of the values if and only if each of them does. -/
theorem mean_eq_iff {a : K} (ha : ∀ part ∈ parts, part.2 ≤ a) :
    weightedMean parts = a ↔ ∀ part ∈ parts, part.2 = a := by
  constructor
  · intro hmean part hpart
    by_contra hne
    have hless : weightedMean parts < a :=
      (h.sum_lt ha ⟨part, hpart, lt_of_le_of_ne (ha part hpart) hne⟩).trans_eq (h.mean_const a)
    exact hless.ne hmean
  · intro hall
    exact le_antisymm (h.mean_le ha) (h.le_mean fun part hpart => (hall part hpart).ge)

/-- **Some value is at most the mean**, … -/
theorem exists_le_mean : ∃ part ∈ parts, part.2 ≤ weightedMean parts := by
  by_contra hnone
  push Not at hnone
  obtain ⟨part, hpart⟩ := List.exists_mem_of_ne_nil _ h.ne_nil
  have hless := h.sum_lt (fun part hpart => (hnone part hpart).le) ⟨part, hpart, hnone part hpart⟩
  exact ((h.mean_const _).ge.trans_lt hless).false

/-- … and some value is at least the mean. -/
theorem exists_mean_le : ∃ part ∈ parts, weightedMean parts ≤ part.2 := by
  by_contra hnone
  push Not at hnone
  obtain ⟨part, hpart⟩ := List.exists_mem_of_ne_nil _ h.ne_nil
  have hless := h.sum_lt (fun part hpart => (hnone part hpart).le) ⟨part, hpart, hnone part hpart⟩
  exact (hless.trans_eq (h.mean_const _)).false

end IsWeighting

end Affinity
