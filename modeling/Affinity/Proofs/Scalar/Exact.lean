import Mathlib
import Affinity.Score.Basic

/-!
# Exact scalars

Scalars are *exact* if they form an ordered field in which decimal fractions have the value that
they denote. There every value is a number and finite, and the operations of the formulas are those
of the field: `greatest` is the maximum, `least` the minimum, `magnitude` the absolute value, and
`clamp` leaves what is between its bounds. Nothing is assumed of the square root.

* `ExactScalar` — exact scalars; the rational and the real numbers are some.
* `Scalar.literal_eq` — the value of a decimal fraction.
-/

namespace Affinity

/-- A type of scalars that form an ordered field. -/
class ExactScalar (K : Type) extends Field K, LinearOrder K, IsStrictOrderedRing K, Scalar K where
  /-- Decimal fractions have the value that they denote. -/
  ofScientific_eq (digits : Nat) (fraction : Bool) (exponent : Nat) :
    toOfScientific.ofScientific digits fraction exponent =
      if fraction then (digits : K) / 10 ^ exponent else (digits : K) * 10 ^ exponent

section

-- Nearly every step asks for one of these; through the other classes they are found slowly.

variable {K : Type} [ExactScalar K]

instance ExactScalar.isOrderedRing : IsOrderedRing K := inferInstance

instance ExactScalar.zeroLEOneClass : ZeroLEOneClass K := inferInstance

instance ExactScalar.addLeftMono : AddLeftMono K := inferInstance

instance ExactScalar.posMulMono : PosMulMono K := inferInstance

instance ExactScalar.mulPosMono : MulPosMono K := inferInstance

end

theorem ratOfScientific_eq (digits : Nat) (fraction : Bool) (exponent : Nat) :
    (OfScientific.ofScientific digits fraction exponent : ℚ) =
      if fraction then (digits : ℚ) / 10 ^ exponent else (digits : ℚ) * 10 ^ exponent := by
  show Rat.ofScientific digits fraction exponent = _
  cases fraction with
  | false => simp [Rat.ofScientific_false_def]
  | true => simp [Rat.ofScientific_true_def, Rat.mkRat_eq_div]

instance : ExactScalar ℚ where
  decidableLT := inferInstance
  decidableLE := inferInstance
  sqrt := Rat.sqrt
  ofScientific_eq := ratOfScientific_eq

noncomputable instance : ExactScalar ℝ where
  ofScientific digits fraction exponent :=
    if fraction then (digits : ℝ) / 10 ^ exponent else (digits : ℝ) * 10 ^ exponent
  decidableLT := inferInstance
  decidableLE := inferInstance
  sqrt := Real.sqrt
  ofScientific_eq _ _ _ := rfl

namespace Scalar

variable {K : Type} [ExactScalar K]

/-- The value of a decimal fraction. -/
theorem literal_eq (digits : Nat) (fraction : Bool) (exponent : Nat) :
    (Scalar.toOfScientific.ofScientific digits fraction exponent : K) =
      if fraction then (digits : K) / 10 ^ exponent else (digits : K) * 10 ^ exponent :=
  ExactScalar.ofScientific_eq digits fraction exponent

theorem literal_zero : (Scalar.toOfScientific.ofScientific 0 true 1 : K) = 0 := by
  norm_num [literal_eq]

theorem literal_one : (Scalar.toOfScientific.ofScientific 10 true 1 : K) = 1 := by
  norm_num [literal_eq]

theorem isNumber_eq (x : K) : isNumber x = true := by
  simp [isNumber]

theorem isFinite_eq (x : K) : isFinite x = true := by
  simp [isFinite]

theorem greatest_eq_max (a b : K) : greatest a b = max a b := by
  unfold greatest
  split
  · next h => exact (max_eq_right h.le).symm
  · next h => rw [if_pos (le_refl a), max_eq_left (not_lt.1 h)]

theorem least_eq_min (a b : K) : least a b = min a b := by
  unfold least
  split
  · next h => exact (min_eq_right h.le).symm
  · next h => rw [if_pos (le_refl a), min_eq_left (not_lt.1 h)]

theorem magnitude_eq_abs (x : K) : magnitude x = |x| := by
  unfold magnitude
  rw [literal_eq]
  norm_num
  split
  · next h => exact (abs_of_neg h).symm
  · next h => exact (abs_of_nonneg (not_lt.1 h)).symm

/-- Where there is nothing to divide by, the quotient of the field is zero as well. -/
theorem ratio_eq (part whole : Nat) : (ratio part whole : K) = part / whole := by
  unfold ratio
  split
  · next hnone => rw [hnone, Nat.cast_zero, div_zero, literal_zero]
  · rfl

theorem foldl_add_eq {α : Type} (f : α → K) (l : List α) (x : K) :
    l.foldl (fun total a => total + f a) x = x + (l.map f).sum := by
  induction l generalizing x with
  | nil => simp
  | cons a l ih => rw [List.foldl_cons, ih, List.map_cons, List.sum_cons, add_assoc]

theorem sum_eq (l : List K) : sum l = l.sum := by
  cases l with
  | nil => norm_num [sum, literal_eq]
  | cons x rest =>
    show rest.foldl (fun total y => total + id y) x = _
    rw [foldl_add_eq, List.map_id, List.sum_cons]

theorem clamp_eq {low high : K} (h : low ≤ high) (x : K) :
    clamp low high x = max low (min high x) := by
  unfold clamp
  split
  · next hlow => rw [min_eq_right (hlow.le.trans h), max_eq_left hlow.le]
  · next hlow =>
    split
    · next hhigh => rw [min_eq_left hhigh.le, max_eq_right h]
    · next hhigh => rw [min_eq_right (not_lt.1 hhigh), max_eq_right (not_lt.1 hlow)]

end Scalar

open Scalar

variable {K : Type} [ExactScalar K]

theorem clampScore_eq (x : K) : clampScore x = max 0 (min 100 x) := by
  unfold clampScore
  rw [if_pos (isNumber_eq x), clamp_eq, literal_eq, literal_eq]
  · norm_num
  · norm_num [literal_eq]

theorem clampScore_mem_Icc (x : K) : clampScore x ∈ Set.Icc 0 100 := by
  rw [clampScore_eq]
  exact ⟨le_max_left _ _, max_le (by norm_num) (min_le_left _ _)⟩

/-- What is on the scale stays as it is. -/
theorem clampScore_eq_self {x : K} (h : x ∈ Set.Icc 0 100) : clampScore x = x := by
  rw [clampScore_eq, min_eq_right h.2, max_eq_right h.1]

theorem clampScore_mono {x y : K} (h : x ≤ y) : clampScore x ≤ clampScore y := by
  rw [clampScore_eq, clampScore_eq]
  gcongr

end Affinity
