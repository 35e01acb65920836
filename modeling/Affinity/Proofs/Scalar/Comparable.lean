import Affinity.Proofs.Scalar.Exact

/-!
# Comparable scalars

Scalars are *comparable* if their numbers are in a total order, up to numbers that are at most each
other, and a value that is no number compares with nothing. Exact scalars are, and so are the
floating-point numbers with which the program runs: each of them but the value that is no number has
a place by its sign, exponent and digits, and comparing two of them compares their places. The two
zeros stand at one place.

* `ComparableScalar` — the laws.
* `UnpackedFloat.compare_eq` — comparing floating-point numbers compares their places.
* `FiniteScalar` — comparable scalars whose finite values are numbers, zero and one among them.
-/

namespace Affinity

/-- A type of scalars whose numbers are in order. -/
class ComparableScalar (K : Type) [Scalar K] : Prop where
  /-- What compares with anything is a number. -/
  number_of_le (a b : K) : a ≤ b → a ≤ a ∧ b ≤ b
  le_trans (a b c : K) : a ≤ b → b ≤ c → a ≤ c
  le_total (a b : K) : a ≤ a → b ≤ b → a ≤ b ∨ b ≤ a
  lt_iff (a b : K) : a < b ↔ a ≤ b ∧ ¬ b ≤ a

instance {K : Type} [ExactScalar K] : ComparableScalar K where
  number_of_le a b _ := ⟨le_refl a, le_refl b⟩
  le_trans _ _ _ := le_trans
  le_total a b _ _ := le_total a b
  lt_iff _ _ := lt_iff_le_not_ge

/-! ## Places -/

theorem compare_toLex {α β : Type} [LinearOrder α] [LinearOrder β] (a c : α) (b d : β) :
    compare (toLex (a, b)) (toLex (c, d)) = (compare a c).then (compare b d) := by
  rw [Prod.Lex.compare_def]
  rfl

theorem compare_neg_neg (a b : ℤ) : compare (-a) (-b) = (compare a b).swap := by
  rcases lt_trichotomy a b with h | rfl | h
  · rw [compare_lt_iff_lt.2 h, compare_gt_iff_gt.2 (neg_lt_neg h)]
    rfl
  · rw [compare_eq_iff_eq.2 rfl, compare_eq_iff_eq.2 rfl]
    rfl
  · rw [compare_gt_iff_gt.2 h, compare_lt_iff_lt.2 (neg_lt_neg h)]
    rfl

theorem compare_natCast (m n : ℕ) : compare (m : ℤ) (n : ℤ) = compare m n := by
  rcases lt_trichotomy m n with h | rfl | h
  · rw [compare_lt_iff_lt.2 h, compare_lt_iff_lt.2 (Int.ofNat_lt.2 h)]
  · rw [compare_eq_iff_eq.2 rfl, compare_eq_iff_eq.2 rfl]
  · rw [compare_gt_iff_gt.2 h, compare_gt_iff_gt.2 (Int.ofNat_lt.2 h)]

namespace UnpackedFloat

open Float.Model (UnpackedFloat)

/-- Where a floating-point number stands among the others: by its sign and whether it is infinite,
then by its exponent, then by its digits. -/
def place? : UnpackedFloat → Option (ℤ ×ₗ ℤ ×ₗ ℤ)
  | .notANumber => none
  | .infinity .negative => some (toLex (-2, toLex (0, 0)))
  | .finite .negative digits exponent _ => some (toLex (-1, toLex (-exponent, -(digits : ℤ))))
  | .zero _ => some (toLex (0, toLex (0, 0)))
  | .finite .positive digits exponent _ => some (toLex (1, toLex (exponent, (digits : ℤ))))
  | .infinity .positive => some (toLex (2, toLex (0, 0)))

/-- **Comparing floating-point numbers** compares their places. -/
theorem compare_eq (a b : UnpackedFloat) :
    a.compare b = (place? a).bind fun p => (place? b).map fun q => compare p q := by
  rcases a with (_ | _) | _ | (_ | _) | ⟨_ | _, m, e, hm⟩ <;>
    rcases b with (_ | _) | _ | (_ | _) | ⟨_ | _, n, f, hn⟩ <;>
    simp only [UnpackedFloat.compare, place?, compare_toLex, compare_neg_neg, compare_natCast,
      Ordering.swap_then, Option.bind_some, Option.bind_none, Option.map_some, Option.map_none] <;>
    rfl

end UnpackedFloat

/-! ## Floating-point numbers -/

/-- Where a floating-point number stands. -/
def floatPlace? (x : Float) : Option (ℤ ×ₗ ℤ ×ₗ ℤ) := UnpackedFloat.place? x.toModel.unpack

theorem float_le_iff (a b : Float) :
    a ≤ b ↔ ∃ p ∈ floatPlace? a, ∃ q ∈ floatPlace? b, p ≤ q := by
  have h : a ≤ b ↔ (a.toModel.unpack.compare b.toModel.unpack).any (·.isLE) = true := by
    show decide ((a.toModel.unpack.compare b.toModel.unpack).any (·.isLE) = true) = true ↔ _
    rw [decide_eq_true_iff]
  rw [h, UnpackedFloat.compare_eq, floatPlace?, floatPlace?]
  cases UnpackedFloat.place? a.toModel.unpack <;> cases UnpackedFloat.place? b.toModel.unpack <;>
    simp [← Ordering.ne_gt_iff_isLE, compare_le_iff_le]

theorem float_lt_iff (a b : Float) :
    a < b ↔ ∃ p ∈ floatPlace? a, ∃ q ∈ floatPlace? b, p < q := by
  have h : a < b ↔ a.toModel.unpack.compare b.toModel.unpack = some .lt := by
    show decide ((a.toModel.unpack.compare b.toModel.unpack == some .lt) = true) = true ↔ _
    rw [decide_eq_true_iff, beq_iff_eq]
  rw [h, UnpackedFloat.compare_eq, floatPlace?, floatPlace?]
  cases UnpackedFloat.place? a.toModel.unpack <;> cases UnpackedFloat.place? b.toModel.unpack <;>
    simp [compare_lt_iff_lt]

instance : ComparableScalar Float where
  number_of_le a b h := by
    obtain ⟨p, hp, q, hq, -⟩ := (float_le_iff a b).1 h
    exact ⟨(float_le_iff a a).2 ⟨p, hp, p, hp, le_refl p⟩,
      (float_le_iff b b).2 ⟨q, hq, q, hq, le_refl q⟩⟩
  le_trans a b c hab hbc := by
    obtain ⟨p, hp, q, hq, hpq⟩ := (float_le_iff a b).1 hab
    obtain ⟨q', hq', r, hr, hqr⟩ := (float_le_iff b c).1 hbc
    obtain rfl : q = q' := Option.mem_unique hq hq'
    exact (float_le_iff a c).2 ⟨p, hp, r, hr, hpq.trans hqr⟩
  le_total a b ha hb := by
    obtain ⟨p, hp, -⟩ := (float_le_iff a a).1 ha
    obtain ⟨q, hq, -⟩ := (float_le_iff b b).1 hb
    refine (le_total p q).imp (fun h => ?_) fun h => ?_
    · exact (float_le_iff a b).2 ⟨p, hp, q, hq, h⟩
    · exact (float_le_iff b a).2 ⟨q, hq, p, hp, h⟩
  lt_iff a b := by
    refine (float_lt_iff a b).trans ⟨?_, ?_⟩
    · rintro ⟨p, hp, q, hq, hpq⟩
      refine ⟨(float_le_iff a b).2 ⟨p, hp, q, hq, hpq.le⟩, fun h => ?_⟩
      obtain ⟨q', hq', p', hp', hqp⟩ := (float_le_iff b a).1 h
      obtain rfl : p = p' := Option.mem_unique hp hp'
      obtain rfl : q = q' := Option.mem_unique hq hq'
      exact hpq.not_ge hqp
    · rintro ⟨hab, hba⟩
      obtain ⟨p, hp, q, hq, hpq⟩ := (float_le_iff a b).1 hab
      refine ⟨p, hp, q, hq, hpq.lt_of_not_ge fun h => hba ?_⟩
      exact (float_le_iff b a).2 ⟨q, hq, p, hp, h⟩

/-! ## Finite values -/

/-- A type of comparable scalars whose finite values are numbers, among them a zero and a greater
one. -/
class FiniteScalar (K : Type) [Scalar K] : Prop extends ComparableScalar K where
  number_of_isFinite (x : K) : Scalar.isFinite x = true → x ≤ x
  isFinite_one : Scalar.isFinite (1.0 : K) = true
  zero_lt_one : (0.0 : K) < 1.0

instance {K : Type} [ExactScalar K] : FiniteScalar K where
  number_of_isFinite x _ := le_refl x
  isFinite_one := Scalar.isFinite_eq _
  zero_lt_one := by
    rw [Scalar.literal_zero, Scalar.literal_one]
    exact zero_lt_one

/-- The difference of the value that is no number from itself is no number. -/
theorem floatPlace?_sub_self_eq_none {x : Float} (h : floatPlace? x = none) :
    floatPlace? (x - x) = none := by
  have hunpack : x.toModel.unpack = .notANumber := by
    unfold floatPlace? at h
    generalize x.toModel.unpack = value at h
    rcases value with (_ | _) | _ | _ | ⟨_ | _, _, _, _⟩ <;> first | rfl | cases h
  have hsub : x - x = ⟨.pack .notANumber⟩ := by
    show (⟨.pack (.sub .binary64 x.toModel.unpack x.toModel.unpack)⟩ : Float) = _
    rw [hunpack]
    rfl
  rw [hsub]
  decide

instance : FiniteScalar Float where
  number_of_isFinite x h := by
    have hdifference : x - x ≤ x - x := of_decide_eq_true h
    obtain ⟨p, hp, -⟩ := (float_le_iff _ _).1 hdifference
    cases hplace : floatPlace? x with
    | none =>
      rw [floatPlace?_sub_self_eq_none hplace] at hp
      cases hp
    | some q => exact (float_le_iff x x).2 ⟨q, hplace, q, hplace, le_refl q⟩
  isFinite_one := by decide
  zero_lt_one := by decide

end Affinity
