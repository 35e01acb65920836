import Mathlib
import Affinity.Comparison.Factors
import Affinity.Proofs.Order.Lawful
import Affinity.Proofs.Scalar.Exact

/-!
# The overlap of languages over exact scalars

The intersection and the union of two repositories are sums over the languages of either side. If
every language has a positive importance, the union is positive as soon as one side has a share of
some language, and the overlap is the quotient of the two.

* `union_pos` — when there is something to divide by.
* `factor_eq` — the overlap as a quotient between one tenth and one.
* `factor_mem_Icc` — the overlap is at least one tenth, even where there is nothing to divide by.
* `factor_self` — a repository overlaps with itself completely.
* `Apart`, `factor_of_apart` — two repositories without a common language overlap by one tenth only.
-/

namespace Affinity

open Scalar

variable {K : Type} [ExactScalar K]

/-! ## Shares -/

theorem Profile.get?_isSome_of_share_pos {p : Profile K} {l : Language} (h : 0 < p.share l) :
    (p.languages.get? l).isSome = true := by
  unfold Profile.share at h
  split at h
  · next s hs => rw [hs]; rfl
  · norm_num [literal_eq] at h

/-- A repository with a share of some language is not empty. -/
theorem Profile.isEmpty_eq_false_of_share_pos {p : Profile K} {l : Language} (h : 0 < p.share l) :
    p.isEmpty = false := by
  have hsome := Profile.get?_isSome_of_share_pos h
  unfold Profile.isEmpty Table.isEmpty
  cases hentries : p.languages.entries with
  | nil =>
    rw [Table.get?, hentries] at hsome
    cases hsome
  | cons entry rest => rfl

/-- A repository in which nothing was analyzed has no share of any language. -/
theorem Profile.share_of_isEmpty {p : Profile K} (h : p.isEmpty = true) (l : Language) :
    p.share l = 0 := by
  have hentries : p.languages.entries = [] := List.isEmpty_iff.1 h
  unfold Profile.share Table.get?
  rw [hentries]
  norm_num [Table.findEntry?, literal_eq]

namespace LanguageOverlap

variable (importance : Language → K) (reference candidate : Profile K)

/-! ## Intersection and union -/

omit [ExactScalar K] in
theorem mem_languagesOf {l : Language} :
    l ∈ languagesOf reference candidate ↔
      (reference.languages.get? l).isSome = true ∨ (candidate.languages.get? l).isSome = true := by
  unfold languagesOf
  rw [List.mem_filter, Bool.or_eq_true]
  exact and_iff_right (Language.mem_all l)

variable {reference candidate} in
theorem mem_languagesOf_of_share_pos {l : Language}
    (h : 0 < reference.share l ∨ 0 < candidate.share l) : l ∈ languagesOf reference candidate :=
  (mem_languagesOf _ _).2
    (h.imp Profile.get?_isSome_of_share_pos Profile.get?_isSome_of_share_pos)

theorem intersection_eq :
    intersection importance reference candidate =
      ((languagesOf reference candidate).map fun l =>
        importance l * min (reference.share l) (candidate.share l)).sum := by
  unfold intersection
  rw [foldl_add_eq fun l => importance l * least (reference.share l) (candidate.share l)]
  simp [least_eq_min, literal_eq]

theorem union_eq :
    union importance reference candidate =
      ((languagesOf reference candidate).map fun l =>
        importance l * max (reference.share l) (candidate.share l)).sum := by
  unfold union
  rw [foldl_add_eq fun l => importance l * greatest (reference.share l) (candidate.share l)]
  simp [greatest_eq_max, literal_eq]

variable {importance reference candidate}

/-- **There is something to divide by** if one side has a share of some language. -/
theorem union_pos (himportance : ∀ l, 0 < importance l) (hreference : ∀ l, 0 ≤ reference.share l)
    {l : Language} (hl : 0 < reference.share l ∨ 0 < candidate.share l) :
    0 < union importance reference candidate := by
  have hmem : l ∈ languagesOf reference candidate := mem_languagesOf_of_share_pos hl
  have hterm : 0 < importance l * max (reference.share l) (candidate.share l) :=
    mul_pos (himportance l) (lt_max_iff.2 hl)
  rw [union_eq]
  refine lt_of_lt_of_le hterm (List.single_le_sum ?_ _ (List.mem_map_of_mem hmem))
  intro x hx
  obtain ⟨m, -, rfl⟩ := List.mem_map.1 hx
  exact mul_nonneg (himportance m).le (le_max_of_le_left (hreference m))

/-- The overlap, where there is something to divide by. -/
theorem factor_eq (h : 0 < union importance reference candidate) :
    (ofProfiles importance reference candidate).factor =
      max (1 / 10) (min 1
        (intersection importance reference candidate / union importance reference candidate)) := by
  have hone : (Scalar.toOfScientific.ofScientific 10 true 1 : K) = 1 := by norm_num [literal_eq]
  have hfloor : (floor : K) = 1 / 10 := by norm_num [floor, literal_eq]
  show (if _ < union importance reference candidate then _ else _) = _
  rw [literal_zero, hone, if_pos h, clamp_eq, hfloor]
  norm_num [hfloor]

/-- The overlap, where there is nothing to divide by. -/
theorem factor_of_union_nonpos (h : union importance reference candidate ≤ 0) :
    (ofProfiles importance reference candidate).factor = 1 / 10 := by
  show (if _ < union importance reference candidate then _ else _) = _
  rw [literal_zero, if_neg (not_lt.2 h)]
  norm_num [floor, literal_eq]

/-- **The overlap is at least one tenth and at most one.** -/
theorem factor_mem_Icc :
    (ofProfiles importance reference candidate).factor ∈ Set.Icc (1 / 10) 1 := by
  rcases lt_or_ge 0 (union importance reference candidate) with hpos | hnonpos
  · rw [factor_eq hpos]
    exact ⟨le_max_left _ _, max_le (by norm_num) (min_le_left _ _)⟩
  · rw [factor_of_union_nonpos hnonpos]
    constructor <;> norm_num

/-! ## The two extremes -/

theorem intersection_self (p : Profile K) : intersection importance p p = union importance p p := by
  simp only [intersection_eq, union_eq, min_self, max_self]

/-- **A repository overlaps with itself completely.** -/
theorem factor_self {p : Profile K} (himportance : ∀ l, 0 < importance l)
    (hnonneg : ∀ l, 0 ≤ p.share l) {l : Language} (hl : 0 < p.share l) :
    (ofProfiles importance p p).factor = 1 := by
  have hpos : 0 < union importance p p := union_pos himportance hnonneg (Or.inl hl)
  rw [factor_eq hpos, intersection_self, div_self hpos.ne']
  norm_num

theorem missing_self (p : Profile K) : (ofProfiles importance p p).missing = [] := by
  simp [ofProfiles]

theorem extra_self (p : Profile K) : (ofProfiles importance p p).extra = [] := by
  simp [ofProfiles]

/-- No language has a share on both sides. -/
def Apart (reference candidate : Profile K) : Prop :=
  ∀ l, ¬ (0 < reference.share l ∧ 0 < candidate.share l)

theorem apart_of_isEmpty (h : reference.isEmpty = true ∨ candidate.isEmpty = true) :
    Apart reference candidate := by
  rintro l ⟨hreference, hcandidate⟩
  rcases h with h | h
  · exact hreference.ne' (Profile.share_of_isEmpty h l)
  · exact hcandidate.ne' (Profile.share_of_isEmpty h l)

/-- Of two shares that are not both positive the lesser is zero. -/
theorem min_share_of_apart (hreference : ∀ l, 0 ≤ reference.share l)
    (hcandidate : ∀ l, 0 ≤ candidate.share l) (h : Apart reference candidate) (l : Language) :
    min (reference.share l) (candidate.share l) = 0 := by
  refine le_antisymm (not_lt.1 ?_) (le_min (hreference l) (hcandidate l))
  intro hpos
  exact h l (lt_min_iff.1 hpos)

theorem intersection_of_apart (hreference : ∀ l, 0 ≤ reference.share l)
    (hcandidate : ∀ l, 0 ≤ candidate.share l) (h : Apart reference candidate) :
    intersection importance reference candidate = 0 := by
  rw [intersection_eq]
  apply List.sum_eq_zero
  intro x hx
  obtain ⟨l, -, rfl⟩ := List.mem_map.1 hx
  rw [min_share_of_apart hreference hcandidate h, mul_zero]

/-- **Without a common language the overlap is the least possible.** -/
theorem factor_of_apart (hreference : ∀ l, 0 ≤ reference.share l)
    (hcandidate : ∀ l, 0 ≤ candidate.share l) (h : Apart reference candidate) :
    (ofProfiles importance reference candidate).factor = 1 / 10 := by
  rcases lt_or_ge 0 (union importance reference candidate) with hpos | hnonpos
  · rw [factor_eq hpos, intersection_of_apart hreference hcandidate h, zero_div]
    norm_num
  · exact factor_of_union_nonpos hnonpos

end LanguageOverlap

end Affinity
