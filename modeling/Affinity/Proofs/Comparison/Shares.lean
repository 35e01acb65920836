import Mathlib
import Affinity.Proofs.Comparison.Overlap
import Affinity.Proofs.Finding.Counting
import Affinity.Proofs.Settings.Valid

/-!
# What the overlap says of the shares

The lists of an overlap split up the languages in which one side or the other has a share. The
factor compares the shares: it is one only if they are the same in every language, and the least
possible if no language is shared. Of the importances of the languages only the proportions matter.

* `LanguageOverlap.Partitions`, `LanguageOverlap.ofProfiles_partitions` — the three lists.
* `LanguageOverlap.factor_scale` — importances that are all multiplied by one number.
* `LanguageOverlap.factor_eq_one_iff` — when two repositories overlap completely.
* `LanguageOverlap.ofProfiles_compares_shares` — all of this for settings with positive multipliers.
-/

namespace Affinity

open Scalar

variable {K : Type} [ExactScalar K]

/-- A language that is not in the table of a profile has no share. -/
theorem Profile.share_eq_zero_of_not_isSome {p : Profile K} {l : Language}
    (h : ¬ (p.languages.get? l).isSome = true) : p.share l = 0 := by
  unfold Profile.share
  rw [Option.not_isSome_iff_eq_none.1 h]
  norm_num [literal_eq]

namespace LanguageOverlap

variable {importance : Language → K} {reference candidate : Profile K}

/-! ## The three lists -/

theorem mem_shared_iff {l : Language} :
    l ∈ (ofProfiles importance reference candidate).shared ↔
      0 < reference.share l ∧ 0 < candidate.share l := by
  simp only [ofProfiles, List.mem_filter, literal_zero, Bool.and_eq_true, decide_eq_true_eq,
    and_iff_right_iff_imp]
  exact fun h => mem_languagesOf_of_share_pos (.inl h.1)

theorem mem_missing_iff (hcandidate : ∀ l, 0 ≤ candidate.share l) {l : Language} :
    l ∈ (ofProfiles importance reference candidate).missing ↔
      0 < reference.share l ∧ candidate.share l = 0 := by
  simp only [ofProfiles, List.mem_filter, literal_zero, Bool.and_eq_true, Bool.not_eq_true',
    decide_eq_true_eq, decide_eq_false_iff_not, not_lt, (hcandidate l).ge_iff_eq',
    and_iff_right_iff_imp]
  exact fun h => mem_languagesOf_of_share_pos (.inl h.1)

theorem mem_extra_iff (hreference : ∀ l, 0 ≤ reference.share l) {l : Language} :
    l ∈ (ofProfiles importance reference candidate).extra ↔
      reference.share l = 0 ∧ 0 < candidate.share l := by
  simp only [ofProfiles, List.mem_filter, literal_zero, Bool.and_eq_true, Bool.not_eq_true',
    decide_eq_true_eq, decide_eq_false_iff_not, not_lt, (hreference l).ge_iff_eq',
    and_iff_right_iff_imp]
  exact fun h => mem_languagesOf_of_share_pos (.inr h.2)

/-- The lists of an overlap split up the languages in which one side or the other has a share. -/
structure Partitions (overlap : LanguageOverlap K) (reference candidate : Profile K) : Prop where
  shared : ∀ l, l ∈ overlap.shared ↔ 0 < reference.share l ∧ 0 < candidate.share l
  missing : ∀ l, l ∈ overlap.missing ↔ 0 < reference.share l ∧ candidate.share l = 0
  extra : ∀ l, l ∈ overlap.extra ↔ reference.share l = 0 ∧ 0 < candidate.share l
  /-- Together they hold every language with a share on one side or the other, … -/
  whole : ∀ l, l ∈ overlap.shared ++ overlap.missing ++ overlap.extra ↔
    0 < reference.share l ∨ 0 < candidate.share l
  /-- … each of them once. -/
  nodup : (overlap.shared ++ overlap.missing ++ overlap.extra).Nodup
  /-- Each list is in the order of the languages. -/
  ascending : ∀ list ∈ [overlap.shared, overlap.missing, overlap.extra],
    list.Pairwise fun a b => compare a b = .lt

omit [ExactScalar K] in
/-- The languages of two profiles are in order, and so is any choice of them. -/
theorem pairwise_filter_languagesOf [Scalar K] (reference candidate : Profile K)
    (keep : Language → Bool) :
    ((languagesOf reference candidate).filter keep).Pairwise fun a b => compare a b = .lt :=
  (Language.pairwise_all.filter _).filter keep

theorem ofProfiles_partitions (hreference : ∀ l, 0 ≤ reference.share l)
    (hcandidate : ∀ l, 0 ≤ candidate.share l) :
    (ofProfiles importance reference candidate).Partitions reference candidate := by
  have hascending : ∀ list ∈ [(ofProfiles importance reference candidate).shared,
      (ofProfiles importance reference candidate).missing,
      (ofProfiles importance reference candidate).extra],
      list.Pairwise fun a b => compare a b = .lt := by
    simp only [List.mem_cons, List.not_mem_nil, or_false]
    rintro list (rfl | rfl | rfl) <;> exact pairwise_filter_languagesOf ..
  refine { shared := fun l => mem_shared_iff, missing := fun l => mem_missing_iff hcandidate,
           extra := fun l => mem_extra_iff hreference, whole := fun l => ?_, nodup := ?_,
           ascending := hascending }
  · -- a share that is not positive is zero
    have hr : reference.share l = 0 ∨ 0 < reference.share l := (hreference l).eq_or_lt'
    have hc : candidate.share l = 0 ∨ 0 < candidate.share l := (hcandidate l).eq_or_lt'
    simp only [List.mem_append, mem_shared_iff, mem_missing_iff hcandidate,
      mem_extra_iff hreference]
    tauto
  · simp only [List.forall_mem_cons] at hascending
    obtain ⟨hshared, hmissing, hextra, -⟩ := hascending
    refine List.nodup_append.2 ⟨List.nodup_append.2 ⟨Language.nodup_of_ascending hshared,
      Language.nodup_of_ascending hmissing, ?_⟩, Language.nodup_of_ascending hextra, ?_⟩
    · rintro l hs m hm rfl
      exact (mem_shared_iff.1 hs).2.ne' ((mem_missing_iff hcandidate).1 hm).2
    · rintro l hl m he rfl
      have hzero := ((mem_extra_iff hreference).1 he).1
      rcases List.mem_append.1 hl with hs | hm
      · exact (mem_shared_iff.1 hs).1.ne' hzero
      · exact ((mem_missing_iff hcandidate).1 hm).1.ne' hzero

/-! ## The factor -/

/-- **Only the proportions of the importances matter.** -/
theorem factor_scale {k : K} (hk : 0 < k) :
    (ofProfiles (fun l => k * importance l) reference candidate).factor =
      (ofProfiles importance reference candidate).factor := by
  have hintersection : intersection (fun l => k * importance l) reference candidate =
      k * intersection importance reference candidate := by
    simp only [intersection_eq, mul_assoc, List.sum_map_mul_left]
  have hunion : union (fun l => k * importance l) reference candidate =
      k * union importance reference candidate := by
    simp only [union_eq, mul_assoc, List.sum_map_mul_left]
  rcases lt_or_ge 0 (union importance reference candidate) with hpos | hnonpos
  · rw [factor_eq hpos, factor_eq (hunion ▸ mul_pos hk hpos), hintersection, hunion,
      mul_div_mul_left _ _ hk.ne']
  · rw [factor_of_union_nonpos hnonpos,
      factor_of_union_nonpos (hunion ▸ mul_nonpos_of_nonneg_of_nonpos hk.le hnonpos)]

/-- The intersection is the union if and only if the shares are the same in every language. -/
theorem intersection_eq_union_iff (himportance : ∀ l, 0 < importance l) :
    intersection importance reference candidate = union importance reference candidate ↔
      ∀ l, reference.share l = candidate.share l := by
  have hle : ∀ l, importance l * min (reference.share l) (candidate.share l) ≤
      importance l * max (reference.share l) (candidate.share l) := fun l =>
    mul_le_mul_of_nonneg_left min_le_max (himportance l).le
  rw [intersection_eq, union_eq]
  constructor
  · intro hsums l
    by_contra hne
    have hmem : l ∈ languagesOf reference candidate := by
      by_contra hout
      rw [mem_languagesOf, not_or] at hout
      exact hne ((Profile.share_eq_zero_of_not_isSome hout.1).trans
        (Profile.share_eq_zero_of_not_isSome hout.2).symm)
    have hlt : importance l * min (reference.share l) (candidate.share l) <
        importance l * max (reference.share l) (candidate.share l) :=
      mul_lt_mul_of_pos_left (min_lt_max.2 hne) (himportance l)
    exact hsums.not_lt (List.sum_lt_sum _ _ (fun m _ => hle m) ⟨l, hmem, hlt⟩)
  · intro hshares
    simp only [hshares, min_self, max_self]

theorem intersection_le_union (himportance : ∀ l, 0 < importance l) :
    intersection importance reference candidate ≤ union importance reference candidate := by
  rw [intersection_eq, union_eq]
  exact List.sum_le_sum fun l _ => mul_le_mul_of_nonneg_left min_le_max (himportance l).le

/-- **Two repositories overlap completely** if and only if they have the same share of every
language, as long as there is something to divide by. -/
theorem factor_eq_one_iff (himportance : ∀ l, 0 < importance l)
    (hpos : 0 < union importance reference candidate) :
    (ofProfiles importance reference candidate).factor = 1 ↔
      ∀ l, reference.share l = candidate.share l := by
  rw [factor_eq hpos, ← intersection_eq_union_iff himportance]
  constructor
  · intro hfactor
    refine (intersection_le_union himportance).antisymm (le_of_not_gt fun hlt => ?_)
    have hquotient : intersection importance reference candidate /
        union importance reference candidate < 1 := (div_lt_one hpos).2 hlt
    exact hfactor.not_lt (max_lt (by norm_num) (min_lt_of_right_lt hquotient))
  · intro hsame
    rw [hsame, div_self hpos.ne']
    norm_num

/-- **What the overlap says of the shares**, for settings with positive multipliers and shares that
are not negative. The lists split up the languages of the two sides; multiplying all importances by
one number changes nothing; the factor is one exactly if all shares are the same, and one tenth if
no language is shared. -/
theorem ofProfiles_compares_shares {settings : Settings K}
    (hpositive : ∀ entry ∈ settings.importance.entries, 0 < entry.2)
    (hreference : ∀ l, 0 ≤ reference.share l) (hcandidate : ∀ l, 0 ≤ candidate.share l) :
    let overlap := ofProfiles settings.importanceOf reference candidate
    overlap.Partitions reference candidate ∧
      (∀ (k : K) (scaled : Settings K), 0 < k →
        (∀ l, scaled.importanceOf l = k * settings.importanceOf l) →
        (ofProfiles scaled.importanceOf reference candidate).factor = overlap.factor) ∧
      ((∃ l, 0 < reference.share l ∨ 0 < candidate.share l) →
        (overlap.factor = 1 ↔ ∀ l, reference.share l = candidate.share l)) ∧
      (overlap.shared = [] → overlap.factor = 1 / 10) := by
  intro overlap
  have himportance : ∀ l, 0 < settings.importanceOf l :=
    Settings.importanceOf_pos_of_forall hpositive
  refine ⟨ofProfiles_partitions hreference hcandidate, ?_, ?_, ?_⟩
  · intro k scaled hk hscaled
    rw [funext hscaled]
    exact factor_scale hk
  · rintro ⟨l, hl⟩
    exact factor_eq_one_iff himportance (union_pos himportance hreference hl)
  · intro hnone
    refine factor_of_apart hreference hcandidate fun l hboth => ?_
    have hshared : l ∈ overlap.shared := mem_shared_iff.2 hboth
    rw [hnone] at hshared
    cases hshared

/-- A repository in two languages, of which one counts twice, with two others: one in the same
languages and one in a third. -/
theorem ofProfiles_compares_shares_two_candidates :
    let settings : Settings ℚ := { Settings.standard with importance := ⟨[("python", 2)]⟩ }
    let scaled : Settings ℚ :=
      { Settings.standard with
        importance := .ofList (Language.all.map fun l => (l.key, 3 * settings.importanceOf l)) }
    let profile (shares : List (Language × ℚ)) : Profile ℚ :=
      { Profile.empty "acme/api" .standard {} with
        languages := ⟨shares.map fun (l, share) => (l, { files := 1, lines := 10, share })⟩ }
    let reference := profile [(.python, 1 / 4), (.go, 3 / 4)]
    let near := profile [(.python, 1 / 2), (.go, 1 / 2)]
    let far := profile [(.css, 1)]
    (∀ entry ∈ settings.importance.entries, 0 < entry.2) ∧
      (∀ l, 0 ≤ reference.share l) ∧ (∀ l, 0 ≤ near.share l) ∧ (∀ l, 0 ≤ far.share l) ∧
      (ofProfiles settings.importanceOf reference near).Partitions reference near ∧
      (∀ l, scaled.importanceOf l = 3 * settings.importanceOf l) ∧
      (ofProfiles scaled.importanceOf reference near).factor =
        (ofProfiles settings.importanceOf reference near).factor ∧
      (ofProfiles settings.importanceOf reference near).factor ≠ 1 ∧
      (ofProfiles settings.importanceOf reference far).shared = [] ∧
      (ofProfiles settings.importanceOf reference far).factor = 1 / 10 := by
  intro settings scaled profile reference near far
  have hpositive : ∀ entry ∈ settings.importance.entries, 0 < entry.2 := by decide +kernel
  have hreference : ∀ l, 0 ≤ reference.share l := by
    intro l
    cases l <;> decide +kernel
  have hnear : ∀ l, 0 ≤ near.share l := by
    intro l
    cases l <;> decide +kernel
  have hfar : ∀ l, 0 ≤ far.share l := by
    intro l
    cases l <;> decide +kernel
  have hscaled : ∀ l, scaled.importanceOf l = 3 * settings.importanceOf l := by
    intro l
    cases l <;> decide +kernel
  have hapart : (ofProfiles settings.importanceOf reference far).shared = [] := by decide +kernel
  obtain ⟨hpartitions, hscale, hone, -⟩ :=
    ofProfiles_compares_shares hpositive hreference hnear
  have hleast := (ofProfiles_compares_shares hpositive hreference hfar).2.2.2
  refine ⟨hpositive, hreference, hnear, hfar, hpartitions, hscaled,
    hscale 3 scaled (by norm_num) hscaled, ?_, hapart, hleast hapart⟩
  intro hsame
  have hpython := (hone ⟨.python, by decide +kernel⟩).1 hsame .python
  revert hpython
  decide +kernel

end LanguageOverlap

end Affinity
