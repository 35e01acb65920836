import Mathlib
import Affinity.Comparison.Recommendation
import Affinity.Proofs.Order.Lawful
import Affinity.Proofs.Order.Sorting
import Affinity.Proofs.Scalar.Comparable

/-!
# The greatest gaps

Advice is given for the greatest gaps of at least five points. A value that is no number is at least
no number, so what is sorted are numbers, and the order of gaps is total on those. As no category
occurs twice, any two gaps are told apart by size or by category, and the result does not depend on
how the gaps come in.

* `Recommendation.before_iff` — the order of gaps, among numbers.
* `Recommendation.pairwise_rankedGaps` — the gaps are ranked strictly.
* `Recommendation.ListsGreatest` — what a list of advice has to be.
* `Recommendation.ofGaps_listsGreatest` — the advice for some gaps is such a list; it does not
  depend on their order, and a greater limit only makes it longer.
-/

namespace Affinity

namespace Recommendation

/-- A gap ranks before another one: it is greater, or the same and of an earlier category. -/
def RanksBefore {K : Type} [Scalar K] (a b : Category × K) : Prop :=
  b.2 < a.2 ∨ a.2 ≤ b.2 ∧ b.2 ≤ a.2 ∧ compare a.1 b.1 = .lt

/-- What a list of advice for some gaps has to be. -/
structure ListsGreatest {K : Type} [Scalar K] (gaps : List (Category × K)) (limit : Nat)
    (advised : List (Recommendation K)) : Prop where
  /-- As many as allowed of the gaps that are great enough. -/
  length_eq : advised.length = min limit (gaps.countP fun g => minGap ≤ g.2)
  /-- Greater gaps come first, those of one size by category. -/
  ordered : advised.Pairwise fun r s => RanksBefore (r.category, r.gap) (s.category, s.gap)
  /-- Each piece of advice is for one of the gaps and carries it. -/
  own : ∀ r ∈ advised, (r.category, r.gap) ∈ gaps ∧ minGap ≤ r.gap
  /-- Its urgency is that of the gap, its text that for the category. -/
  described : ∀ r ∈ advised, r.priority = .ofGap r.gap ∧ r.advice = r.category.advice
  nodup : (advised.map (·.category)).Nodup
  /-- Every gap that is left out although it is great enough ranks behind. -/
  behind : ∀ g ∈ gaps, minGap ≤ g.2 → g.1 ∉ advised.map (·.category) →
    ∀ r ∈ advised, RanksBefore (r.category, r.gap) g

variable {K : Type} [Scalar K]

/-! ## The order of gaps -/

section

variable [ComparableScalar K] {a b c : Category × K}

open ComparableScalar

/-- Among numbers a gap comes before another one if it is no smaller, and of no later category if
they are the same. -/
theorem before_iff (ha : a.2 ≤ a.2) (hb : b.2 ≤ b.2) :
    before a b = true ↔ b.2 ≤ a.2 ∧ (a.2 ≤ b.2 → (compare a.1 b.1).isLE = true) := by
  have htotal := le_total a.2 b.2 ha hb
  simp only [before, Bool.or_eq_true, Bool.and_eq_true, Bool.not_eq_true', decide_eq_true_eq,
    decide_eq_false_iff_not, lt_iff]
  tauto

theorem before_trans (ha : a.2 ≤ a.2) (hb : b.2 ≤ b.2) (hc : c.2 ≤ c.2) (hab : before a b = true)
    (hbc : before b c = true) : before a c = true := by
  obtain ⟨hba, habcat⟩ := (before_iff ha hb).1 hab
  obtain ⟨hcb, hbccat⟩ := (before_iff hb hc).1 hbc
  refine (before_iff ha hc).2 ⟨le_trans _ _ _ hcb hba, fun hac => ?_⟩
  exact Std.TransCmp.isLE_trans (habcat (le_trans _ _ _ hac hcb)) (hbccat (le_trans _ _ _ hba hac))

theorem before_total (ha : a.2 ≤ a.2) (hb : b.2 ≤ b.2) : (before a b || before b a) = true := by
  have htotal := le_total a.2 b.2 ha hb
  have hcategories : ((compare a.1 b.1).isLE || (compare b.1 a.1).isLE) = true :=
    isLE_or_isLE a.1 b.1
  rw [Bool.or_eq_true] at hcategories ⊢
  rw [before_iff ha hb, before_iff hb ha]
  tauto

/-- Of two gaps in different categories the one that comes before ranks before. -/
theorem ranksBefore_of_before (ha : a.2 ≤ a.2) (hb : b.2 ≤ b.2) (hne : a.1 ≠ b.1)
    (h : before a b = true) : RanksBefore a b := by
  obtain ⟨hba, hcategories⟩ := (before_iff ha hb).1 h
  by_cases hab : a.2 ≤ b.2
  · have hlt := (Ordering.isLE_iff_eq_lt_or_eq_eq.1 (hcategories hab)).resolve_right fun heq =>
      hne (Std.LawfulEqOrd.eq_of_compare heq)
    exact .inr ⟨hab, hba, hlt⟩
  · exact .inl ((lt_iff _ _).2 ⟨hba, hab⟩)

end

/-! ## The ranked gaps -/

theorem rankedGaps_perm (gaps : List (Category × K)) :
    (rankedGaps gaps).Perm (gaps.filter fun g => minGap ≤ g.2) :=
  List.mergeSort_perm _ _

theorem mem_rankedGaps_iff {gaps : List (Category × K)} {g : Category × K} :
    g ∈ rankedGaps gaps ↔ g ∈ gaps ∧ minGap ≤ g.2 := by
  rw [(rankedGaps_perm gaps).mem_iff, List.mem_filter, decide_eq_true_iff]

theorem length_rankedGaps (gaps : List (Category × K)) :
    (rankedGaps gaps).length = gaps.countP fun g => minGap ≤ g.2 := by
  rw [(rankedGaps_perm gaps).length_eq, List.countP_eq_length_filter]

theorem nodup_rankedGaps {gaps : List (Category × K)} (h : (gaps.map (·.1)).Nodup) :
    ((rankedGaps gaps).map (·.1)).Nodup :=
  ((rankedGaps_perm gaps).map _).nodup_iff.2 (h.sublist (List.filter_sublist.map _))

/-- The advice is for the first of the ranked gaps. -/
theorem map_gap_ofGaps (gaps : List (Category × K)) (limit : Nat) :
    (ofGaps gaps limit).map (fun r => (r.category, r.gap)) = (rankedGaps gaps).take limit := by
  rw [ofGaps, List.map_map]
  exact List.map_id _

theorem map_category_ofGaps (gaps : List (Category × K)) (limit : Nat) :
    (ofGaps gaps limit).map (·.category) = ((rankedGaps gaps).take limit).map (·.1) := by
  rw [← map_gap_ofGaps, List.map_map]
  rfl

variable [ComparableScalar K]

/-- What is great enough for advice is a number. -/
theorem number_of_mem_rankedGaps {gaps : List (Category × K)} {g : Category × K}
    (h : g ∈ rankedGaps gaps) : g.2 ≤ g.2 :=
  (ComparableScalar.number_of_le _ _ (mem_rankedGaps_iff.1 h).2).2

theorem pairwise_before_rankedGaps (gaps : List (Category × K)) :
    (rankedGaps gaps).Pairwise fun a b => before a b = true := by
  refine pairwise_mergeSort_of_forall (p := fun g => g.2 ≤ g.2) (fun _ _ _ => before_trans)
    (fun _ _ => before_total) fun g hg => ?_
  exact (ComparableScalar.number_of_le _ _ (of_decide_eq_true (List.mem_filter.1 hg).2)).2

/-- **The gaps are ranked strictly.** -/
theorem pairwise_rankedGaps {gaps : List (Category × K)} (h : (gaps.map (·.1)).Nodup) :
    (rankedGaps gaps).Pairwise RanksBefore := by
  have hne := List.pairwise_map.1 (nodup_rankedGaps h)
  refine (hne.and (pairwise_before_rankedGaps gaps)).imp_of_mem fun {a b} ha hb hab => ?_
  obtain ⟨hcategories, hbefore⟩ := hab
  exact ranksBefore_of_before (number_of_mem_rankedGaps ha) (number_of_mem_rankedGaps hb)
    hcategories hbefore

/-- Ranking forgets the order in which the gaps come. -/
theorem rankedGaps_eq_of_perm {gaps others : List (Category × K)} (h : (gaps.map (·.1)).Nodup)
    (hperm : others.Perm gaps) : rankedGaps others = rankedGaps gaps := by
  have hranked : (rankedGaps others).Perm (rankedGaps gaps) :=
    (rankedGaps_perm others).trans ((hperm.filter _).trans (rankedGaps_perm gaps).symm)
  refine List.Perm.eq_of_pairwise ?_ (pairwise_before_rankedGaps others)
    (pairwise_before_rankedGaps gaps) hranked
  intro a b ha hb hab hba
  have ha' : a ∈ rankedGaps gaps := hranked.mem_iff.1 ha
  have hanumber := number_of_mem_rankedGaps ha'
  have hbnumber := number_of_mem_rankedGaps hb
  obtain ⟨hle, hcategories⟩ := (before_iff hanumber hbnumber).1 hab
  obtain ⟨hge, hcategories'⟩ := (before_iff hbnumber hanumber).1 hba
  have heq : a.1 = b.1 := Std.LawfulEqOrd.eq_of_compare
    (Std.OrientedCmp.isLE_antisymm (hcategories hge) (hcategories' hle))
  exact List.inj_on_of_nodup_map (nodup_rankedGaps h) ha' hb heq

/-! ## The advice -/

/-- **The advice for some gaps** is for the greatest of those that are at least five points, in
order. It does not depend on how the gaps come in, and a greater limit only makes it longer. -/
theorem ofGaps_listsGreatest {gaps : List (Category × K)} (hdistinct : (gaps.map (·.1)).Nodup)
    (limit : Nat) :
    ListsGreatest gaps limit (ofGaps gaps limit) ∧
      (∀ others, others.Perm gaps → ofGaps others limit = ofGaps gaps limit) ∧
      ∀ larger, limit ≤ larger → ofGaps gaps limit <+: ofGaps gaps larger := by
  have hranked := pairwise_rankedGaps hdistinct
  have hmem : ∀ r ∈ ofGaps gaps limit, (r.category, r.gap) ∈ (rankedGaps gaps).take limit :=
    fun r hr => map_gap_ofGaps gaps limit ▸ List.mem_map_of_mem hr
  refine ⟨?_, ?_, ?_⟩
  · constructor
    case length_eq => rw [ofGaps, List.length_map, List.length_take, length_rankedGaps]
    case ordered =>
      have htop : ((rankedGaps gaps).take limit).Pairwise RanksBefore :=
        hranked.sublist (List.take_sublist limit _)
      rw [← map_gap_ofGaps] at htop
      exact List.pairwise_map.1 htop
    case own => exact fun r hr => mem_rankedGaps_iff.1 (List.mem_of_mem_take (hmem r hr))
    case described =>
      intro r hr
      obtain ⟨g, -, rfl⟩ := List.mem_map.1 hr
      exact ⟨rfl, rfl⟩
    case nodup =>
      rw [map_category_ofGaps]
      exact (nodup_rankedGaps hdistinct).sublist ((List.take_sublist limit _).map _)
    case behind =>
      intro g hg hgreat hout r hr
      -- what is ranked but not among the first comes after all of these
      rw [map_category_ofGaps] at hout
      rw [← List.take_append_drop limit (rankedGaps gaps)] at hranked
      have hsplit : g ∈ (rankedGaps gaps).take limit ++ (rankedGaps gaps).drop limit := by
        rw [List.take_append_drop]
        exact mem_rankedGaps_iff.2 ⟨hg, hgreat⟩
      have hrest := (List.mem_append.1 hsplit).resolve_left fun h =>
        hout (List.mem_map_of_mem (f := (·.1)) h)
      exact (List.pairwise_append.1 hranked).2.2 _ (hmem r hr) g hrest
  · intro others hperm
    rw [ofGaps, rankedGaps_eq_of_perm hdistinct hperm, ofGaps]
  · intro larger hle
    exact (List.take_prefix_take_left hle).map _

/-- Five gaps between floating-point numbers: one is infinite, two are the same, one is too small
and one is no number. -/
theorem ofGaps_listsGreatest_five_gaps :
    let gaps : List (Category × Float) :=
      [(.comments, 1.0 / 0.0), (.naming, 12.0), (.complexity, 12.0), (.security, 3.0),
        (.testing, 0.0 / 0.0)]
    (gaps.map (·.1)).Nodup ∧ ListsGreatest gaps 2 (ofGaps gaps 2) ∧
      (ofGaps gaps.reverse 2).map (·.category) = [.comments, .naming] ∧
      ofGaps gaps 2 <+: ofGaps gaps 5 := by
  intro gaps
  have hdistinct : (gaps.map (·.1)).Nodup := by decide
  have hranked : rankedGaps gaps = gaps.filter fun g => minGap ≤ g.2 :=
    List.mergeSort_of_pairwise (by decide +kernel)
  obtain ⟨hgreatest, hforgets, hprefix⟩ := ofGaps_listsGreatest hdistinct 2
  refine ⟨hdistinct, hgreatest, ?_, hprefix 5 (by decide)⟩
  rw [hforgets gaps.reverse (List.reverse_perm gaps), map_category_ofGaps, hranked]
  decide +kernel

end Recommendation

end Affinity
