import Mathlib.Data.List.Sort

/-!
# Sorting by a comparison

Lists are sorted by whether one element compares as at most the other. If the comparison is total
and transitive, the sorted list depends only on which elements there are, up to elements that
compare as equal, and those keep the order they came in.

* `pairwise_mergeSort_lt` — elements that occur once are sorted strictly.
* `mergeSort_eq_of_perm` — sorting forgets the order if no two elements compare as equal.
* `map_mergeSort_eq_of_perm` — it always forgets the order of what is compared.
* `mergeSort_swap` — of two elements that compare as equal the first one comes first.
* `filter_mergeSort` — sorting keeps the order of the elements among any part of them.
* `pairwise_mergeSort_of_forall` — the comparison has to be total and transitive only on what is
  sorted.
-/

namespace Affinity

variable {α κ : Type} {cmp : α → α → Ordering} [Std.TransCmp cmp]

theorem isLE_or_isLE (a b : α) : ((cmp a b).isLE || (cmp b a).isLE) = true := by
  have hswap : cmp b a = (cmp a b).swap := Std.OrientedCmp.eq_swap
  rw [hswap]
  cases cmp a b <;> rfl

theorem pairwise_mergeSort_isLE (l : List α) :
    (l.mergeSort fun a b => (cmp a b).isLE).Pairwise fun a b => (cmp a b).isLE :=
  List.pairwise_mergeSort (fun _ _ _ => Std.TransCmp.isLE_trans) isLE_or_isLE l

/-- What occurs once in a list is sorted strictly if no two elements compare as equal. -/
theorem pairwise_mergeSort_lt [Std.LawfulEqCmp cmp] {l : List α} (h : l.Nodup) :
    (l.mergeSort fun a b => (cmp a b).isLE).Pairwise fun a b => cmp a b = .lt := by
  have hnodup : (l.mergeSort fun a b => (cmp a b).isLE).Nodup :=
    (List.mergeSort_perm l _).nodup_iff.2 h
  refine (List.Pairwise.and hnodup (pairwise_mergeSort_isLE l)).imp fun {a b} ⟨hne, hle⟩ => ?_
  refine (Ordering.isLE_iff_eq_lt_or_eq_eq.1 hle).resolve_right fun heq => ?_
  exact hne (Std.LawfulEqCmp.eq_of_compare heq)

/-- Sorting forgets the order of a list in which different elements do not compare as equal. -/
theorem mergeSort_eq_of_perm {l m : List α} (h : l.Perm m)
    (apart : ∀ a ∈ l, ∀ b ∈ l, cmp a b = .eq → a = b) :
    (l.mergeSort fun a b => (cmp a b).isLE) = m.mergeSort fun a b => (cmp a b).isLE := by
  refine List.Perm.eq_of_pairwise ?_ (pairwise_mergeSort_isLE l) (pairwise_mergeSort_isLE m) ?_
  · intro a b ha hb hab hba
    have hb' : b ∈ l := h.mem_iff.2 (List.mem_mergeSort.1 hb)
    exact apart a (List.mem_mergeSort.1 ha) b hb' (Std.OrientedCmp.isLE_antisymm hab hba)
  · exact (List.mergeSort_perm l _).trans (h.trans (List.mergeSort_perm m _).symm)

/-- Sorting one more element puts it between those below it and the others. -/
theorem mergeSort_cons_eq (a : α) (l : List α) :
    (l.mergeSort fun a b => (cmp a b).isLE) =
        (l.mergeSort fun a b => (cmp a b).isLE).filter (fun b => cmp b a == .lt) ++
          (l.mergeSort fun a b => (cmp a b).isLE).filter (fun b => !(cmp b a == .lt)) ∧
      ((a :: l).mergeSort fun a b => (cmp a b).isLE) =
        (l.mergeSort fun a b => (cmp a b).isLE).filter (fun b => cmp b a == .lt) ++
          a :: (l.mergeSort fun a b => (cmp a b).isLE).filter (fun b => !(cmp b a == .lt)) := by
  have trans : ∀ a b c : α, (cmp a b).isLE → (cmp b c).isLE → (cmp a c).isLE :=
    fun _ _ _ => Std.TransCmp.isLE_trans
  have total : ∀ a b : α, ((cmp a b).isLE || (cmp b a).isLE) = true := isLE_or_isLE
  obtain ⟨below, above, hcons, hrest, hbelow⟩ := List.mergeSort_cons trans total a l
  have hlt : ∀ b ∈ below, (cmp b a == .lt) = true := by
    intro b hb
    have hnot : ¬ (cmp a b).isLE := by simpa using hbelow b hb
    simpa using Std.OrientedCmp.lt_of_not_isLE hnot
  have hge : ∀ b ∈ above, (cmp b a == .lt) = false := by
    intro b hb
    have hsorted : (below ++ a :: above).Pairwise fun a b => (cmp a b).isLE :=
      hcons ▸ pairwise_mergeSort_isLE (a :: l)
    have hab : (cmp a b).isLE := (List.pairwise_cons.1 (List.pairwise_append.1 hsorted).2.1).1 b hb
    simpa using Std.OrientedCmp.not_lt_of_isLE hab
  have hfirst : (below ++ above).filter (fun b => cmp b a == .lt) = below := by
    rw [List.filter_append, List.filter_eq_self.2 hlt,
      List.filter_eq_nil_iff.2 fun b hb => by simp [hge b hb], List.append_nil]
  have hlast : (below ++ above).filter (fun b => !(cmp b a == .lt)) = above := by
    rw [List.filter_append, List.filter_eq_nil_iff.2 fun b hb => by simp [hlt b hb],
      List.filter_eq_self.2 fun b hb => by simp [hge b hb], List.nil_append]
  rw [hcons, hrest, hfirst, hlast]
  exact ⟨rfl, rfl⟩

/-- Two elements that compare as equal come in the order in which they are given. -/
theorem mergeSort_swap {a b : α} (hab : cmp a b = .eq) (l : List α) :
    ∃ below above, (∀ c ∈ below, cmp c b = .lt) ∧
      ((a :: b :: l).mergeSort fun a b => (cmp a b).isLE) = below ++ a :: b :: above ∧
      ((b :: a :: l).mergeSort fun a b => (cmp a b).isLE) = below ++ b :: a :: above := by
  have hsame : ∀ c, cmp c a = cmp c b := fun c => Std.TransCmp.congr_right hab
  have hself : cmp b b = .eq := Std.ReflCmp.compare_self
  refine ⟨(l.mergeSort fun a b => (cmp a b).isLE).filter fun c => cmp c b == .lt,
    (l.mergeSort fun a b => (cmp a b).isLE).filter fun c => !(cmp c b == .lt), ?_, ?_, ?_⟩
  · intro c hc
    simpa using (List.mem_filter.1 hc).2
  · rw [(mergeSort_cons_eq a _).2, (mergeSort_cons_eq b l).2]
    simp [hsame, hself, List.filter_filter]
  · rw [(mergeSort_cons_eq b _).2, (mergeSort_cons_eq a l).2]
    simp [hsame, hab, List.filter_filter]

/-- **Sorting and leaving out** commute: the elements that stay keep the order they came in. -/
theorem filter_mergeSort (p : α → Bool) (l : List α) :
    (l.mergeSort fun a b => (cmp a b).isLE).filter p =
      (l.filter p).mergeSort fun a b => (cmp a b).isLE := by
  induction l with
  | nil => simp
  | cons a l ih =>
    have hcomm : ∀ (q : α → Bool) (s : List α), (s.filter q).filter p = (s.filter p).filter q :=
      fun q s => by simp only [List.filter_filter, Bool.and_comm]
    obtain ⟨hsplit, hcons⟩ := @mergeSort_cons_eq _ cmp _ a (l.filter p)
    rw [(mergeSort_cons_eq a l).2, List.filter_append, List.filter_cons, hcomm, hcomm, ih]
    by_cases ha : p a = true
    · rw [if_pos ha, List.filter_cons_of_pos ha, hcons]
    · rw [if_neg ha, List.filter_cons_of_neg ha, ← hsplit]

omit [Std.TransCmp cmp] in
/-- Sorting by a key forgets the order of the keys. -/
theorem map_mergeSort_eq_of_perm {order : κ → κ → Ordering} [Std.TransCmp order]
    [Std.LawfulEqCmp order] (key : α → κ) (hcmp : ∀ a b, cmp a b = order (key a) (key b))
    {l m : List α} (h : l.Perm m) :
    (l.mergeSort fun a b => (cmp a b).isLE).map key =
      (m.mergeSort fun a b => (cmp a b).isLE).map key := by
  have hmap : ∀ l : List α, (l.mergeSort fun a b => (cmp a b).isLE).map key =
      (l.map key).mergeSort fun a b => (order a b).isLE := fun l =>
    List.map_mergeSort fun a _ b _ => by rw [hcmp]
  rw [hmap, hmap]
  exact mergeSort_eq_of_perm (h.map key) fun _ _ _ _ he => Std.LawfulEqCmp.eq_of_compare he

/-- A list is sorted if the comparison is total and transitive on its elements. -/
theorem pairwise_mergeSort_of_forall {le : α → α → Bool} {p : α → Prop}
    (trans : ∀ a b c, p a → p b → p c → le a b = true → le b c = true → le a c = true)
    (total : ∀ a b, p a → p b → (le a b || le b a) = true) {l : List α} (h : ∀ a ∈ l, p a) :
    (l.mergeSort le).Pairwise fun a b => le a b = true := by
  -- the elements are sorted together with what is known of them
  have hsorted : l.mergeSort le =
      ((l.attachWith p h).mergeSort fun a b => le a.1 b.1).map Subtype.val := by
    rw [List.map_mergeSort (s := le) fun _ _ _ _ => rfl, List.attachWith_map_subtype_val]
  rw [hsorted, List.pairwise_map]
  refine List.pairwise_mergeSort (fun a b c => ?_) (fun a b => ?_) _
  · exact trans a.1 b.1 c.1 a.2 b.2 c.2
  · exact total a.1 b.1 a.2 b.2

end Affinity
