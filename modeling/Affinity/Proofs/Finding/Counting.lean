import Mathlib
import Mathlib.Data.Set.Card
import Affinity.Proofs.Order.Lawful
import Affinity.Table

/-!
# Counting places

What a report counts is a number of places: of elements in a list, or of elements in the lists that
belong to the elements of a list. `Set.encard` counts them without reference to how a report does.

* `encard_indices` — the places of a list that hold an element with some property.
* `encard_pairs` — pairs, counted for each first component apart.
* `encard_elements` — the places of lists in a list that hold an element with some property.
* `encard_of_nodup` — the members of a list without repetitions.
* `pairwise_zipIdx` — the elements of a list stand at ascending places.
* `Language.sumOf_groups` — the sizes of the groups by language add up.
-/

namespace Affinity

/-- A set of numbers, with its least possible member and the others counted apart. -/
theorem encard_eq_add_succ (S : Set ℕ) :
    S.encard = (S ∩ {0}).encard + {n | n + 1 ∈ S}.encard := by
  have hsplit : S = (S ∩ {0}) ∪ Nat.succ '' {n | n + 1 ∈ S} := by
    ext n
    cases n <;> simp
  have hdisjoint : Disjoint (S ∩ {0}) (Nat.succ '' {n | n + 1 ∈ S}) := by
    rw [Set.disjoint_left]
    rintro n ⟨-, rfl⟩ ⟨m, -, hm⟩
    exact Nat.succ_ne_zero m hm
  conv_lhs => rw [hsplit]
  rw [Set.encard_union_eq hdisjoint, Nat.succ_injective.encard_image]

/-- A count is zero if there is nothing to count. -/
theorem eq_zero_iff_of_encard {α : Type} {P : α → Prop} {n : ℕ} (h : {a | P a}.encard = n) :
    n = 0 ↔ ∀ a, ¬ P a := by
  rw [← Nat.cast_eq_zero (R := ℕ∞), ← h, Set.encard_eq_zero, Set.eq_empty_iff_forall_notMem]
  rfl

/-- How many places of a list hold an element with some property. -/
theorem encard_indices {α : Type} (p : α → Bool) (l : List α) :
    {i : ℕ | ∃ a, l[i]? = some a ∧ p a = true}.encard = l.countP p := by
  induction l with
  | nil => simp
  | cons a l ih =>
    have hrest : {n | n + 1 ∈ {i : ℕ | ∃ b, (a :: l)[i]? = some b ∧ p b = true}} =
        {i : ℕ | ∃ b, l[i]? = some b ∧ p b = true} := by
      ext n
      simp
    rw [encard_eq_add_succ, hrest, ih, List.countP_cons, Nat.cast_add, add_comm]
    congr 1
    by_cases ha : p a = true
    · have hfirst : {i : ℕ | ∃ b, (a :: l)[i]? = some b ∧ p b = true} ∩ {0} = {0} := by
        ext n
        simp only [Set.mem_inter_iff, Set.mem_ofPred_eq, Set.mem_singleton_iff,
          and_iff_right_iff_imp]
        rintro rfl
        exact ⟨a, rfl, ha⟩
      rw [hfirst, Set.encard_singleton, if_pos ha, Nat.cast_one]
    · have hfirst : {i : ℕ | ∃ b, (a :: l)[i]? = some b ∧ p b = true} ∩ {0} = ∅ := by
        ext n
        simp only [Set.mem_inter_iff, Set.mem_ofPred_eq, Set.mem_singleton_iff,
          Set.mem_empty_iff_false, iff_false, not_and]
        rintro ⟨b, hb, hpb⟩ rfl
        exact ha (Option.some.inj hb ▸ hpb)
      rw [hfirst, Set.encard_empty, if_neg ha, Nat.cast_zero]

/-- Pairs are counted for each first component apart. -/
theorem encard_pairs (C : ℕ → Set ℕ) (sizes : List ℕ)
    (h : ∀ i, (C i).encard = (sizes[i]?.getD 0 : ℕ)) :
    {q : ℕ × ℕ | q.2 ∈ C q.1}.encard = sizes.sum := by
  induction sizes generalizing C with
  | nil =>
    have hempty : ∀ i, C i = ∅ := fun i => by simpa using h i
    simp [hempty]
  | cons n sizes ih =>
    have hsplit : {q : ℕ × ℕ | q.2 ∈ C q.1} =
        Prod.mk 0 '' C 0 ∪ Prod.map Nat.succ id '' {q : ℕ × ℕ | q.2 ∈ C (q.1 + 1)} := by
      ext ⟨i, p⟩
      cases i <;> simp
    have hdisjoint : Disjoint (Prod.mk 0 '' C 0)
        (Prod.map Nat.succ id '' {q : ℕ × ℕ | q.2 ∈ C (q.1 + 1)}) := by
      rw [Set.disjoint_left]
      rintro - ⟨p, -, rfl⟩ ⟨q, -, hq⟩
      exact Nat.succ_ne_zero _ (congrArg Prod.fst hq)
    have hfirst : (C 0).encard = (n : ℕ) := h 0
    rw [hsplit, Set.encard_union_eq hdisjoint, (Prod.mk_right_injective 0).encard_image,
      (Nat.succ_injective.prodMap Function.injective_id).encard_image, hfirst,
      ih (fun i => C (i + 1)) fun i => h (i + 1), List.sum_cons, Nat.cast_add]

/-- How many elements of the lists in a list have some property. -/
theorem encard_elements {α : Type} (p : α → Bool) (lists : List (List α)) :
    {q : ℕ × ℕ | ∃ l a, lists[q.1]? = some l ∧ l[q.2]? = some a ∧ p a = true}.encard =
      lists.flatten.countP p := by
  rw [List.countP_flatten]
  refine encard_pairs (fun i => {j | ∃ l a, lists[i]? = some l ∧ l[j]? = some a ∧ p a = true}) _ ?_
  intro i
  rw [List.getElem?_map]
  cases lists[i]? with
  | none => simp
  | some l =>
    rw [Option.map_some, Option.getD_some, ← encard_indices]
    simp only [Option.some.injEq, ↓existsAndEq, true_and]

/-- A list without repetitions is as long as it has members. -/
theorem encard_of_nodup {α : Type} {l : List α} (h : l.Nodup) : {a | a ∈ l}.encard = l.length := by
  classical
  have hset : {a | a ∈ l} = ↑l.toFinset := by
    ext a
    simp
  rw [hset, Set.encard_coe_eq_coe_finsetCard, List.toFinset_card_of_nodup h]

theorem pairwise_zipIdx {α : Type} (l : List α) : l.zipIdx.Pairwise fun a b => a.2 < b.2 := by
  rw [← List.pairwise_map, List.zipIdx_map_snd]
  exact List.pairwise_lt_range'

/-!
## Groups by language

Files are worked on language by language, and every file is in exactly one of the groups.
-/

theorem sumOf_eq_sum (counts : List Nat) : sumOf counts = counts.sum := rfl

theorem sumOf_map_add {α : Type} (f g : α → Nat) (l : List α) :
    sumOf (l.map fun a => f a + g a) = sumOf (l.map f) + sumOf (l.map g) :=
  List.sum_map_add

namespace Language

theorem pairwise_all : Language.all.Pairwise fun a b => compare a b = .lt := by
  decide

/-- Languages in ascending order occur once each. -/
theorem nodup_of_ascending {languages : List Language}
    (h : languages.Pairwise fun a b => compare a b = .lt) : languages.Nodup :=
  h.imp fun hab he => by simp [he] at hab

/-- One language is counted once among all of them. -/
theorem sumOf_single (language : Language) :
    sumOf (Language.all.map fun l => if language = l then 1 else 0) = 1 := by
  rw [sumOf_eq_sum, List.sum_map_eq_nsmul_single language _ fun l hl _ => if_neg hl.symm,
    List.count_eq_one_of_mem nodup_all (mem_all language), if_pos rfl, one_nsmul]

/-- **The sizes of the groups add up** to the number of all items. -/
theorem sumOf_groups {α : Type} (language : α → Language) (items : List α) :
    sumOf (Language.all.map fun l => (items.filter fun a => language a = l).length) =
      items.length := by
  induction items with
  | nil => rfl
  | cons item rest ih =>
    have hcons : ∀ l, ((item :: rest).filter fun a => language a = l).length =
        (if language item = l then 1 else 0) + (rest.filter fun a => language a = l).length := by
      intro l
      by_cases h : language item = l
      · simp [h, Nat.add_comm]
      · simp [h]
    simp only [hcons]
    rw [sumOf_map_add, sumOf_single, ih, List.length_cons, Nat.add_comm]

end Language

end Affinity
