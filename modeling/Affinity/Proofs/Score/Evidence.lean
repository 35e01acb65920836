import Mathlib
import Affinity.Proofs.Order.Lawful
import Affinity.Proofs.Scalar.Exact
import Affinity.Proofs.Table.Laws
import Affinity.Score.Formula

/-!
# Scores, their evidence and sets of them

A score is put together from a value and the evidence for it, and a set of scores from one score for
each of some categories. What was put in can be read off again: the value is within its bounds, the
evidence is the table of the entries, and each category has its own score.

* `CategoryScore.value_withEvidence`, `CategoryScore.evidence_withEvidence` — the parts of a score.
* `CategoryScores.get?_ofList_map` — the scores of a set, one for each category.
* `CategoryScores.WellFormed` — what holds of every set of scores.
* `LanguageMetrics.value_ofFacts` — the scores of the files of a language.
-/

namespace Affinity

open Scalar

/-! ## Scores -/

namespace CategoryScore

variable {K : Type} [Scalar K]

theorem addAllEvidence_eq (score : CategoryScore K) (entries : List (String × K)) :
    score.addAllEvidence entries =
      { score with
        evidence := entries.foldl
          (fun t e => t.insert e.1 (if isFinite e.2 then e.2 else 0.0)) score.evidence } := by
  unfold addAllEvidence
  induction entries generalizing score with
  | nil => rfl
  | cons entry rest ih => exact ih _

@[simp] theorem category_withEvidence (category : Category) (x : K)
    (entries : List (String × K)) : (withEvidence category x entries).category = category := by
  unfold withEvidence
  rw [addAllEvidence_eq]
  rfl

@[simp] theorem value_withEvidence (category : Category) (x : K) (entries : List (String × K)) :
    (withEvidence category x entries).value = clampScore x := by
  unfold withEvidence
  rw [addAllEvidence_eq]
  rfl

/-- Of several entries with one key the last counts. -/
theorem evidence_withEvidence {K : Type} [ExactScalar K] (category : Category) (x : K)
    (entries : List (String × K)) :
    (withEvidence category x entries).evidence = Table.ofList entries := by
  unfold withEvidence
  rw [addAllEvidence_eq]
  simp only [isFinite_eq, if_true]
  rfl

end CategoryScore

/-! ## Sets of scores -/

namespace CategoryScores

variable {K : Type}

theorem table_ofList (scores : List (CategoryScore K)) :
    (ofList scores).table = Table.ofList (scores.map fun s => (s.category, s)) := by
  unfold ofList Table.ofList
  rw [List.foldl_map]
  suffices hgen : ∀ before : CategoryScores K,
      (scores.foldl insert before).table =
        scores.foldl (fun t s => t.insert s.category s) before.table from hgen {}
  induction scores with
  | nil => intro before; rfl
  | cons score rest ih => intro before; exact ih _

variable {f : Category → CategoryScore K} (hf : ∀ c, (f c).category = c)
  {categories : List Category} (h : categories.Pairwise fun a b => compare a b = .lt)

include hf h

/-- The set of a score for each of some categories that are in order. -/
theorem entries_ofList_map :
    (ofList (categories.map f)).table.entries = categories.map fun c => (c, f c) := by
  have hpairs : (categories.map f).map (fun s => (s.category, s)) =
      categories.map fun c => (c, f c) := by
    rw [List.map_map]
    exact List.map_congr_left fun c _ => congrArg (fun d => (d, f c)) (hf c)
  rw [table_ofList, hpairs, Table.ofList_of_ascending (List.pairwise_map.2 h)]

/-- **Each category has its own score.** -/
theorem get?_ofList_map (category : Category) :
    (ofList (categories.map f)).get? category =
      if category ∈ categories then some (f category) else none := by
  have hentries := entries_ofList_map hf h
  have hascending : (ofList (categories.map f)).table.Ascending := by
    unfold Table.Ascending
    rw [hentries]
    exact List.pairwise_map.2 h
  unfold get?
  split
  · next hmem =>
    rw [Table.get?_eq_some_iff hascending, hentries]
    exact List.mem_map.2 ⟨category, hmem, rfl⟩
  · next hmem =>
    refine Option.eq_none_iff_forall_ne_some.2 fun score hscore => hmem ?_
    rw [Table.get?_eq_some_iff hascending, hentries] at hscore
    obtain ⟨c, hc, heq⟩ := List.mem_map.1 hscore
    exact (Prod.mk.inj heq).1 ▸ hc

theorem value_ofList_map [Scalar K] {category : Category} (hmem : category ∈ categories) :
    (ofList (categories.map f)).value category = (f category).value := by
  unfold value
  rw [get?_ofList_map hf h, if_pos hmem]

end CategoryScores

/-! ## What holds of all scores -/

section

variable {K : Type} [ExactScalar K]

/-- The value is on the scale, and the keys of the evidence ascend. -/
structure CategoryScore.WellFormed (score : CategoryScore K) : Prop where
  range : score.value ∈ Set.Icc 0 100
  evidence : score.evidence.Ascending

theorem CategoryScore.wellFormed_of (category : Category) (x : K) : (of category x).WellFormed :=
  ⟨clampScore_mem_Icc x, Table.ascending_empty⟩

theorem CategoryScore.wellFormed_withEvidence (category : Category) (x : K)
    (entries : List (String × K)) : (withEvidence category x entries).WellFormed where
  range := by
    rw [value_withEvidence]
    exact clampScore_mem_Icc x
  evidence := by
    rw [evidence_withEvidence]
    exact Table.ascending_ofList entries

/-- The scores are under their own categories and well-formed. -/
structure CategoryScores.WellFormed (scores : CategoryScores K) : Prop where
  category : ∀ c s, scores.get? c = some s → s.category = c
  score : ∀ c s, scores.get? c = some s → s.WellFormed

namespace CategoryScores

/-- A category without a score counts as zero, which is on the scale too. -/
theorem WellFormed.value_mem_Icc {scores : CategoryScores K} (h : scores.WellFormed)
    (category : Category) : scores.value category ∈ Set.Icc 0 100 := by
  unfold value
  split
  · next s hs => exact (h.score category s hs).range
  · norm_num [literal_eq]

theorem wellFormed_ofList_map {f : Category → CategoryScore K} (hf : ∀ c, (f c).category = c)
    {categories : List Category} (h : categories.Pairwise fun a b => compare a b = .lt)
    (hscores : ∀ c, (f c).WellFormed) : (ofList (categories.map f)).WellFormed := by
  have hfound : ∀ c s, (ofList (categories.map f)).get? c = some s → s = f c := by
    intro c s hs
    rw [get?_ofList_map hf h, Option.ite_none_right_eq_some] at hs
    exact (Option.some.inj hs.2).symm
  constructor
  · intro c s hs
    rw [hfound c s hs]
    exact hf c
  · intro c s hs
    rw [hfound c s hs]
    exact hscores c

end CategoryScores

end

theorem Category.pairwise_base : Category.base.Pairwise fun a b => compare a b = .lt := by
  decide

theorem Category.pairwise_all : Category.all.Pairwise fun a b => compare a b = .lt := by
  decide

/-! ## The scores of a language -/

namespace LanguageMetrics

variable {K : Type} [Scalar K]

theorem category_score (language : Language) (thresholds : Thresholds K) (files : List FileFacts)
    (category : Category) : (score language thresholds files category).category = category := by
  cases category with
  | naming => exact CategoryScore.category_withEvidence ..
  | documentation =>
    show (if language = .typescript then typedDocumentationScore files
      else documentationScore files : CategoryScore K).category = _
    split <;> exact CategoryScore.category_withEvidence ..
  | modularity =>
    show (modularityScore thresholds files).category = _
    unfold modularityScore
    split
    · rfl
    · exact CategoryScore.category_withEvidence ..
  | complexity => exact CategoryScore.category_withEvidence ..
  | errorHandling => exact CategoryScore.category_withEvidence ..
  | testing =>
    show (if language.isMarkup then .of .testing neutralScore
      else testingScore files : CategoryScore K).category = _
    split
    · rfl
    · exact CategoryScore.category_withEvidence ..
  | security =>
    show (if language = .typescript then typedSecurityScore files
      else securityScore files : CategoryScore K).category = _
    split <;> exact CategoryScore.category_withEvidence ..
  | styleConsistency =>
    show (styleConsistencyScore files : CategoryScore K).category = _
    unfold styleConsistencyScore
    split
    · rfl
    · exact CategoryScore.category_withEvidence ..
  | patterns => rfl
  | performance => rfl
  | comments => rfl

/-- The base categories are the ones that are scored for a language. -/
theorem get?_ofFacts (language : Language) (thresholds : Thresholds K) (files : List FileFacts)
    (category : Category) :
    (ofFacts language thresholds files).scores.get? category =
      if category ∈ Category.base then some (score language thresholds files category) else none :=
  CategoryScores.get?_ofList_map (category_score language thresholds files) Category.pairwise_base _

theorem value_ofFacts (language : Language) (thresholds : Thresholds K) (files : List FileFacts)
    {category : Category} (h : category ∈ Category.base) :
    (ofFacts language thresholds files).scores.value category =
      (score language thresholds files category).value :=
  CategoryScores.value_ofList_map (category_score language thresholds files)
    Category.pairwise_base h

variable {K : Type} [ExactScalar K]

theorem wellFormed_score (language : Language) (thresholds : Thresholds K) (files : List FileFacts)
    (category : Category) : (score language thresholds files category).WellFormed := by
  cases category with
  | naming => exact CategoryScore.wellFormed_withEvidence ..
  | documentation =>
    rw [score]
    split <;> exact CategoryScore.wellFormed_withEvidence ..
  | modularity =>
    rw [score, modularityScore]
    split
    · exact CategoryScore.wellFormed_of ..
    · exact CategoryScore.wellFormed_withEvidence ..
  | complexity => exact CategoryScore.wellFormed_withEvidence ..
  | errorHandling => exact CategoryScore.wellFormed_withEvidence ..
  | testing =>
    rw [score]
    split
    · exact CategoryScore.wellFormed_of ..
    · exact CategoryScore.wellFormed_withEvidence ..
  | security =>
    rw [score]
    split
    · have htyped := CategoryScore.wellFormed_withEvidence .security
        ((securityScore files : CategoryScore K).value + typeCoverage files * 20.0)
        [("type_coverage", typeCoverage files)]
      exact ⟨htyped.range, Table.ascending_foldl_insert htyped.evidence _⟩
    · exact CategoryScore.wellFormed_withEvidence ..
  | styleConsistency =>
    rw [score, styleConsistencyScore]
    split
    · exact CategoryScore.wellFormed_of ..
    · exact CategoryScore.wellFormed_withEvidence ..
  | patterns => exact CategoryScore.wellFormed_of ..
  | performance => exact CategoryScore.wellFormed_of ..
  | comments => exact CategoryScore.wellFormed_of ..

/-- The scores of a language are well-formed, whatever its files are. -/
theorem wellFormed_ofFacts (language : Language) (thresholds : Thresholds K)
    (files : List FileFacts) : (ofFacts language thresholds files).scores.WellFormed :=
  CategoryScores.wellFormed_ofList_map (category_score language thresholds files)
    Category.pairwise_base (wellFormed_score language thresholds files)

end LanguageMetrics

end Affinity
