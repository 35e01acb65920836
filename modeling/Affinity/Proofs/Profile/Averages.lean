import Mathlib
import Affinity.Proofs.Order.Sorting
import Affinity.Proofs.Profile.Accounting
import Affinity.Proofs.Scalar.WeightedMean
import Affinity.Proofs.Score.Evidence

/-!
# The scores of a profile are averages

The base categories of a profile are means over the languages with files, weighted by the fraction
of the files in each of them. Modularity is mixed with the scores of duplication and dependencies.
With several languages the evidence of each of them is kept apart by its name.

* `averageOf` — the mean of a category over some metrics.
* `Averages` — what a profile is made of if there are files.
* `ofMetrics_eq_of_perm` — neither the order of the metrics nor those without files matter.
* `averages_ofMetrics` — all of it, for metrics of different languages.
-/

namespace Affinity

open Scalar

theorem Language.key_injective : Function.Injective Language.key := by
  have hnodup : (Language.all.map Language.key).Nodup := by decide
  intro a b h
  exact List.inj_on_of_nodup_map hnodup (Language.mem_all a) (Language.mem_all b) h

namespace Profile

/-! ## The languages with files -/

section

variable {K : Type} {metrics others : List (LanguageMetrics K)}

/-- The metrics of the languages with files. -/
def withFiles (metrics : List (LanguageMetrics K)) : List (LanguageMetrics K) :=
  metrics.filter fun m => 0 < m.fileCount

/-- The number of files in all languages. -/
def filesIn (metrics : List (LanguageMetrics K)) : Nat := sumOf (metrics.map (·.fileCount))

theorem mem_withFiles {m : LanguageMetrics K} :
    m ∈ withFiles metrics ↔ m ∈ metrics ∧ 0 < m.fileCount := by
  rw [withFiles, List.mem_filter, decide_eq_true_iff]

theorem filesIn_pos (hpos : ∀ m ∈ metrics, 0 < m.fileCount) (hne : metrics ≠ []) :
    0 < filesIn metrics := by
  obtain ⟨m, hm⟩ := List.exists_mem_of_ne_nil _ hne
  have hle : m.fileCount ≤ filesIn metrics :=
    List.single_le_sum (fun _ _ => Nat.zero_le _) _ (List.mem_map_of_mem hm)
  exact (hpos m hm).trans_le hle

/-- The others have none to count. -/
theorem filesIn_withFiles (metrics : List (LanguageMetrics K)) :
    filesIn (withFiles metrics) = filesIn metrics := by
  have hfilter := sumOf_filter_pos (metrics.map fun m => (m, m.fileCount))
  rw [List.filter_map, List.map_map, List.map_map] at hfilter
  exact hfilter

theorem ranked_perm (metrics : List (LanguageMetrics K)) :
    (ranked metrics).Perm (withFiles metrics) :=
  List.mergeSort_perm _ _

theorem mem_ranked {m : LanguageMetrics K} :
    m ∈ ranked metrics ↔ m ∈ metrics ∧ 0 < m.fileCount :=
  (ranked_perm metrics).mem_iff.trans mem_withFiles

instance : Std.TransCmp fun a b : LanguageMetrics K => compare a.language b.language :=
  inferInstanceAs (Std.TransCmp (compareOn LanguageMetrics.language))

variable (hlanguages : (metrics.map (·.language)).Nodup)

include hlanguages

/-- Metrics of one language are the same. -/
theorem eq_of_language_eq {a b : LanguageMetrics K} (ha : a ∈ metrics) (hb : b ∈ metrics)
    (h : a.language = b.language) : a = b :=
  List.inj_on_of_nodup_map hlanguages ha hb h

/-- The ranking forgets the order of the metrics, and those without files. -/
theorem ranked_eq_of_perm (h : (withFiles metrics).Perm (withFiles others)) :
    ranked metrics = ranked others := by
  refine mergeSort_eq_of_perm h fun a ha b hb heq => ?_
  exact eq_of_language_eq hlanguages (mem_withFiles.1 ha).1 (mem_withFiles.1 hb).1
    (Std.LawfulEqOrd.eq_of_compare heq)

theorem nodup_ranked : ((ranked metrics).map (·.language)).Nodup :=
  ((ranked_perm metrics).map _).nodup_iff.2 (hlanguages.sublist (List.filter_sublist.map _))

/-- The languages of the ranked metrics ascend. -/
theorem pairwise_ranked :
    (ranked metrics).Pairwise fun a b => compare a.language b.language = .lt := by
  have hne : (ranked metrics).Pairwise fun a b => a.language ≠ b.language :=
    List.pairwise_map.1 (nodup_ranked hlanguages)
  have hle : (ranked metrics).Pairwise fun a b => (compare a.language b.language).isLE :=
    pairwise_mergeSort_isLE _
  refine (hne.and hle).imp fun {a b} ⟨hab, hisLE⟩ => ?_
  refine (Ordering.isLE_iff_eq_lt_or_eq_eq.1 hisLE).resolve_right fun heq => ?_
  exact hab (Std.LawfulEqOrd.eq_of_compare heq)

end

variable {K : Type} [ExactScalar K] {metrics others : List (LanguageMetrics K)}

/-! ## Means weighted by files -/

/-- The scores of a category, each behind the fraction of the files in its language. -/
def shareParts (category : Category) (metrics : List (LanguageMetrics K)) : List (K × K) :=
  metrics.map fun m =>
    (((m.fileCount : Nat) : K) / (filesIn metrics : Nat), m.scores.value category)

/-- The mean of a category over the languages with files. -/
def averageOf (category : Category) (metrics : List (LanguageMetrics K)) : K :=
  weightedMean (shareParts category (withFiles metrics))

theorem sum_shares (hpos : ∀ m ∈ metrics, 0 < m.fileCount) (hne : metrics ≠ []) :
    (metrics.map fun m => ((m.fileCount : Nat) : K) / (filesIn metrics : Nat)).sum = 1 := by
  have hcast : (metrics.map fun m => ((m.fileCount : Nat) : K)).sum = (filesIn metrics : Nat) := by
    rw [filesIn, sumOf_eq_sum, Nat.cast_list_sum, List.map_map]
    rfl
  simp only [div_eq_mul_inv]
  rw [List.sum_map_mul_right, hcast]
  exact mul_inv_cancel₀ (Nat.cast_ne_zero.2 (filesIn_pos hpos hne).ne')

/-- The fractions of the files are weights. -/
theorem isWeighting_shareParts (category : Category) (hpos : ∀ m ∈ metrics, 0 < m.fileCount)
    (hne : metrics ≠ []) : IsWeighting (shareParts category metrics) where
  pos := by
    intro part hpart
    obtain ⟨m, hm, rfl⟩ := List.mem_map.1 hpart
    exact div_pos (Nat.cast_pos.2 (hpos m hm)) (Nat.cast_pos.2 (filesIn_pos hpos hne))
  sum := by
    rw [shareParts, List.map_map]
    exact sum_shares hpos hne

theorem weightedMean_shareParts_perm (category : Category) (h : metrics.Perm others) :
    weightedMean (shareParts category metrics) = weightedMean (shareParts category others) := by
  have hfiles : filesIn metrics = filesIn others := (h.map _).sum_eq
  unfold weightedMean shareParts
  rw [hfiles]
  exact ((h.map _).map _).sum_eq

/-! ## Shares -/

theorem get?_sharesOf (h : metrics.Pairwise fun a b => compare a.language b.language = .lt)
    {language : Language} {share : LanguageShare K} :
    (sharesOf metrics).get? language = some share ↔
      ∃ m ∈ metrics, m.language = language ∧
        ⟨m.fileCount, m.lineCount, ((m.fileCount : Nat) : K) / (filesIn metrics : Nat)⟩ =
          share := by
  unfold sharesOf
  rw [Table.get?_ofList_of_ascending (List.pairwise_map.2 h), List.mem_map]
  simp only [Prod.mk.injEq]
  rfl

theorem values_shares (h : metrics.Pairwise fun a b => compare a.language b.language = .lt) :
    (sharesOf metrics).values.map (·.share) =
      metrics.map fun m => ((m.fileCount : Nat) : K) / (filesIn metrics : Nat) := by
  unfold sharesOf
  rw [Table.ofList_of_ascending (List.pairwise_map.2 h), Table.values, List.map_map, List.map_map]
  rfl

/-- The merged value is the mean weighted by files. -/
theorem mergedValue_eq (h : metrics.Pairwise fun a b => compare a.language b.language = .lt)
    (category : Category) :
    mergedValue category metrics = weightedMean (shareParts category metrics) := by
  unfold mergedValue weightedMean shareParts
  rw [sum_eq, List.map_map]
  refine congrArg List.sum (List.map_congr_left fun m hm => ?_)
  have hshare := (get?_sharesOf h).2 ⟨m, hm, rfl, rfl⟩
  simp only [hshare]
  exact mul_comm _ _

/-! ## Evidence under the name of its language -/

/-- The key of a piece of evidence where there are several languages. -/
def keyOf (language : Language) (key : String) : String := language.key ++ "." ++ key

theorem notMem_key (language : Language) : '.' ∉ language.key.toList := by
  cases language <;> decide

/-- The name of a language ends at the first dot, so that no key stands for two. -/
theorem keyOf_inj {language other : Language} {key otherKey : String} :
    keyOf language key = keyOf other otherKey ↔ language = other ∧ key = otherKey := by
  constructor
  · intro h
    have hname : ∀ (l : Language) (k : String),
        (keyOf l k).toList.takeWhile (· != '.') = l.key.toList := by
      intro l k
      have hnone : ∀ c ∈ l.key.toList, (c != '.') = true := fun c hc =>
        bne_iff_ne.2 fun he => notMem_key l (he ▸ hc)
      simp [keyOf, List.takeWhile_append_of_pos hnone]
    have hlanguage : language = other := by
      apply Language.key_injective
      rw [← String.toList_inj, ← hname language key, ← hname other otherKey, h]
    subst hlanguage
    refine ⟨rfl, ?_⟩
    have hlist := congrArg String.toList h
    simp only [keyOf, String.toList_append] at hlist
    exact String.toList_inj.1 (List.append_cancel_left hlist)
  · rintro ⟨rfl, rfl⟩
    rfl

omit [ExactScalar K] in
theorem mem_mergedEvidence (hseveral : 1 < metrics.length) {category : Category} {key : String}
    {value : K} : (key, value) ∈ mergedEvidence category metrics ↔
      ∃ m ∈ metrics, ∃ score, m.scores.get? category = some score ∧
        ∃ own, (own, value) ∈ score.evidence.entries ∧ keyOf m.language own = key := by
  unfold mergedEvidence
  rw [List.mem_flatMap]
  refine exists_congr fun m => and_congr_right fun _ => ?_
  cases hscore : m.scores.get? category with
  | none => simp
  | some score => simp [hseveral, keyOf]

section

variable (hlanguages : (metrics.map (·.language)).Nodup)
  (hscores : ∀ m ∈ metrics, m.scores.WellFormed) (hseveral : 1 < metrics.length)

include hlanguages hscores hseveral

/-- No key comes from two languages, nor twice from one. -/
theorem mergedEvidence_unique {category : Category} {key : String} {value other : K}
    (h : (key, value) ∈ mergedEvidence category metrics)
    (hother : (key, other) ∈ mergedEvidence category metrics) : other = value := by
  obtain ⟨m, hm, score, hscore, own, hown, rfl⟩ := (mem_mergedEvidence hseveral).1 h
  obtain ⟨m', hm', score', hscore', own', hown', hkey⟩ := (mem_mergedEvidence hseveral).1 hother
  obtain ⟨hlanguage, rfl⟩ := keyOf_inj.1 hkey
  obtain rfl := eq_of_language_eq hlanguages hm' hm hlanguage
  obtain rfl := Option.some.inj (hscore'.symm.trans hscore)
  have hascending := ((hscores _ hm).score category _ hscore).evidence
  rw [← Table.get?_eq_some_iff hascending] at hown hown'
  exact Option.some.inj (hown'.symm.trans hown)

/-- The evidence of each language is found under its name. -/
theorem get?_evidence_mergedScore {category : Category} {m : LanguageMetrics K} (hm : m ∈ metrics)
    {score : CategoryScore K} (hscore : m.scores.get? category = some score) {key : String}
    {value : K} (hvalue : score.evidence.get? key = some value) :
    (mergedScore category metrics).evidence.get? (keyOf m.language key) = some value := by
  have hascending := ((hscores m hm).score category score hscore).evidence
  have hmem : (keyOf m.language key, value) ∈ mergedEvidence category metrics :=
    (mem_mergedEvidence hseveral).2
      ⟨m, hm, score, hscore, key, (Table.get?_eq_some_iff hascending).1 hvalue, rfl⟩
  rw [mergedScore, CategoryScore.evidence_withEvidence]
  exact Table.get?_foldl_insert_of_mem hmem
    (fun _ => mergedEvidence_unique hlanguages hscores hseveral hmem) _

end

/-- Mixing keeps the evidence of the languages. -/
theorem get?_evidence_blendedModularity {base : CategoryScore K}
    (hbase : base.evidence.Ascending) (advanced : AdvancedMetrics K) {key : String} {value : K}
    (h : base.evidence.get? key = some value) :
    (blendedModularity base advanced).evidence.get? key = some value := by
  rw [blendedModularity, CategoryScore.evidence_withEvidence, Table.ofList, List.foldl_append]
  refine Table.get?_foldl_insert_of_mem ((Table.get?_eq_some_iff hbase).1 h) ?_ _
  intro other hother
  rw [← Table.get?_eq_some_iff hbase] at hother
  exact Option.some.inj (hother.symm.trans h)

/-! ## The scores of a profile -/

theorem category_scoreOf (metrics : List (LanguageMetrics K)) {advanced : AdvancedMetrics K}
    (hadvanced : advanced.scores.WellFormed) (category : Category) :
    (scoreOf metrics advanced category).category = category := by
  unfold scoreOf
  split
  · next h => exact (CategoryScore.category_withEvidence ..).trans h.symm
  · split
    · exact CategoryScore.category_withEvidence ..
    · cases hscore : advanced.scores.get? category with
      | none => rfl
      | some score => exact hadvanced.category category score hscore

theorem scoreOf_of_mem_base (metrics : List (LanguageMetrics K)) (advanced : AdvancedMetrics K)
    {category : Category} (hbase : category ∈ Category.base) (hmixed : category ≠ .modularity) :
    scoreOf metrics advanced category = mergedScore category metrics := by
  have hisBase : category.isBase = true := List.contains_iff_mem.2 hbase
  rw [scoreOf, if_neg hmixed, if_pos hisBase]

theorem averageOf_mem_Icc (hscores : ∀ m ∈ metrics, m.scores.WellFormed)
    (hfiles : withFiles metrics ≠ []) (category : Category) :
    averageOf category metrics ∈ Set.Icc (0 : K) 100 := by
  have hweights := isWeighting_shareParts (K := K) category
    (fun m hm => (mem_withFiles.1 hm).2) hfiles
  refine hweights.mean_mem_Icc fun part hpart => ?_
  obtain ⟨m, hm, rfl⟩ := List.mem_map.1 hpart
  exact (hscores m (mem_withFiles.1 hm).1).value_mem_Icc category

section

variable (hlanguages : (metrics.map (·.language)).Nodup)
  (hscores : ∀ m ∈ metrics, m.scores.WellFormed) (hfiles : withFiles metrics ≠ [])

include hlanguages hscores hfiles

/-- A mean of scores is on the scale and stays as it is. -/
theorem value_mergedScore (category : Category) :
    (mergedScore category (ranked metrics)).value = averageOf category metrics := by
  have haverage : mergedValue category (ranked metrics) = averageOf category metrics :=
    (mergedValue_eq (pairwise_ranked hlanguages) category).trans
      (weightedMean_shareParts_perm category (ranked_perm metrics))
  rw [mergedScore, CategoryScore.value_withEvidence, haverage]
  exact clampScore_eq_self (averageOf_mem_Icc hscores hfiles category)

theorem value_scoreOf {category : Category} (hbase : category ∈ Category.base)
    (hmixed : category ≠ .modularity) (advanced : AdvancedMetrics K) :
    (scoreOf (ranked metrics) advanced category).value = averageOf category metrics := by
  rw [scoreOf_of_mem_base _ _ hbase hmixed]
  exact value_mergedScore hlanguages hscores hfiles category

/-- The mixture is on the scale too. -/
theorem value_scoreOf_modularity {advanced : AdvancedMetrics K}
    (hduplication : advanced.duplication.score ∈ Set.Icc (0 : K) 100)
    (hdependencies : advanced.dependencies.score ∈ Set.Icc (0 : K) 100) :
    (scoreOf (ranked metrics) advanced .modularity).value =
      7 / 10 * averageOf .modularity metrics + 3 / 20 * advanced.duplication.score +
        3 / 20 * advanced.dependencies.score := by
  have haverage := averageOf_mem_Icc hscores hfiles .modularity
  have hmixture : 7 / 10 * averageOf .modularity metrics + 3 / 20 * advanced.duplication.score +
      3 / 20 * advanced.dependencies.score ∈ Set.Icc (0 : K) 100 := by
    obtain ⟨hlow, hhigh⟩ := haverage
    obtain ⟨hlow', hhigh'⟩ := hduplication
    obtain ⟨hlow'', hhigh''⟩ := hdependencies
    constructor <;> linarith
  rw [scoreOf, if_pos rfl, blendedModularity, CategoryScore.value_withEvidence,
    value_mergedScore hlanguages hscores hfiles]
  refine Eq.trans ?_ (clampScore_eq_self hmixture)
  norm_num [literal_eq]

end

/-! ## Profiles of metrics -/

variable (name : String) {advanced : AdvancedMetrics K} (coverage : Coverage) (weights : Weights K)

/-- What a profile of some metrics is made of if there are files. -/
structure Averages (metrics : List (LanguageMetrics K)) (advanced : AdvancedMetrics K)
    (profile : Profile K) : Prop where
  /-- The languages are those with files, each with its fraction of all files … -/
  languages : ∀ language share, profile.languages.get? language = some share ↔
    ∃ m ∈ metrics, 0 < m.fileCount ∧ m.language = language ∧
      ⟨m.fileCount, m.lineCount, ((m.fileCount : Nat) : K) / (filesIn metrics : Nat)⟩ = share
  /-- … which is positive; the fractions add up to one. -/
  positive : ∀ share ∈ profile.languages.values, 0 < share.share
  sum : (profile.languages.values.map (·.share)).sum = 1
  /-- There is a score for each of the eleven categories. -/
  categories : profile.scores.table.keys = Category.all
  /-- The base categories are means of the scores of the languages … -/
  mean : ∀ category ∈ Category.base, category ≠ .modularity →
    profile.scores.value category = averageOf category metrics
  /-- … and so are between two of them. -/
  between : ∀ category ∈ Category.base,
    (∃ m ∈ metrics, 0 < m.fileCount ∧ m.scores.value category ≤ averageOf category metrics) ∧
      ∃ m ∈ metrics, 0 < m.fileCount ∧ averageOf category metrics ≤ m.scores.value category
  /-- Modularity is a mixture that needs not be brought to the scale. -/
  modularity : profile.scores.value .modularity =
    7 / 10 * averageOf .modularity metrics + 3 / 20 * advanced.duplication.score +
      3 / 20 * advanced.dependencies.score
  /-- With several languages each piece of evidence is under the name of its language, and no other
  piece has this key. -/
  evidence : 1 < (withFiles metrics).length → ∀ m ∈ metrics, 0 < m.fileCount →
    ∀ category ∈ Category.base, ∀ score, m.scores.get? category = some score →
      ∀ key value, score.evidence.get? key = some value →
        (∃ merged, profile.scores.get? category = some merged ∧
          merged.evidence.get? (m.language.key ++ "." ++ key) = some value) ∧
        ∀ other otherKey, Language.key other ++ "." ++ otherKey = m.language.key ++ "." ++ key →
          other = m.language ∧ otherKey = key

/-- **Neither the order of the metrics nor those without files matter** to a profile. -/
theorem ofMetrics_eq_of_perm (hlanguages : (metrics.map (·.language)).Nodup)
    (h : (withFiles others).Perm (withFiles metrics)) :
    ofMetrics name others advanced coverage weights =
      ofMetrics name metrics advanced coverage weights := by
  unfold ofMetrics
  rw [ranked_eq_of_perm hlanguages h.symm]

theorem ofMetrics_of_ne_nil (h : withFiles metrics ≠ []) :
    ofMetrics name metrics advanced coverage weights =
      { name
        scores := .ofList (Category.all.map (scoreOf (ranked metrics) advanced))
        weights
        languages := sharesOf (ranked metrics)
        languageMetrics := ranked metrics
        advanced
        coverage } := by
  have hranked : ¬ (ranked metrics).isEmpty = true := by
    rw [(ranked_perm metrics).isEmpty_eq]
    simpa using h
  exact if_neg hranked

/-- The profile of metrics of which some have files. -/
theorem averages_of_ne_nil (hlanguages : (metrics.map (·.language)).Nodup)
    (hscores : ∀ m ∈ metrics, m.scores.WellFormed) (hadvanced : advanced.scores.WellFormed)
    (hduplication : advanced.duplication.score ∈ Set.Icc (0 : K) 100)
    (hdependencies : advanced.dependencies.score ∈ Set.Icc (0 : K) 100)
    (hfiles : withFiles metrics ≠ []) :
    Averages metrics advanced (ofMetrics name metrics advanced coverage weights) := by
  have hascending := pairwise_ranked hlanguages
  have hcategory := category_scoreOf (ranked metrics) hadvanced
  have hpos : ∀ m ∈ ranked metrics, 0 < m.fileCount := fun m hm => (mem_ranked.1 hm).2
  have hne : ranked metrics ≠ [] := fun h =>
    hfiles (List.Perm.nil_eq (h ▸ ranked_perm metrics)).symm
  have htotal : filesIn (ranked metrics) = filesIn metrics :=
    ((ranked_perm metrics).map _).sum_eq.trans (filesIn_withFiles metrics)
  rw [ofMetrics_of_ne_nil name coverage weights hfiles]
  constructor
  case languages =>
    intro language share
    rw [get?_sharesOf hascending, htotal]
    simp only [mem_ranked, and_assoc]
  case positive =>
    intro share hshare
    have hmem := List.mem_map_of_mem (f := (·.share)) hshare
    rw [values_shares hascending] at hmem
    obtain ⟨m, hm, heq⟩ := List.mem_map.1 hmem
    rw [← heq]
    exact div_pos (Nat.cast_pos.2 (hpos m hm)) (Nat.cast_pos.2 (filesIn_pos hpos hne))
  case sum =>
    rw [values_shares hascending]
    exact sum_shares hpos hne
  case categories =>
    rw [Table.keys, CategoryScores.entries_ofList_map hcategory Category.pairwise_all, List.map_map]
    exact List.map_id _
  case mean =>
    intro category hbase hmixed
    rw [CategoryScores.value_ofList_map hcategory Category.pairwise_all
      (List.mem_append_left _ hbase)]
    exact value_scoreOf hlanguages hscores hfiles hbase hmixed advanced
  case between =>
    intro category _
    have hweights := isWeighting_shareParts (K := K) category
      (fun m hm => (mem_withFiles.1 hm).2) hfiles
    obtain ⟨low, hlow, hle⟩ := hweights.exists_le_mean
    obtain ⟨high, hhigh, hge⟩ := hweights.exists_mean_le
    obtain ⟨m, hm, rfl⟩ := List.mem_map.1 hlow
    obtain ⟨m', hm', rfl⟩ := List.mem_map.1 hhigh
    exact ⟨⟨m, (mem_withFiles.1 hm).1, (mem_withFiles.1 hm).2, hle⟩,
      ⟨m', (mem_withFiles.1 hm').1, (mem_withFiles.1 hm').2, hge⟩⟩
  case modularity =>
    rw [CategoryScores.value_ofList_map hcategory Category.pairwise_all (by decide)]
    exact value_scoreOf_modularity hlanguages hscores hfiles hduplication hdependencies
  case evidence =>
    intro hseveral m hm hcount category hbase score hscore key value hvalue
    have hranked : 1 < (ranked metrics).length := by rwa [(ranked_perm metrics).length_eq]
    have hmerged := get?_evidence_mergedScore (nodup_ranked hlanguages)
      (fun m hm => hscores m (mem_ranked.1 hm).1) hranked (mem_ranked.2 ⟨hm, hcount⟩) hscore hvalue
    refine ⟨⟨scoreOf (ranked metrics) advanced category, ?_, ?_⟩, fun _ _ h => keyOf_inj.1 h⟩
    · exact (CategoryScores.get?_ofList_map hcategory Category.pairwise_all category).trans
        (if_pos (List.mem_append_left _ hbase))
    · by_cases hmixed : category = .modularity
      · subst hmixed
        rw [scoreOf, if_pos rfl]
        exact get?_evidence_blendedModularity
          (CategoryScore.wellFormed_withEvidence ..).evidence advanced hmerged
      · rw [scoreOf_of_mem_base _ _ hbase hmixed]
        exact hmerged

/-- Without files all eleven scores are zero. -/
theorem scores_of_eq_nil (h : withFiles metrics = []) (category : Category) :
    (ofMetrics name metrics advanced coverage weights).scores.table.keys = Category.all ∧
      (ofMetrics name metrics advanced coverage weights).scores.value category = 0 := by
  have hranked : (ranked metrics).isEmpty = true := by
    rw [(ranked_perm metrics).isEmpty_eq, h]
    rfl
  have hscores : (ofMetrics name metrics advanced coverage weights).scores =
      .zeros Category.all := congrArg Profile.scores (if_pos hranked)
  have hzero : ∀ c, (CategoryScore.zero c : CategoryScore K).category = c := fun _ => rfl
  rw [hscores, CategoryScores.zeros]
  constructor
  · rw [Table.keys, CategoryScores.entries_ofList_map hzero Category.pairwise_all, List.map_map]
    exact List.map_id _
  · have hmem : category ∈ Category.all := by cases category <;> decide
    rw [CategoryScores.value_ofList_map hzero Category.pairwise_all hmem]
    show clampScore (0.0 : K) = 0
    rw [literal_zero]
    exact clampScore_eq_self ⟨le_rfl, by norm_num⟩

/-- **The scores of a profile are averages** over the languages with files, whatever the order of
the metrics is. -/
theorem averages_ofMetrics (hlanguages : (metrics.map (·.language)).Nodup)
    (hscores : ∀ m ∈ metrics, m.scores.WellFormed) (hadvanced : advanced.scores.WellFormed)
    (hduplication : advanced.duplication.score ∈ Set.Icc (0 : K) 100)
    (hdependencies : advanced.dependencies.score ∈ Set.Icc (0 : K) 100) :
    (∀ others : List (LanguageMetrics K), (withFiles others).Perm (withFiles metrics) →
      ofMetrics name others advanced coverage weights =
        ofMetrics name metrics advanced coverage weights) ∧
    ((∃ m ∈ metrics, 0 < m.fileCount) →
      Averages metrics advanced (ofMetrics name metrics advanced coverage weights)) ∧
    ((∀ m ∈ metrics, m.fileCount = 0) → ∀ category,
      (ofMetrics name metrics advanced coverage weights).scores.table.keys = Category.all ∧
        (ofMetrics name metrics advanced coverage weights).scores.value category = 0) := by
  refine ⟨fun others => ofMetrics_eq_of_perm name coverage weights hlanguages, ?_, ?_⟩
  · rintro ⟨m, hm, hcount⟩
    exact averages_of_ne_nil name coverage weights hlanguages hscores hadvanced hduplication
      hdependencies (List.ne_nil_of_mem (mem_withFiles.2 ⟨hm, hcount⟩))
  · intro hnone category
    refine scores_of_eq_nil name coverage weights (List.filter_eq_nil_iff.2 fun m hm => ?_) category
    simpa using hnone m hm

/-- Three files of Python and one of Go, in a repository with some duplicates: naming is
three quarters of 100 and one of 50, and modularity is lowered by the duplicates and by the
dependencies. -/
theorem averages_ofMetrics_of_two :
    let file : FileFacts :=
      { path := "cart.py", language := .python, lines := { total := 40, code := 30 }
        naming := { total := 4, conventional := 4 } }
    let metrics : List (LanguageMetrics ℚ) := [
      .ofFacts .python .standard [file, file, file], .ofFacts .html .standard [],
      .ofFacts .go .standard [{ path := "cart.go", language := .go }]]
    let advanced : AdvancedMetrics ℚ := { AdvancedMetrics.empty with
      duplication := { DuplicationReport.empty with score := 80 }
      dependencies := { DependencyReport.empty with score := 40 } }
    let profileOf := fun metrics => ofMetrics "acme/shop" metrics advanced {} .standard
    ((metrics.map (·.language)).Nodup ∧ (∀ m ∈ metrics, m.scores.WellFormed) ∧
      advanced.scores.WellFormed ∧ advanced.duplication.score ∈ Set.Icc (0 : ℚ) 100 ∧
      advanced.dependencies.score ∈ Set.Icc (0 : ℚ) 100 ∧ ∃ m ∈ metrics, 0 < m.fileCount) ∧
    profileOf metrics.reverse = profileOf metrics ∧
    Averages metrics advanced (profileOf metrics) ∧
    (profileOf metrics).scores.value .naming = 175 / 2 ∧
    (profileOf metrics).scores.value .modularity = 88 ∧
    ∃ naming, (profileOf metrics).scores.get? .naming = some naming ∧
      naming.evidence.get? "python.identifiers" = some 12 := by
  intro file metrics advanced profileOf
  have hlanguages : (metrics.map (·.language)).Nodup := by decide
  have hscores : ∀ m ∈ metrics, m.scores.WellFormed := by
    simp only [metrics, List.forall_mem_cons]
    exact ⟨LanguageMetrics.wellFormed_ofFacts .., LanguageMetrics.wellFormed_ofFacts ..,
      LanguageMetrics.wellFormed_ofFacts .., List.forall_mem_nil _⟩
  have hadvanced : advanced.scores.WellFormed :=
    CategoryScores.wellFormed_ofList_map (fun _ => rfl) (by decide)
      fun c => CategoryScore.wellFormed_of c 0.0
  have hduplication : advanced.duplication.score ∈ Set.Icc (0 : ℚ) 100 := by
    norm_num [advanced]
  have hdependencies : advanced.dependencies.score ∈ Set.Icc (0 : ℚ) 100 := by
    norm_num [advanced]
  have hfiles : ∃ m ∈ metrics, 0 < m.fileCount := ⟨_, List.mem_cons_self .., by decide⟩
  obtain ⟨hsame, haverages, -⟩ := averages_ofMetrics "acme/shop" {} .standard hlanguages hscores
    hadvanced hduplication hdependencies
  have hprofile : Averages metrics advanced (profileOf metrics) := haverages hfiles
  refine ⟨⟨hlanguages, hscores, hadvanced, hduplication, hdependencies, hfiles⟩,
    hsame metrics.reverse ((List.reverse_perm metrics).filter _), hprofile, ?_, ?_, ?_⟩
  · rw [hprofile.mean .naming (by decide) (by decide)]
    decide +kernel
  · rw [hprofile.modularity]
    decide +kernel
  · have hnaming := (LanguageMetrics.get?_ofFacts .python (.standard : Thresholds ℚ)
      [file, file, file] .naming).trans (if_pos (by decide))
    exact (hprofile.evidence (by decide) _ (List.mem_cons_self ..) (by decide) .naming (by decide)
      _ hnaming "identifiers" 12 (by decide +kernel)).1

end Profile

end Affinity
