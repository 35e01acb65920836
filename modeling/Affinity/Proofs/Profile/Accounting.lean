import Mathlib
import Affinity.Proofs.FileSet.Accounting
import Affinity.Proofs.Profile.Batches
import Affinity.Python.Statement

/-!
# Every delivery is accounted for in a profile

The coverage of a profile says of every delivered file what became of it: it was analyzed, excluded,
in no known language, or skipped. The analyzed files are those that the languages of the profile
count, whatever the split of the work and whichever files were not begun in time.

* `Profile.metricsOf_eq` — the metrics of the languages that occur.
* `Profile.Accounted` — what the coverage of a profile says of all delivered files.
* `Profile.ofBatch_accounted` — the profile of a file set, worked on in any parts.
-/

namespace Affinity

namespace Profile

variable {K : Type} [Scalar K]

/-! ## The metrics of the languages -/

/-- The files of one language. -/
def groupOf (files : List FileFacts) (l : Language) : List FileFacts :=
  files.filter fun f => f.language = l

/-- The languages that occur, in order. -/
def languagesIn (files : List FileFacts) : List Language :=
  Language.all.filter fun l => !(groupOf files l).isEmpty

theorem filterMap_unless {α β : Type} (p : α → Bool) (f : α → β) (l : List α) :
    (l.filterMap fun a => if p a then none else some (f a)) =
      (l.filter fun a => !p a).map f := by
  induction l with
  | nil => rfl
  | cons a rest ih => cases h : p a <;> simp [h, ih]

/-- There are metrics of each language that occurs, in order. -/
theorem metricsOf_eq (thresholds : Thresholds K) (files : List FileFacts) :
    metricsOf thresholds files =
      (languagesIn files).map fun l => .ofFacts l thresholds (groupOf files l) := by
  unfold metricsOf
  rw [List.filterMap_map]
  exact filterMap_unless (fun l => (groupOf files l).isEmpty) _ _

theorem language_metricsOf (thresholds : Thresholds K) (files : List FileFacts) :
    (metricsOf thresholds files).map (·.language) = languagesIn files := by
  rw [metricsOf_eq, List.map_map]
  exact List.map_id _

theorem fileCount_pos_of_mem_metricsOf {thresholds : Thresholds K} {files : List FileFacts}
    {m : LanguageMetrics K} (h : m ∈ metricsOf thresholds files) : 0 < m.fileCount := by
  rw [metricsOf_eq] at h
  obtain ⟨l, hl, rfl⟩ := List.mem_map.1 h
  have hgroup := (List.mem_filter.1 hl).2
  exact List.length_pos_iff.2 (by simpa using hgroup)

/-- The languages of the metrics ascend. -/
theorem pairwise_metricsOf (thresholds : Thresholds K) (files : List FileFacts) :
    (metricsOf thresholds files).Pairwise fun a b => compare a.language b.language = .lt := by
  have hlanguages : (languagesIn files).Pairwise fun a b => compare a b = .lt :=
    Language.pairwise_all.filter _
  rw [← language_metricsOf thresholds] at hlanguages
  exact List.pairwise_map.1 hlanguages

/-- The metrics count all files. -/
theorem sumOf_fileCount_metricsOf (thresholds : Thresholds K) (files : List FileFacts) :
    sumOf ((metricsOf thresholds files).map (·.fileCount)) = files.length := by
  have hfilter : (languagesIn files).map (fun l => (l, (groupOf files l).length)) =
      (Language.all.map fun l => (l, (groupOf files l).length)).filter fun e => 0 < e.2 := by
    rw [List.filter_map]
    refine congrArg (List.map _) (List.filter_congr fun l _ => ?_)
    cases h : groupOf files l <;> simp [h]
  have hcounts : (metricsOf thresholds files).map (·.fileCount) =
      ((languagesIn files).map fun l => (l, (groupOf files l).length)).map (·.2) := by
    rw [metricsOf_eq, List.map_map, List.map_map]
    rfl
  rw [hcounts, hfilter, sumOf_filter_pos, List.map_map]
  exact Language.sumOf_groups FileFacts.language files

/-! ## From metrics to a profile -/

omit [Scalar K] in
/-- Metrics whose languages ascend and that all have files are ranked already. -/
theorem ranked_eq_self {metrics : List (LanguageMetrics K)}
    (hascending : metrics.Pairwise fun a b => compare a.language b.language = .lt)
    (hpos : ∀ m ∈ metrics, 0 < m.fileCount) : ranked metrics = metrics := by
  have hfilter : (metrics.filter fun m => 0 < m.fileCount) = metrics :=
    List.filter_eq_self.2 fun m hm => decide_eq_true (hpos m hm)
  rw [ranked, hfilter]
  exact List.mergeSort_of_pairwise (hascending.imp fun h => by rw [h]; rfl)

/-- The metrics of the languages that occur are ranked already. -/
theorem ranked_metricsOf (thresholds : Thresholds K) (files : List FileFacts) :
    ranked (metricsOf thresholds files) = metricsOf thresholds files :=
  ranked_eq_self (pairwise_metricsOf _ _) fun _ => fileCount_pos_of_mem_metricsOf

theorem values_sharesOf {metrics : List (LanguageMetrics K)}
    (hascending : metrics.Pairwise fun a b => compare a.language b.language = .lt) :
    (sharesOf metrics).values.map (·.files) = metrics.map (·.fileCount) := by
  unfold sharesOf
  rw [Table.ofList_of_ascending (List.pairwise_map.2 hascending), Table.values, List.map_map,
    List.map_map]
  rfl

variable (name : String) (advanced : AdvancedMetrics K) (coverage : Coverage) (weights : Weights K)

theorem coverage_ofMetrics (metrics : List (LanguageMetrics K)) :
    (ofMetrics name metrics advanced coverage weights).coverage = coverage := by
  unfold ofMetrics
  simp only
  split <;> rfl

theorem languageMetrics_ofMetrics (metrics : List (LanguageMetrics K)) :
    (ofMetrics name metrics advanced coverage weights).languageMetrics = ranked metrics := by
  unfold ofMetrics
  simp only
  split
  · next h => exact (List.isEmpty_iff.1 h).symm
  · rfl

theorem totalFiles_ofMetrics {metrics : List (LanguageMetrics K)}
    (hascending : (ranked metrics).Pairwise fun a b => compare a.language b.language = .lt) :
    (ofMetrics name metrics advanced coverage weights).totalFiles =
      sumOf ((ranked metrics).map (·.fileCount)) := by
  unfold ofMetrics
  simp only
  split
  · next h =>
    rw [List.isEmpty_iff.1 h]
    rfl
  · exact congrArg sumOf (values_sharesOf hascending)

/-! ## Profiles of file sets -/

/-- What the coverage of a profile says of all delivered files. -/
structure Accounted (profile : Profile K) (delivered : Nat) : Prop where
  /-- All of them were seen … -/
  seen : profile.coverage.filesSeen = delivered
  /-- … and each of them has one of four fates. -/
  fates : profile.coverage.filesSeen =
    profile.coverage.filesAnalyzed + profile.coverage.excluded + profile.coverage.unsupported +
      profile.coverage.skipped
  unsupported : profile.coverage.unsupported = profile.coverage.unsupportedExtensions.total
  /-- The analyzed files are those that the languages of the profile count. -/
  analyzed : profile.coverage.filesAnalyzed = profile.totalFiles
  metrics : profile.coverage.filesAnalyzed = sumOf (profile.languageMetrics.map (·.fileCount))
  fallbacks : profile.coverage.fallbacks ≤ profile.coverage.filesAnalyzed

/-- The counts of a profile of a batch are those of the batch. -/
theorem counts_ofBatch (settings : Settings K) (batch : Batch) :
    (ofBatch settings name coverage batch).totalFiles = batch.files.length ∧
      sumOf ((ofBatch settings name coverage batch).languageMetrics.map (·.fileCount)) =
        batch.files.length ∧
      (ofBatch settings name coverage batch).coverage =
        { coverage with
          filesAnalyzed := batch.files.length
          timedOut := batch.timedOut
          fallbacks := batch.fallbacks } := by
  have hlength : batch.inOrder.files.length = batch.files.length := List.length_mergeSort _
  have hranked := ranked_metricsOf settings.thresholds batch.inOrder.files
  have hsum := sumOf_fileCount_metricsOf settings.thresholds batch.inOrder.files
  refine ⟨?_, ?_, ?_⟩
  · unfold ofBatch
    rw [totalFiles_ofMetrics _ _ _ _ (hranked.symm ▸ pairwise_metricsOf _ _), hranked, hsum,
      hlength]
  · unfold ofBatch
    rw [languageMetrics_ofMetrics, hranked, hsum, hlength]
  · unfold ofBatch
    rw [coverage_ofMetrics, hlength]
    rfl

/-- **Every delivered file is accounted for**, whatever the split of the work is and whichever files
were not begun in time, as long as the patterns of the settings can be read. -/
theorem ofBatch_accounted [Python.Grammar] (settings : Settings K) {globs : List Glob}
    (hglobs : FileSet.globsOf settings.exclude = .ok globs) (deliveries : List Delivery) :
    ∃ set, FileSet.ofDeliveries settings deliveries = .ok set ∧
      ∀ work : Work, work.files.map (·.1) = set.files →
        (ofBatch settings name set.coverage work.batch).Accounted deliveries.length := by
  let fates := deliveries.map (Delivery.fate globs settings.limits)
  let set := FileSet.ofFates settings.limits.maxFilesPerLanguage fates
  have hset : FileSet.ofDeliveries settings deliveries = .ok set := by
    rw [FileSet.ofDeliveries, hglobs]
    rfl
  refine ⟨set, hset, fun work hwork => ?_⟩
  obtain ⟨htotal, hmetrics, hcoverage⟩ := counts_ofBatch name set.coverage settings work.batch
  have hseen : set.coverage.filesSeen = deliveries.length := List.length_map _
  have hfates : set.coverage.filesSeen = set.files.length + set.coverage.excluded +
      set.coverage.unsupported + set.coverage.warnings.length + set.coverage.truncated.total :=
    FileSet.filesSeen_ofFates settings.limits.maxFilesPerLanguage fates
  have hbatch := Batch.length_ofFiles work.files
  have hfallbacks := Batch.fallbacks_ofFiles_le work.files
  rw [← Work.batch_eq] at hbatch hfallbacks
  have hfiles : set.files.length = work.files.length := by
    rw [← hwork, List.length_map]
  refine { seen := ?_, fates := ?_, unsupported := ?_, analyzed := ?_, metrics := ?_,
           fallbacks := ?_ } <;> rw [hcoverage]
  · exact hseen
  · show set.coverage.filesSeen = work.batch.files.length + set.coverage.excluded +
      set.coverage.unsupported +
      (set.coverage.warnings.length + work.batch.timedOut + set.coverage.truncated.total)
    omega
  · exact FileSet.unsupported_ofFates settings.limits.maxFilesPerLanguage fates
  · exact htotal.symm
  · exact hmetrics.symm
  · exact hfallbacks

/-- A file that is kept and one for each way of being left out: not read, excluded, in no known
language, too large, no text, repeated, beyond the limit of one file. -/
theorem ofBatch_accounted_each_fate :
    let settings : Settings Float :=
      { Settings.standard with
        exclude := ["*.md"]
        limits := { maxFilesPerLanguage := 1, maxFileBytes := 2 } }
    let deliveries : List Delivery :=
      [.fetched ⟨⟨"a.py"⟩, [120]⟩, .failed ⟨"b.py"⟩ "gone", .fetched ⟨⟨"c.md"⟩, []⟩,
        .fetched ⟨⟨"d.txt"⟩, []⟩, .fetched ⟨⟨"e.py"⟩, [49, 50, 51]⟩, .fetched ⟨⟨"f.py"⟩, [255]⟩,
        .fetched ⟨⟨"a.py"⟩, [121]⟩, .fetched ⟨⟨"g.py"⟩, []⟩]
    FileSet.globsOf settings.exclude = .ok [[.many true, .byte 46, .byte 109, .byte 100]] ∧
      ∃ set, FileSet.ofDeliveries settings deliveries = .ok set ∧
        ∀ work : Work, work.files.map (·.1) = set.files →
          (ofBatch settings "acme/api" set.coverage work.batch).Accounted 8 := by
  intro settings deliveries
  have hglobs : FileSet.globsOf ["*.md"] = .ok [[.many true, .byte 46, .byte 109, .byte 100]] := by
    cbv
  exact ⟨hglobs, ofBatch_accounted "acme/api" settings hglobs deliveries⟩

/-- The profile of a file set is worked on in one part. -/
theorem ofFileSet_eq_ofBatch [Python.Grammar] (settings : Settings K) (expired : Nat → Bool)
    (set : FileSet) :
    ∃ work : Work, work.files.map (·.1) = set.files ∧
      ofFileSet settings name expired set =
        ofBatch settings name set.coverage work.batch := by
  refine ⟨.part (set.files.zipIdx.map fun entry => (entry.1, expired entry.2)), ?_, ?_⟩
  · show (set.files.zipIdx.map _).map _ = set.files
    rw [List.map_map]
    exact List.zipIdx_map_fst 0 set.files
  · rw [ofFileSet, Work.batch]

end Profile

end Affinity
