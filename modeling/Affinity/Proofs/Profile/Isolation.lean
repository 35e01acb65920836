import Mathlib
import Affinity.Proofs.FileSet.Contents
import Affinity.Proofs.Profile.Accounting

/-!
# What further deliveries cannot change

A repository may be delivered twice, the second time with further deliveries put in anywhere. If
none of these is in some language, the metrics of this language are the same both times, whatever is
in the files and whichever of them are beyond the limit. If all of them are left out on their own
account, the profiles differ at most in their coverage.

* `Extends` — deliveries with further ones put in.
* `Delivery.Dropped` — deliveries that are left out on their own account.
* `Profile.find?_languageMetrics_ofBatch` — the metrics of a language in a profile.
* `Profile.ofFileSet_isolated` — what further deliveries cannot change.
-/

namespace Affinity

/-! ## Further deliveries -/

/-- The path of what was delivered. -/
def Delivery.path : Delivery → Path
  | fetched file => file.path
  | failed path _ => path

/-- The longer list holds the deliveries of the shorter one in their order, and further ones put in
anywhere, all of them `added`. -/
inductive Extends (added : Delivery → Prop) : List Delivery → List Delivery → Prop
  | nil : Extends added [] []
  | keep (d : Delivery) {shorter longer : List Delivery} :
    Extends added shorter longer → Extends added (d :: shorter) (d :: longer)
  | insert {d : Delivery} {shorter longer : List Delivery} :
    added d → Extends added shorter longer → Extends added shorter (d :: longer)

/-- What the added deliveries give nothing for is the same for both lists. -/
theorem Extends.filterMap_eq {α : Type} {added : Delivery → Prop} {shorter longer : List Delivery}
    (h : Extends added shorter longer) {f : Delivery → Option α}
    (hnone : ∀ d, added d → f d = none) : longer.filterMap f = shorter.filterMap f := by
  induction h with
  | nil => rfl
  | keep d _ ih => rw [List.filterMap_cons, List.filterMap_cons, ih]
  | insert hd _ ih => rw [List.filterMap_cons_none (hnone _ hd), ih]

/-! ## Dropped deliveries -/

/-- The delivery is left out on its own account. -/
inductive Delivery.Dropped (globs : List Glob) (limits : Limits) : Delivery → Prop
  | failed (path : Path) (reason : String) : Dropped globs limits (.failed path reason)
  | excluded {file : RawFile} (h : isExcluded globs file.path = true) :
    Dropped globs limits (.fetched file)
  | unsupported {file : RawFile} (h : Language.detect? file.path = none) :
    Dropped globs limits (.fetched file)
  | oversized {file : RawFile} (h : limits.maxFileBytes < file.size) :
    Dropped globs limits (.fetched file)
  | undecodable {file : RawFile} {offset : Nat} (h : Utf8.decode file.bytes = .error offset) :
    Dropped globs limits (.fetched file)

/-- The dropped deliveries are those that bring no file to choose from. -/
theorem Delivery.dropped_iff {globs : List Glob} {limits : Limits} {d : Delivery} :
    d.Dropped globs limits ↔ ∀ f, ¬ d.Brings globs limits f := by
  constructor
  · rintro (⟨path, reason⟩ | h | h | h | h) f
      ⟨raw, text, hraw, hexcluded, hsize, htext, -, hdetect, -⟩
    · cases hraw
    · cases hraw
      simp [hexcluded] at h
    · cases hraw
      simp [hdetect] at h
    · cases hraw
      omega
    · cases hraw
      simp [htext] at h
  · intro h
    cases d with
    | failed path reason => exact .failed path reason
    | fetched file =>
      by_cases hexcluded : isExcluded globs file.path = true
      · exact .excluded hexcluded
      by_cases hsize : limits.maxFileBytes < file.size
      · exact .oversized hsize
      cases hdetect : Language.detect? file.path with
      | none => exact .unsupported hdetect
      | some language =>
        cases htext : Utf8.decode file.bytes with
        | error offset => exact .undecodable htext
        | ok text =>
          exact absurd ⟨file, text, rfl, by simpa using hexcluded, Nat.not_lt.1 hsize, htext, rfl,
            hdetect, rfl⟩ (h ⟨file.path, language, String.ofList (dropByteOrderMark text)⟩)

/-! ## Candidates -/

namespace FileSet

theorem candidates_eq_filterMap (globs : List Glob) (limits : Limits) (deliveries : List Delivery) :
    candidates globs limits deliveries =
      deliveries.filterMap fun d => (d.fate globs limits).kept? :=
  List.filterMap_map

/-- Dropped deliveries add no candidate. -/
theorem candidates_eq_of_extends {globs : List Glob} {limits : Limits}
    {shorter longer : List Delivery} (h : Extends (Delivery.Dropped globs limits) shorter longer) :
    candidates globs limits longer = candidates globs limits shorter := by
  rw [candidates_eq_filterMap, candidates_eq_filterMap]
  refine h.filterMap_eq fun d hd => Option.eq_none_iff_forall_ne_some.2 fun f hf => ?_
  have hbrings := Delivery.fate_eq_kept_iff_brings.1 (Fate.kept?_eq_some_iff.1 hf)
  exact Delivery.dropped_iff.1 hd f hbrings

/-- Deliveries that are not in a language add no candidate of this language. -/
theorem filter_candidates_eq_of_extends (globs : List Glob) (limits : Limits) {l : Language}
    {shorter longer : List Delivery}
    (h : Extends (fun d => Language.detect? d.path ≠ some l) shorter longer) :
    (candidates globs limits longer).filter (fun f => f.language = l) =
      (candidates globs limits shorter).filter fun f => f.language = l := by
  rw [candidates_eq_filterMap, candidates_eq_filterMap, List.filter_filterMap,
    List.filter_filterMap]
  refine h.filterMap_eq fun d hd => ?_
  rw [Option.filter_eq_none_iff]
  intro f hf hlanguage
  obtain ⟨raw, text, rfl, -, -, -, -, hdetect, -⟩ :=
    Delivery.fate_eq_kept_iff_brings.1 (Fate.kept?_eq_some_iff.1 hf)
  rw [of_decide_eq_true hlanguage] at hdetect
  exact hd hdetect

/-- The files of a language in a set depend on the candidates of this language only. -/
theorem ofLanguage_ofFates_congr {cap : Nat} {fates others : List Fate} {l : Language}
    (h : (fates.filterMap Fate.kept?).filter (fun f => f.language = l) =
      (others.filterMap Fate.kept?).filter fun f => f.language = l) :
    (ofFates cap fates).ofLanguage l = (ofFates cap others).ofLanguage l := by
  rw [ofLanguage_ofFates, ofLanguage_ofFates, keptIn, keptIn, h]

/-- The files of a set depend on the candidates only. -/
theorem files_ofFates_congr {cap : Nat} {fates others : List Fate}
    (h : fates.filterMap Fate.kept? = others.filterMap Fate.kept?) :
    (ofFates cap fates).files = (ofFates cap others).files := by
  rw [files_ofFates, files_ofFates, h]

end FileSet

/-! ## The metrics of a language -/

theorem SourceFile.language_facts [Python.Grammar] (file : SourceFile) :
    file.facts.language = file.language := by
  have hrules : file.ruleFacts.language = file.language := by
    unfold ruleFacts
    simp only
    split <;> rfl
  unfold facts
  split
  · unfold Python.facts
    simp only
    split <;> rfl
  · exact hrules

/-- The files of a set with the marks that say which of them come too late. -/
def FileSet.marked (set : FileSet) (expired : Nat → Bool) : List (SourceFile × Bool) :=
  set.files.zipIdx.map fun (file, i) => (file, expired i)

/-- The files of a language come too late in both sets or in none. -/
def SameMarks (l : Language) (set other : FileSet) (expired expired' : Nat → Bool) : Prop :=
  ∀ i j file, set.files[i]? = some file → other.files[j]? = some file → file.language = l →
    expired i = expired' j

theorem FileSet.filter_marked_congr {l : Language} {set other : FileSet}
    {expired expired' : Nat → Bool} (h : set.ofLanguage l = other.ofLanguage l)
    (hmarks : SameMarks l set other expired expired') :
    (set.marked expired).filter (fun e => e.1.language = l) =
      (other.marked expired').filter fun e => e.1.language = l := by
  have hfst : ∀ files : List SourceFile,
      (files.zipIdx.filter fun e => e.1.language = l).map Prod.fst =
        files.filter fun f => f.language = l := fun files => by
    conv_rhs => rw [← List.zipIdx_map_fst 0 files, List.filter_map]
    rfl
  unfold marked
  rw [List.filter_map, List.filter_map]
  refine map_eq_of_map_eq ((hfst set.files).trans (h.trans (hfst other.files).symm)) ?_
  rintro ⟨file, i⟩ hi ⟨file', j⟩ hj rfl
  obtain ⟨hi, hlanguage⟩ := List.mem_filter.1 hi
  have hj := List.mem_of_mem_filter hj
  rw [List.mk_mem_zipIdx_iff_getElem?] at hi hj
  exact congrArg (Prod.mk file) (hmarks i j file hi hj (by simpa using hlanguage))

namespace Profile

variable {K : Type} [Scalar K]

omit [Scalar K] in
theorem find?_languagesIn (files : List FileFacts) (l : Language) :
    (languagesIn files).find? (fun k => k = l) =
      if (groupOf files l).isEmpty then none else some l := by
  split
  · next hempty =>
    refine List.find?_eq_none.2 fun k hk hkl => ?_
    obtain rfl : k = l := of_decide_eq_true hkl
    simpa [hempty] using (List.mem_filter.1 hk).2
  · next hoccurs =>
    have hmem : l ∈ languagesIn files :=
      List.mem_filter.2 ⟨Language.mem_all l, by simpa using hoccurs⟩
    have hsome : ((languagesIn files).find? fun k => k = l).isSome :=
      List.find?_isSome.2 ⟨l, hmem, by simp⟩
    obtain ⟨k, hk⟩ := Option.isSome_iff_exists.1 hsome
    obtain rfl : k = l := by simpa using List.find?_some hk
    exact hk

/-- The metrics of a language among those of some files. -/
theorem find?_metricsOf (thresholds : Thresholds K) (files : List FileFacts) (l : Language) :
    (metricsOf thresholds files).find? (fun m => m.language = l) =
      if (groupOf files l).isEmpty then none
      else some (.ofFacts l thresholds (groupOf files l)) := by
  rw [metricsOf_eq, List.find?_map]
  show ((languagesIn files).find? fun k => k = l).map _ = _
  rw [find?_languagesIn]
  split <;> rfl

/-- **The metrics of a language in a profile** depend on the files of this language only. -/
theorem find?_languageMetrics_ofBatch (settings : Settings K) (name : String) (coverage : Coverage)
    (batch : Batch) (l : Language) :
    (ofBatch settings name coverage batch).languageMetrics.find? (fun m => m.language = l) =
      if (groupOf batch.inOrder.files l).isEmpty then none
      else some (.ofFacts l settings.thresholds (groupOf batch.inOrder.files l)) := by
  unfold ofBatch
  rw [languageMetrics_ofMetrics, ranked_metricsOf, find?_metricsOf]

/-- The files of a language in a batch come from the files of this language. -/
theorem groupOf_ofFiles [Python.Grammar] (files : List (SourceFile × Bool)) (l : Language) :
    groupOf (Batch.ofFiles files).inOrder.files l =
      (Batch.ofFiles (files.filter fun e => e.1.language = l)).inOrder.files := by
  have hfacts : (Batch.factsOf files).filter (fun f => f.language = l) =
      Batch.factsOf (files.filter fun e => e.1.language = l) := by
    unfold Batch.factsOf
    rw [List.filter_map, List.filter_filter, List.filter_filter]
    refine congrArg (List.map _) (List.filter_congr fun e _ => ?_)
    simp [SourceFile.language_facts, Bool.and_comm]
  show ((Batch.ofFiles files).files.mergeSort _).filter _ =
    (Batch.ofFiles _).files.mergeSort _
  rw [filter_mergeSort, Batch.ofFiles_eq, Batch.ofFiles_eq, ← hfacts]

/-! ## Profiles of file sets -/

/-- **The metrics of a language are its own**: two sets with the same files of a language, of which
the same come too late, give the same metrics of this language. -/
theorem find?_languageMetrics_congr [Python.Grammar] (settings : Settings K) (name : String)
    {l : Language} {set other : FileSet} {expired expired' : Nat → Bool}
    (h : set.ofLanguage l = other.ofLanguage l) (hmarks : SameMarks l set other expired expired') :
    (ofFileSet settings name expired set).languageMetrics.find? (fun m => m.language = l) =
      (ofFileSet settings name expired' other).languageMetrics.find? fun m => m.language = l := by
  have hgroup : groupOf (Batch.ofFiles (set.marked expired)).inOrder.files l =
      groupOf (Batch.ofFiles (other.marked expired')).inOrder.files l := by
    rw [groupOf_ofFiles, groupOf_ofFiles, FileSet.filter_marked_congr h hmarks]
  show (ofBatch settings name _ (.ofFiles (set.marked expired))).languageMetrics.find? _ =
    (ofBatch settings name _ (.ofFiles (other.marked expired'))).languageMetrics.find? _
  rw [find?_languageMetrics_ofBatch, find?_languageMetrics_ofBatch, hgroup]

/-- The coverage of a set is written into its profile and has no other influence. -/
theorem ofFileSet_eq_of_files_eq [Python.Grammar] (settings : Settings K) (name : String)
    (expired : Nat → Bool) {set other : FileSet} (h : set.files = other.files) :
    ofFileSet settings name expired set =
      { ofFileSet settings name expired other with
        coverage := (ofFileSet settings name expired set).coverage } := by
  unfold ofFileSet
  rw [h]
  unfold ofBatch ofMetrics
  simp only
  split <;> rfl

end Profile

/-- Both fail for the same reason, or both give something and the two are alike. -/
inductive SameOutcome {ε α : Type} (alike : α → α → Prop) : Except ε α → Except ε α → Prop
  | error (e : ε) : SameOutcome alike (.error e) (.error e)
  | ok {a b : α} : alike a b → SameOutcome alike (.ok a) (.ok b)

/-- Settings whose patterns cannot be read fail for all deliveries alike. -/
theorem FileSet.ofDeliveries_sameOutcome {K : Type} {settings : Settings K}
    {alike : FileSet → FileSet → Prop} {deliveries others : List Delivery}
    (h : ∀ globs, globsOf settings.exclude = .ok globs →
      alike
        (ofFates settings.limits.maxFilesPerLanguage
          (deliveries.map (Delivery.fate globs settings.limits)))
        (ofFates settings.limits.maxFilesPerLanguage
          (others.map (Delivery.fate globs settings.limits)))) :
    SameOutcome alike (ofDeliveries settings deliveries) (ofDeliveries settings others) := by
  cases hglobs : globsOf settings.exclude with
  | error e =>
    rw [ofDeliveries, ofDeliveries, hglobs]
    exact .error e
  | ok globs =>
    rw [ofDeliveries_of_globsOf hglobs, ofDeliveries_of_globsOf hglobs]
    exact .ok (h globs hglobs)

namespace Profile

variable {K : Type} [Scalar K]

/-- The metrics of a language in the profiles of two sets are the same, as long as the same files of
this language come too late. -/
def SameMetrics [Python.Grammar] (settings : Settings K) (name : String) (l : Language)
    (set other : FileSet) : Prop :=
  ∀ expired expired', SameMarks l set other expired expired' →
    (ofFileSet settings name expired set).languageMetrics.find? (fun m => m.language = l) =
      (ofFileSet settings name expired' other).languageMetrics.find? fun m => m.language = l

/-- The profiles of two sets differ at most in their coverage, whichever files come too late. -/
def SameButCoverage [Python.Grammar] (settings : Settings K) (name : String)
    (set other : FileSet) : Prop :=
  ∀ expired, ofFileSet settings name expired other =
    { ofFileSet settings name expired set with
      coverage := (ofFileSet settings name expired other).coverage }

/-- **What further deliveries cannot change.** Deliveries of which none is in some language leave
the metrics of this language as they were, and deliveries that are left out on their own account
leave everything but the coverage as it was. -/
theorem ofFileSet_isolated [Python.Grammar] (settings : Settings K) (name : String)
    (shorter longer : List Delivery) :
    (∀ l, Extends (fun d => Language.detect? d.path ≠ some l) shorter longer →
      SameOutcome (SameMetrics settings name l) (FileSet.ofDeliveries settings shorter)
        (FileSet.ofDeliveries settings longer)) ∧
    ((∀ globs, FileSet.globsOf settings.exclude = .ok globs →
        Extends (Delivery.Dropped globs settings.limits) shorter longer) →
      SameOutcome (SameButCoverage settings name) (FileSet.ofDeliveries settings shorter)
        (FileSet.ofDeliveries settings longer)) := by
  constructor
  · intro l hextends
    refine FileSet.ofDeliveries_sameOutcome fun globs _ expired expired' hmarks => ?_
    refine find?_languageMetrics_congr settings name (FileSet.ofLanguage_ofFates_congr ?_) hmarks
    exact (FileSet.filter_candidates_eq_of_extends globs settings.limits hextends).symm
  · intro hextends
    refine FileSet.ofDeliveries_sameOutcome fun globs hglobs expired => ?_
    refine ofFileSet_eq_of_files_eq settings name expired (FileSet.files_ofFates_congr ?_)
    exact FileSet.candidates_eq_of_extends (hextends globs hglobs)

/-- A page beside a program and a program that is too long, both put in before it. -/
theorem ofFileSet_isolated_two_insertions :
    let settings : Settings ℚ := { Settings.standard with limits := { maxFileBytes := 1 } }
    let program : Delivery := .fetched ⟨⟨"a.py"⟩, [120]⟩
    let page : Delivery := .fetched ⟨⟨"a.html"⟩, [60]⟩
    let long : Delivery := .fetched ⟨⟨"A.py"⟩, [120, 121]⟩
    Extends (fun d => Language.detect? d.path ≠ some .python) [program] [page, program] ∧
      SameOutcome (SameMetrics settings "acme/api" .python)
        (FileSet.ofDeliveries settings [program]) (FileSet.ofDeliveries settings [page, program]) ∧
      (∀ globs, FileSet.globsOf settings.exclude = .ok globs →
        Extends (Delivery.Dropped globs settings.limits) [program] [long, program]) ∧
      SameOutcome (SameButCoverage settings "acme/api")
        (FileSet.ofDeliveries settings [program])
        (FileSet.ofDeliveries settings [long, program]) := by
  intro settings program page long
  have hpage : Extends (fun d => Language.detect? d.path ≠ some .python) [program]
      [page, program] := .insert (by decide +kernel) (.keep program .nil)
  have hlong : ∀ globs, FileSet.globsOf settings.exclude = .ok globs →
      Extends (Delivery.Dropped globs settings.limits) [program] [long, program] :=
    fun globs _ => .insert (.oversized (by decide)) (.keep program .nil)
  exact ⟨hpage, (ofFileSet_isolated settings "acme/api" _ _).1 .python hpage, hlong,
    (ofFileSet_isolated settings "acme/api" _ _).2 hlong⟩

end Profile

end Affinity
