import Mathlib
import Affinity.Finding.Performance
import Affinity.Proofs.Finding.Counting
import Affinity.Proofs.Scalar.Exact
import Affinity.Proofs.Table.Laws

/-!
# Where costly functions are found

A finding is a kind of costly operation that a function shows. Its place is given by the number of
the file, the number of the function in the file and the kind, and places are ordered in that way.
The report counts all findings outside of test files and lists the first ones in the order of their
places.

* `PerformanceReport.FoundAt` — the findings, described by their places.
* `PerformanceReport.mem_findings_iff`, `PerformanceReport.pairwise_findings`,
  `PerformanceReport.map_findings` — all of them, in order, are what the report counts and lists.
* `PerformanceReport.encard_functions` — functions outside of test files, counted by their places.
* `PerformanceReport.ofFiles_accountsFor` — the report accounts for its findings, does not look at
  test files, and does not get better when operations become costlier.
-/

namespace Affinity

open Scalar

/-! ## The costly operations of a function -/

/-- The order in which the kinds are looked for. -/
def PerformanceIssue.rank : PerformanceIssue → ℕ
  | nestedLoops => 0
  | ioInLoop => 1
  | concatInLoop => 2

theorem PerformanceIssue.key_injective : Function.Injective PerformanceIssue.key := by
  intro a b
  cases a <;> cases b <;> decide

namespace FunctionFacts

/-- The function shows a kind of costly operation. -/
def Shows (f : FunctionFacts) : PerformanceIssue → Prop
  | .nestedLoops => 2 < f.maxLoopDepth
  | .ioInLoop => 0 < f.ioInLoop
  | .concatInLoop => 0 < f.concatInLoop

theorem mem_issues_iff {f : FunctionFacts} {kind : PerformanceIssue} :
    kind ∈ f.issues ↔ f.Shows kind := by
  cases kind <;> simp [issues, Shows]

theorem isFlagged_iff {f : FunctionFacts} : f.isFlagged = true ↔ ∃ kind, f.Shows kind := by
  rw [isFlagged, Bool.not_eq_true', List.isEmpty_eq_false_iff_exists_mem]
  exact exists_congr fun _ => mem_issues_iff

theorem issues_sublist (f : FunctionFacts) :
    f.issues.Sublist [.nestedLoops, .ioInLoop, .concatInLoop] := by
  unfold issues
  split <;> split <;> split <;> decide

/-- Each kind is found once at most, and in its turn. -/
theorem pairwise_issues (f : FunctionFacts) : f.issues.Pairwise fun a b => a.rank < b.rank :=
  List.Pairwise.sublist f.issues_sublist (by decide)

/-- A flagged function shows one to three kinds, the others show none. -/
theorem length_issues_bounds (f : FunctionFacts) :
    (if f.isFlagged then 1 else 0) ≤ f.issues.length ∧
      f.issues.length ≤ 3 * if f.isFlagged then 1 else 0 := by
  have hthree : f.issues.length ≤ 3 := f.issues_sublist.length_le
  unfold isFlagged
  cases hissues : f.issues with
  | nil => simp
  | cons kind rest => simpa [hissues] using hthree

/-- The loops of the other function are at least as deep and do at least as much. -/
structure NoCheaper (f g : FunctionFacts) : Prop where
  maxLoopDepth : f.maxLoopDepth ≤ g.maxLoopDepth
  ioInLoop : f.ioInLoop ≤ g.ioInLoop
  concatInLoop : f.concatInLoop ≤ g.concatInLoop

theorem NoCheaper.shows {f g : FunctionFacts} (h : f.NoCheaper g) {kind : PerformanceIssue}
    (hf : f.Shows kind) : g.Shows kind := by
  cases kind with
  | nestedLoops => exact Nat.lt_of_lt_of_le hf h.maxLoopDepth
  | ioInLoop => exact Nat.lt_of_lt_of_le hf h.ioInLoop
  | concatInLoop => exact Nat.lt_of_lt_of_le hf h.concatInLoop

theorem NoCheaper.isFlagged {f g : FunctionFacts} (h : f.NoCheaper g) (hf : f.isFlagged = true) :
    g.isFlagged = true :=
  isFlagged_iff.2 ((isFlagged_iff.1 hf).imp fun _ => h.shows)

end FunctionFacts

/-- The same file, but for functions that are no cheaper. -/
structure FileFacts.NoCheaper (a b : FileFacts) : Prop where
  isTestFile : b.tests.isTestFile = a.tests.isTestFile
  functions : List.Forall₂ FunctionFacts.NoCheaper a.functions b.functions

/-! ## Findings and their places -/

/-- The place of a finding: the numbers of the file and of the function in it, and the kind. -/
structure IssuePlace where
  file : ℕ
  function : ℕ
  kind : PerformanceIssue

/-- Places are ordered by file, function and kind. -/
def IssuePlace.Before (p q : IssuePlace) : Prop :=
  p.file < q.file ∨ p.file = q.file ∧
    (p.function < q.function ∨ p.function = q.function ∧ p.kind.rank < q.kind.rank)

theorem IssuePlace.Before.ne {p q : IssuePlace} (h : p.Before q) : p ≠ q := by
  rintro rfl
  rcases h with h | ⟨-, h | ⟨-, h⟩⟩ <;> exact Nat.lt_irrefl _ h

namespace PerformanceReport

/-- What is listed of a finding. -/
def hotspotOf (file : FileFacts) (f : FunctionFacts) (kind : PerformanceIssue) : Hotspot where
  path := file.path
  function := f.name
  line := f.line
  kind := kind.key

/-- The function with a number in the file with a number, which is no test file. -/
def FunctionAt (files : List FileFacts) (i j : ℕ) (file : FileFacts) (f : FunctionFacts) : Prop :=
  files[i]? = some file ∧ file.tests.isTestFile = false ∧ file.functions[j]? = some f

/-- There is a finding at a place. -/
def FoundAt (files : List FileFacts) (place : IssuePlace) (spot : Hotspot) : Prop :=
  ∃ file f, FunctionAt files place.file place.function file f ∧ f.Shows place.kind ∧
    spot = hotspotOf file f place.kind

/-- The findings in the file with a number, and their places. -/
def findingsOf (file : FileFacts) (i : ℕ) : List (IssuePlace × Hotspot) :=
  file.functions.zipIdx.flatMap fun (f, j) =>
    f.issues.map fun kind => (⟨i, j, kind⟩, hotspotOf file f kind)

/-- All findings outside of test files, and their places. -/
def findings (files : List FileFacts) : List (IssuePlace × Hotspot) :=
  files.zipIdx.flatMap fun (file, i) => if file.tests.isTestFile then [] else findingsOf file i

theorem mem_findingsOf_iff {file : FileFacts} {i : ℕ} {entry : IssuePlace × Hotspot} :
    entry ∈ findingsOf file i ↔ entry.1.file = i ∧
      ∃ f, file.functions[entry.1.function]? = some f ∧ f.Shows entry.1.kind ∧
        entry.2 = hotspotOf file f entry.1.kind := by
  obtain ⟨⟨i', j, kind⟩, spot⟩ := entry
  simp only [findingsOf, List.mem_flatMap, List.mem_map, List.mem_zipIdx_iff_getElem?, Prod.exists,
    FunctionFacts.mem_issues_iff, Prod.mk.injEq, IssuePlace.mk.injEq]
  constructor
  · rintro ⟨f, j, hf, kind, hshows, ⟨rfl, rfl, rfl⟩, rfl⟩
    exact ⟨rfl, f, hf, hshows, rfl⟩
  · rintro ⟨rfl, f, hf, hshows, rfl⟩
    exact ⟨f, j, hf, kind, hshows, ⟨rfl, rfl, rfl⟩, rfl⟩

/-- The findings are complete. -/
theorem mem_findings_iff {files : List FileFacts} {entry : IssuePlace × Hotspot} :
    entry ∈ findings files ↔ FoundAt files entry.1 entry.2 := by
  simp only [findings, List.mem_flatMap, List.mem_zipIdx_iff_getElem?, Prod.exists,
    List.mem_ite_nil_left, Bool.not_eq_true, mem_findingsOf_iff]
  constructor
  · rintro ⟨file, i, hfile, htest, rfl, f, hf, hshows, hspot⟩
    exact ⟨file, f, ⟨hfile, htest, hf⟩, hshows, hspot⟩
  · rintro ⟨file, f, ⟨hfile, htest, hf⟩, hshows, hspot⟩
    exact ⟨file, _, hfile, htest, rfl, f, hf, hshows, hspot⟩

theorem pairwise_findingsOf (file : FileFacts) (i : ℕ) :
    (findingsOf file i).Pairwise fun a b => a.1.Before b.1 := by
  refine List.pairwise_flatMap.2 ⟨fun entry _ => ?_, (pairwise_zipIdx _).imp ?_⟩
  · exact List.pairwise_map.2 (entry.1.pairwise_issues.imp fun h => .inr ⟨rfl, .inr ⟨rfl, h⟩⟩)
  · intro a b hab x hx y hy
    obtain ⟨kind, -, rfl⟩ := List.mem_map.1 hx
    obtain ⟨kind', -, rfl⟩ := List.mem_map.1 hy
    exact .inr ⟨rfl, .inl hab⟩

/-- The findings stand in the order of their places. -/
theorem pairwise_findings (files : List FileFacts) :
    (findings files).Pairwise fun a b => a.1.Before b.1 := by
  refine List.pairwise_flatMap.2 ⟨fun (file, i) _ => ?_, (pairwise_zipIdx _).imp ?_⟩
  · cases htest : file.tests.isTestFile with
    | true => simp [htest]
    | false => simpa [htest] using pairwise_findingsOf file i
  · intro a b hab x hx y hy
    have hxa : x.1.file = a.2 := (mem_findingsOf_iff.1 (List.mem_ite_nil_left.1 hx).2).1
    have hyb : y.1.file = b.2 := (mem_findingsOf_iff.1 (List.mem_ite_nil_left.1 hy).2).1
    exact .inl (hxa.trans_lt (hab.trans_eq hyb.symm))

/-- No two findings are at one place. -/
theorem nodup_findings (files : List FileFacts) : ((findings files).map (·.1)).Nodup :=
  List.pairwise_map.2 ((pairwise_findings files).imp IssuePlace.Before.ne)

/-! ## What the report looks at -/

/-- The files that are no test files. -/
def productionOf (files : List FileFacts) : List FileFacts := files.filter (!·.tests.isTestFile)

/-- The functions outside of test files. -/
def functionsIn (files : List FileFacts) : List FunctionFacts :=
  (productionOf files).flatMap (·.functions)

theorem flatMap_productionOf {α : Type} (g : FileFacts → List α) (files : List FileFacts) :
    (productionOf files).flatMap g =
      files.flatMap fun file => if file.tests.isTestFile then [] else g file := by
  induction files with
  | nil => rfl
  | cons file rest ih =>
    rw [List.flatMap_cons, ← ih, productionOf, List.filter_cons]
    cases file.tests.isTestFile <;> rfl

theorem map_findingsOf (file : FileFacts) (i : ℕ) :
    (findingsOf file i).map (·.2) = file.hotspots := by
  unfold findingsOf FileFacts.hotspots
  conv_rhs => rw [← List.zipIdx_map_fst 0 file.functions, List.flatMap_map]
  rw [List.map_flatMap]
  simp only [List.map_map]
  rfl

/-- The findings are what the production files show. -/
theorem map_findings (files : List FileFacts) :
    (findings files).map (·.2) = (productionOf files).flatMap (·.hotspots) := by
  rw [flatMap_productionOf, findings, List.map_flatMap]
  conv_rhs => rw [← List.zipIdx_map_fst 0 files, List.flatMap_map]
  refine congrArg (List.flatMap · _) (funext fun (file, i) => ?_)
  cases htest : file.tests.isTestFile with
  | true => simp [htest]
  | false => simpa [htest] using map_findingsOf file i

/-- As many findings as kinds that the functions show. -/
theorem length_findings (files : List FileFacts) :
    (findings files).length = ((functionsIn files).map (·.issues.length)).sum := by
  have hfile : ∀ file : FileFacts,
      file.hotspots.length = (file.functions.map (·.issues.length)).sum := by
    intro file
    simp only [FileFacts.hotspots, List.length_flatMap, List.length_map]
  have hlength := congrArg List.length (map_findings files)
  rw [List.length_map] at hlength
  rw [hlength, functionsIn]
  induction productionOf files with
  | nil => rfl
  | cons file rest ih =>
    rw [List.flatMap_cons, List.length_append, ih, hfile, List.flatMap_cons, List.map_append,
      List.sum_append]

/-- **Functions outside of test files**, counted by their places. -/
theorem encard_functions (files : List FileFacts) (p : FunctionFacts → Bool) :
    {q : ℕ × ℕ | ∃ file f, FunctionAt files q.1 q.2 file f ∧ p f = true}.encard =
      (functionsIn files).countP p := by
  rw [functionsIn, flatMap_productionOf, List.flatMap_def, ← encard_elements]
  congr 1
  ext ⟨i, j⟩
  simp only [FunctionAt, Set.mem_ofPred_eq, List.getElem?_map, Option.map_eq_some_iff]
  constructor
  · rintro ⟨file, f, ⟨hfile, htest, hf⟩, hp⟩
    exact ⟨_, f, ⟨file, hfile, if_neg (by simp [htest])⟩, hf, hp⟩
  · rintro ⟨_, f, ⟨file, hfile, rfl⟩, hf, hp⟩
    cases htest : file.tests.isTestFile with
    | true => simp [htest] at hf
    | false => exact ⟨file, f, ⟨hfile, htest, by simpa [htest] using hf⟩, hp⟩

/-- **The findings of some kinds**, counted by their places. -/
theorem encard_findings (files : List FileFacts) (p : PerformanceIssue → Bool) :
    {place | (∃ spot, FoundAt files place spot) ∧ p place.kind = true}.encard =
      (findings files).countP fun entry => p entry.1.kind := by
  have hset : {place | (∃ spot, FoundAt files place spot) ∧ p place.kind = true} =
      {place | place ∈ ((findings files).map (·.1)).filter fun place => p place.kind} := by
    ext place
    simp only [Set.mem_ofPred_eq, List.mem_filter, List.mem_map, Prod.exists, mem_findings_iff,
      exists_and_right, exists_eq_right]
  rw [hset, encard_of_nodup ((nodup_findings files).filter _), ← List.countP_eq_length_filter,
    List.countP_map]
  rfl

/-! ## The report -/

section

variable {K : Type} [Scalar K]

theorem ofFiles_eq (files : List FileFacts) :
    (ofFiles files : PerformanceReport K) =
      let flagged : ℕ := (functionsIn files).countP (·.isFlagged)
      let density : K := ratio flagged (functionsIn files).length
      { score := clampScore (100.0 * square (1.0 - density))
        functions := (functionsIn files).length
        flaggedFunctions := flagged
        density
        issues := .tally ((findings files).map (·.2.kind))
        hotspots := ((findings files).map (·.2)).take listedHotspots } := by
  have hkinds : (findings files).map (·.2.kind) = ((findings files).map (·.2)).map (·.kind) := by
    rw [List.map_map]
    rfl
  rw [hkinds, map_findings]
  rfl

/-- What a report has to say of the functions of some files and of their costly operations. -/
structure AccountsFor (files : List FileFacts) (report : PerformanceReport K) : Prop where
  functions : {q : ℕ × ℕ | ∃ file f, FunctionAt files q.1 q.2 file f}.encard = report.functions
  flagged : {q : ℕ × ℕ | ∃ file f, FunctionAt files q.1 q.2 file f ∧ ∃ kind, f.Shows kind}.encard =
    report.flaggedFunctions
  total : {place | ∃ spot, FoundAt files place spot}.encard = report.issues.total
  /-- Each kind has its entry. -/
  kinds : ∀ kind, {place | (∃ spot, FoundAt files place spot) ∧ place.kind = kind}.encard =
    ((report.issues.get? kind.key).getD 0 : ℕ)
  flagged_le : report.flaggedFunctions ≤ report.issues.total
  le_three_mul : report.issues.total ≤ 3 * report.flaggedFunctions
  /-- The first findings are listed, in the order of their places. -/
  hotspots : ∃ found : List (IssuePlace × Hotspot),
    found.Pairwise (fun a b => a.1.Before b.1) ∧
      (∀ place spot, (place, spot) ∈ found ↔ FoundAt files place spot) ∧
      found.length = report.issues.total ∧
      report.hotspots = (found.take (min 20 report.issues.total)).map (·.2)

theorem flagged_bounds (functions : List FunctionFacts) :
    functions.countP (·.isFlagged) ≤ (functions.map (·.issues.length)).sum ∧
      (functions.map (·.issues.length)).sum ≤ 3 * functions.countP (·.isFlagged) := by
  induction functions with
  | nil => simp
  | cons f rest ih =>
    have hone := f.length_issues_bounds
    rw [List.countP_cons, List.map_cons, List.sum_cons]
    omega

theorem total_issues_ofFiles (files : List FileFacts) :
    (ofFiles files : PerformanceReport K).issues.total = (findings files).length := by
  rw [ofFiles_eq]
  show (Table.tally _).total = _
  rw [Table.total_tally, List.length_map]

/-- A tally gives each kind as often as it is found. -/
theorem get?_issues_ofFiles (files : List FileFacts) (kind : PerformanceIssue) :
    ((ofFiles files : PerformanceReport K).issues.get? kind.key).getD 0 =
      (findings files).countP fun entry => entry.1.kind = kind := by
  have hkey : ∀ entry ∈ findings files, entry.2.kind = kind.key ↔ entry.1.kind = kind := by
    intro entry hentry
    obtain ⟨file, f, -, -, hspot⟩ := mem_findings_iff.1 hentry
    rw [hspot]
    exact PerformanceIssue.key_injective.eq_iff
  have hcount : ((findings files).map (·.2.kind)).count kind.key =
      (findings files).countP fun entry => entry.1.kind = kind := by
    rw [List.count, List.countP_map]
    refine List.countP_congr fun entry hentry => ?_
    simpa using hkey entry hentry
  rw [ofFiles_eq, ← hcount]
  show ((Table.tally ((findings files).map (·.2.kind))).get? kind.key).getD 0 = _
  rw [Table.get?_tally]
  split
  · rfl
  · next hnone => exact (List.count_eq_zero_of_not_mem hnone).symm

theorem accountsFor_ofFiles (files : List FileFacts) :
    AccountsFor files (ofFiles files : PerformanceReport K) := by
  have hbounds := flagged_bounds (functionsIn files)
  rw [← length_findings, ← total_issues_ofFiles (K := K)] at hbounds
  constructor
  case functions => simpa [ofFiles_eq] using encard_functions files fun _ => true
  case flagged =>
    have hflagged := encard_functions files (·.isFlagged)
    simp only [FunctionFacts.isFlagged_iff] at hflagged
    exact hflagged
  case total =>
    rw [total_issues_ofFiles]
    simpa using encard_findings files fun _ => true
  case kinds =>
    intro kind
    rw [get?_issues_ofFiles]
    simpa using encard_findings files fun kind' => kind' = kind
  case flagged_le => exact hbounds.1
  case le_three_mul => exact hbounds.2
  case hotspots =>
    refine ⟨findings files, pairwise_findings files, fun _ _ => mem_findings_iff, ?_, ?_⟩
    · exact (total_issues_ofFiles files).symm
    · rw [total_issues_ofFiles, ← List.take_take, List.take_length, List.map_take, ofFiles_eq]
      rfl

/-- The report of the production files is that of all files. -/
theorem ofFiles_congr {files others : List FileFacts}
    (h : productionOf others = productionOf files) :
    (ofFiles others : PerformanceReport K) = ofFiles files := by
  unfold productionOf at h
  unfold ofFiles
  rw [h]

end

/-! ## Costlier operations -/

theorem forall₂_functionsIn {files others : List FileFacts}
    (h : List.Forall₂ FileFacts.NoCheaper files others) :
    List.Forall₂ FunctionFacts.NoCheaper (functionsIn files) (functionsIn others) := by
  have hproduction : List.Forall₂ FileFacts.NoCheaper (productionOf files) (productionOf others) :=
    List.rel_filter (fun _ _ hab => by simp only [hab.isTestFile]) h
  exact List.rel_flatMap hproduction fun _ _ hab => hab.functions

theorem countP_isFlagged_le {functions others : List FunctionFacts}
    (h : List.Forall₂ FunctionFacts.NoCheaper functions others) :
    functions.countP (·.isFlagged) ≤ others.countP (·.isFlagged) := by
  induction h with
  | nil => exact le_refl _
  | @cons f g rest rest' hfg _ ih =>
    rw [List.countP_cons, List.countP_cons]
    by_cases hf : f.isFlagged = true
    · rw [if_pos hf, if_pos (hfg.isFlagged hf)]
      exact Nat.add_le_add_right ih 1
    · rw [if_neg hf]
      exact ih.trans (Nat.le_add_right _ _)

variable {K : Type} [ExactScalar K]

theorem density_ofFiles (files : List FileFacts) :
    (ofFiles files : PerformanceReport K).density =
      ((functionsIn files).countP (·.isFlagged) : ℕ) / ((functionsIn files).length : K) :=
  ratio_eq _ _

theorem score_ofFiles (files : List FileFacts) :
    (ofFiles files : PerformanceReport K).score =
      clampScore (100 * (1 - (ofFiles files : PerformanceReport K).density) ^ 2) := by
  rw [ofFiles_eq]
  simp only [square, literal_eq]
  norm_num
  rw [pow_two]

/-- The share of the flagged functions is a share. -/
theorem density_mem_Icc (files : List FileFacts) :
    (ofFiles files : PerformanceReport K).density ∈ Set.Icc 0 1 := by
  rw [density_ofFiles]
  refine ⟨by positivity, div_le_one_of_le₀ ?_ (Nat.cast_nonneg _)⟩
  exact Nat.cast_le.2 List.countP_le_length

/-- With costlier operations, no fewer functions are flagged and the score is no better. -/
theorem score_le_score {files others : List FileFacts}
    (h : List.Forall₂ FileFacts.NoCheaper files others) :
    (ofFiles others : PerformanceReport K).score ≤ (ofFiles files : PerformanceReport K).score := by
  have hfunctions := forall₂_functionsIn h
  have hdensity : (ofFiles files : PerformanceReport K).density ≤
      (ofFiles others : PerformanceReport K).density := by
    rw [density_ofFiles, density_ofFiles, hfunctions.length_eq]
    have hflagged : ((functionsIn files).countP (·.isFlagged) : K) ≤
        ((functionsIn others).countP (·.isFlagged) : ℕ) :=
      Nat.cast_le.2 (countP_isFlagged_le hfunctions)
    gcongr
  have hshare : (0 : K) ≤ 1 - (ofFiles others : PerformanceReport K).density :=
    sub_nonneg.2 (density_mem_Icc others).2
  rw [score_ofFiles, score_ofFiles]
  refine clampScore_mono ?_
  gcongr

/-- **The costly functions of a repository**: the report accounts for all functions and findings
outside of test files, lists the first twenty findings, and its density is a share. What test files
there are changes nothing, and costlier operations never raise the score nor lower the number of
flagged functions. -/
theorem ofFiles_accountsFor (files others : List FileFacts) :
    let report : PerformanceReport K := ofFiles files
    let report' : PerformanceReport K := ofFiles others
    AccountsFor files report ∧ (0 ≤ report.density ∧ report.density ≤ 1) ∧
      (productionOf others = productionOf files → report' = report) ∧
      (List.Forall₂ FileFacts.NoCheaper files others →
        report'.score ≤ report.score ∧ report.flaggedFunctions ≤ report'.flaggedFunctions) := by
  refine ⟨accountsFor_ofFiles files, density_mem_Icc files, ofFiles_congr, fun h => ?_⟩
  exact ⟨score_le_score h, countP_isFlagged_le (forall₂_functionsIn h)⟩

/-- A function that reads in a loop, and once it does not; between test files or before one. -/
theorem ofFiles_accountsFor_two_functions :
    let file (ioInLoop : ℕ) : FileFacts :=
      { path := "a.go", language := .go
        functions := [{ name := "load", line := 3, maxLoopDepth := 3 },
          { name := "save", line := 9, ioInLoop }] }
    let test (maxLoopDepth : ℕ) : FileFacts :=
      { path := "a_test.go", language := .go, tests := { isTestFile := true }
        functions := [{ name := "check", line := 2, maxLoopDepth }] }
    let before : PerformanceReport ℚ := ofFiles [file 0, test 1]
    let after : PerformanceReport ℚ := ofFiles [file 1, test 1]
    before.flaggedFunctions = 1 ∧ after.flaggedFunctions = 2 ∧ after.issues.total = 2 ∧
      AccountsFor [file 1, test 1] after ∧ after.score ≤ before.score ∧
      ofFiles [test 7, file 1, test 4] = after := by
  intro file test before after
  have hcostlier : List.Forall₂ FileFacts.NoCheaper [file 0, test 1] [file 1, test 1] := by
    refine .cons ⟨rfl, .cons ?_ (.cons ?_ .nil)⟩ (.cons ⟨rfl, .cons ?_ .nil⟩ .nil)
    · exact ⟨le_refl _, le_refl _, le_refl _⟩
    · exact ⟨le_refl _, Nat.zero_le 1, le_refl _⟩
    · exact ⟨le_refl _, le_refl _, le_refl _⟩
  obtain ⟨haccounts, -, hsame, -⟩ :=
    ofFiles_accountsFor (K := ℚ) [file 1, test 1] [test 7, file 1, test 4]
  obtain ⟨-, -, -, hworse⟩ := ofFiles_accountsFor (K := ℚ) [file 0, test 1] [file 1, test 1]
  refine ⟨by decide, by decide, ?_, haccounts, (hworse hcostlier).1, hsame rfl⟩
  rw [total_issues_ofFiles]
  decide

end PerformanceReport

end Affinity
