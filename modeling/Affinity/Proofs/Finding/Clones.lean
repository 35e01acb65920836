import Mathlib.Data.Set.Card
import Mathlib.Tactic.TFAE
import Affinity.Proofs.Finding.Windows
import Affinity.Proofs.Scalar.Exact
import Affinity.Proofs.Table.Laws

/-!
# What the clone detector reports

A run of lines recurs if it begins at two places of the repository. A place is cloned if a recurring
run covers it, and copied if a run covers it that begins earlier too, in an earlier file or at an
earlier place of the same file. The report counts the copied places, the recurring runs and the
files with a cloned place. If one of these counts is zero, all of them are.

* `Recurs`, `Cloned`, `Copied` — what is counted.
* `recurs_iff` — a run recurs exactly if its window is counted twice.
* `DuplicationReport.getElem?_coverages` — what is known of a file when the detector comes to it.
* `DuplicationReport.encard_copied`, `DuplicationReport.encard_cloned` — the counts of one file.
* `DuplicationReport.ofFiles_describesClones` — the counts of the report.
-/

namespace Affinity

/-! ## Runs of a repository -/

/-- The run begins at a place of the repository: the number of a file, and a place in this file. -/
def RunAt (size : Nat) (files : List FileFacts) (place : Nat × Nat) (run : Window) : Prop :=
  ∃ f, files[place.1]? = some f ∧ BeginsAt size f.fingerprints place.2 run

/-- In an earlier file, or earlier in the same file. -/
def Before (a b : Nat × Nat) : Prop := a.1 < b.1 ∨ a.1 = b.1 ∧ a.2 < b.2

/-- The run begins at two places at least. -/
def Recurs (size : Nat) (files : List FileFacts) (run : Window) : Prop :=
  ∃ a b, a ≠ b ∧ RunAt size files a run ∧ RunAt size files b run

/-- A recurring run covers the place. -/
def Cloned (size : Nat) (files : List FileFacts) (place : Nat × Nat) : Prop :=
  ∃ start run, RunAt size files (place.1, start) run ∧ start ≤ place.2 ∧ place.2 < start + size ∧
    Recurs size files run

/-- A run that also begins earlier covers the place. -/
def Copied (size : Nat) (files : List FileFacts) (place : Nat × Nat) : Prop :=
  ∃ start run, RunAt size files (place.1, start) run ∧ start ≤ place.2 ∧ place.2 < start + size ∧
    ∃ earlier, Before earlier (place.1, start) ∧ RunAt size files earlier run

theorem runAt_iff {size : Nat} {files : List FileFacts} {i s : Nat} {f : FileFacts} {run : Window}
    (hf : files[i]? = some f) :
    RunAt size files (i, s) run ↔ BeginsAt size f.fingerprints s run := by
  simp [RunAt, hf]

theorem Before.ne {a b : Nat × Nat} (h : Before a b) : a ≠ b := by
  rintro rfl
  rcases h with h | ⟨-, h⟩ <;> exact Nat.lt_irrefl _ h

theorem before_or_before {a b : Nat × Nat} (h : a ≠ b) : Before a b ∨ Before b a := by
  have hne : a.1 ≠ b.1 ∨ a.2 ≠ b.2 := by
    by_contra! hboth
    exact h (Prod.ext hboth.1 hboth.2)
  unfold Before
  omega

/-- Of the places of a recurring run one is before another. -/
theorem Recurs.exists_before {size : Nat} {files : List FileFacts} {run : Window}
    (h : Recurs size files run) :
    ∃ a b, Before a b ∧ RunAt size files a run ∧ RunAt size files b run := by
  obtain ⟨a, b, hne, ha, hb⟩ := h
  rcases before_or_before hne with hbefore | hbefore
  · exact ⟨a, b, hbefore, ha, hb⟩
  · exact ⟨b, a, hbefore, hb, ha⟩

theorem Copied.cloned {size : Nat} {files : List FileFacts} {place : Nat × Nat}
    (h : Copied size files place) : Cloned size files place := by
  obtain ⟨start, run, hrun, hle, hlt, earlier, hbefore, hearlier⟩ := h
  exact ⟨start, run, hrun, hle, hlt, earlier, _, hbefore.ne, hearlier, hrun⟩

/-- Where runs recur there are copied places. -/
theorem Recurs.exists_copied {size : Nat} (hsize : 0 < size) {files : List FileFacts}
    {run : Window} (h : Recurs size files run) : ∃ place, Copied size files place := by
  obtain ⟨a, b, hbefore, ha, hb⟩ := h.exists_before
  exact ⟨b, b.2, run, hb, Nat.le_refl _, Nat.lt_add_of_pos_right hsize, a, hbefore, ha⟩

/-! ## Counts of runs -/

/-- How often each window of the files occurs. -/
def countsOf (size : Nat) (files : List FileFacts) : Std.HashMap Window Nat :=
  countWindows (files.flatMap fun f => windowsOf size f.fingerprints)

/-- The count of a window is the number of places where it begins. -/
theorem encard_runAt {size : Nat} (hsize : 0 < size) (files : List FileFacts) (run : Window) :
    {place | RunAt size files place run}.encard = ((countsOf size files).getD run 0 : ℕ) := by
  have hfile : ∀ i, {s | RunAt size files (i, s) run}.encard =
      ((files.map fun f => (windowsOf size f.fingerprints).count run)[i]?.getD 0 : ℕ) := by
    intro i
    rw [List.getElem?_map]
    cases hf : files[i]? with
    | none => simp [RunAt, hf]
    | some f =>
      rw [Option.map_some, Option.getD_some, List.count, ← encard_indices]
      congr 1
      ext s
      simp [RunAt, hf, ← getElem?_windowsOf hsize]
  rw [countsOf, getD_countWindows, List.count_flatMap]
  exact encard_pairs (fun i => {s | RunAt size files (i, s) run}) _ hfile

/-- **A run recurs** exactly if it is counted at least twice. -/
theorem recurs_iff {size : Nat} (hsize : 0 < size) {files : List FileFacts} {run : Window} :
    Recurs size files run ↔ 2 ≤ (countsOf size files).getD run 0 := by
  have hcount := encard_runAt hsize files run
  constructor
  · rintro ⟨a, b, hne, ha, hb⟩
    have hlt : 1 < {place | RunAt size files place run}.encard :=
      Set.one_lt_encard_iff.2 ⟨a, b, ha, hb, hne⟩
    rw [hcount] at hlt
    exact_mod_cast hlt
  · intro htwice
    have hlt : 1 < {place | RunAt size files place run}.encard := by
      rw [hcount]
      exact_mod_cast htwice
    obtain ⟨a, b, ha, hb, hne⟩ := Set.one_lt_encard_iff.1 hlt
    exact ⟨a, b, hne, ha, hb⟩

namespace DuplicationReport

variable {K : Type} [Scalar K]

/-! ## The files one after the other -/

/-- What was seen after some files. -/
def seenAfter (size : Nat) (counts : Std.HashMap Window Nat) (seen : Std.HashMap Window Unit)
    (files : List FileFacts) : Std.HashMap Window Unit :=
  files.foldl (fun seen f => (occurrences counts seen (windowsOf size f.fingerprints).zipIdx).1)
    seen

/-- The covered places of one file. -/
def coverageOf (size : Nat) (counts : Std.HashMap Window Nat) (seen : Std.HashMap Window Unit)
    (f : FileFacts) : Coverage :=
  let found := (occurrences counts seen (windowsOf size f.fingerprints).zipIdx).2
  { path := f.path
    lines := f.fingerprints.length
    cloned := coveredPlaces size 0 (found.map (·.start))
    copied := coveredPlaces size 0 ((found.filter (·.isCopy)).map (·.start)) }

/-- Each file is looked at with what was seen in the files before it. -/
theorem getElem?_coverages (size : Nat) (counts : Std.HashMap Window Nat)
    (seen : Std.HashMap Window Unit) (files : List FileFacts) (i : Nat) :
    (coverages size counts seen files)[i]? =
      files[i]?.map (coverageOf size counts (seenAfter size counts seen (files.take i))) := by
  induction files generalizing seen i with
  | nil => rfl
  | cons f rest ih =>
    cases i with
    | zero => rfl
    | succ i => exact ih _ i

theorem mem_seenAfter_iff (size : Nat) (counts : Std.HashMap Window Nat)
    (seen : Std.HashMap Window Unit) (files : List FileFacts) (w : Window) :
    w ∈ seenAfter size counts seen files ↔
      w ∈ seen ∨ 2 ≤ counts.getD w 0 ∧ ∃ f ∈ files, w ∈ windowsOf size f.fingerprints := by
  induction files generalizing seen with
  | nil => simp [seenAfter]
  | cons f rest ih =>
    have hwindow : (∃ s, (w, s) ∈ (windowsOf size f.fingerprints).zipIdx) ↔
        w ∈ windowsOf size f.fingerprints := by
      rw [List.mem_iff_getElem?]
      exact exists_congr fun s => List.mem_zipIdx_iff_getElem?
    rw [seenAfter, List.foldl_cons, ← seenAfter, ih, mem_seen_iff, hwindow, or_assoc, ← and_or_left]
    simp

/-- What was seen before a file are the recurring runs of the files before it. -/
theorem mem_seenAfter_take_iff {size : Nat} (hsize : 0 < size) {files : List FileFacts} {i : Nat}
    {run : Window} :
    run ∈ seenAfter size (countsOf size files) {} (files.take i) ↔
      Recurs size files run ∧ ∃ j < i, ∃ s, RunAt size files (j, s) run := by
  rw [mem_seenAfter_iff, ← recurs_iff hsize]
  simp only [Std.HashMap.not_mem_empty, false_or]
  refine and_congr_right fun _ => ?_
  constructor
  · rintro ⟨f, hf, hrun⟩
    obtain ⟨j, hj⟩ := List.mem_iff_getElem?.1 hf
    obtain ⟨s, hs⟩ := (mem_windowsOf_iff hsize).1 hrun
    rw [List.getElem?_take] at hj
    split at hj
    case isTrue hlt => exact ⟨j, hlt, s, f, hj, hs⟩
    case isFalse => cases hj
  · rintro ⟨j, hlt, s, f, hj, hs⟩
    refine ⟨f, List.mem_iff_getElem?.2 ⟨j, ?_⟩, (mem_windowsOf_iff hsize).2 ⟨s, hs⟩⟩
    rwa [List.getElem?_take_of_lt hlt]

/-! ## The counts of one file -/

theorem pairwise_starts (size : Nat) (counts : Std.HashMap Window Nat)
    (seen : Std.HashMap Window Unit) (f : FileFacts) :
    ((occurrences counts seen (windowsOf size f.fingerprints).zipIdx).2.map (·.start)).Pairwise
      (· < ·) :=
  (List.pairwise_map.2 (pairwise_zipIdx _)).sublist (starts_sublist counts seen _)

theorem pairwise_copyStarts (size : Nat) (counts : Std.HashMap Window Nat)
    (seen : Std.HashMap Window Unit) (f : FileFacts) :
    (((occurrences counts seen (windowsOf size f.fingerprints).zipIdx).2.filter (·.isCopy)).map
      (·.start)).Pairwise (· < ·) :=
  (pairwise_starts size counts seen f).sublist (List.filter_sublist.map Occurrence.start)

/-- **The clones of a file**: its count is the number of its cloned places. -/
theorem encard_cloned {size : Nat} (hsize : 0 < size) (files : List FileFacts) (i : Nat) :
    {p | Cloned size files (i, p)}.encard =
      (((coverages size (countsOf size files) {} files).map (·.cloned))[i]?.getD 0 : ℕ) := by
  rw [List.getElem?_map, getElem?_coverages]
  cases hf : files[i]? with
  | none => simp [Cloned, RunAt, hf]
  | some f =>
    simp only [Option.map_some, Option.getD_some, coverageOf]
    rw [← encard_covered size 0 (pairwise_starts size _ _ f)]
    congr 1
    ext p
    simp only [Set.mem_ofPred_eq, Nat.zero_le, true_and, Cloned, mem_clones_iff, runAt_iff hf,
      mem_zipIdx_windowsOf_iff hsize, recurs_iff hsize]
    constructor
    · rintro ⟨start, run, hrun, hle, hlt, hrecurs⟩
      exact ⟨start, ⟨run, hrun, hrecurs⟩, hle, hlt⟩
    · rintro ⟨start, ⟨run, hrun, hrecurs⟩, hle, hlt⟩
      exact ⟨start, run, hrun, hle, hlt, hrecurs⟩

/-- A run of a file begins earlier too if it was seen before the file or begins before in it. -/
theorem exists_before_iff {size : Nat} (hsize : 0 < size) {files : List FileFacts} {i start : Nat}
    {f : FileFacts} {run : Window} (hf : files[i]? = some f)
    (hrun : BeginsAt size f.fingerprints start run) :
    (∃ earlier, Before earlier (i, start) ∧ RunAt size files earlier run) ↔
      Recurs size files run ∧
        (run ∈ seenAfter size (countsOf size files) {} (files.take i) ∨
          ∃ earlier < start, BeginsAt size f.fingerprints earlier run) := by
  rw [mem_seenAfter_take_iff hsize]
  constructor
  · rintro ⟨⟨j, s⟩, hbefore, hearlier⟩
    have hrecurs : Recurs size files run :=
      ⟨(j, s), (i, start), hbefore.ne, hearlier, (runAt_iff hf).2 hrun⟩
    refine ⟨hrecurs, ?_⟩
    rcases hbefore with hlt | ⟨rfl, hlt⟩
    · exact .inl ⟨hrecurs, j, hlt, s, hearlier⟩
    · exact .inr ⟨s, hlt, (runAt_iff hf).1 hearlier⟩
  · rintro ⟨-, ⟨-, j, hlt, s, hearlier⟩ | ⟨s, hlt, hearlier⟩⟩
    · exact ⟨(j, s), .inl hlt, hearlier⟩
    · exact ⟨(i, s), .inr ⟨rfl, hlt⟩, (runAt_iff hf).2 hearlier⟩

/-- **The copies of a file**: its count is the number of its copied places. -/
theorem encard_copied {size : Nat} (hsize : 0 < size) (files : List FileFacts) (i : Nat) :
    {p | Copied size files (i, p)}.encard =
      (((coverages size (countsOf size files) {} files).map (·.copied))[i]?.getD 0 : ℕ) := by
  rw [List.getElem?_map, getElem?_coverages]
  cases hf : files[i]? with
  | none => simp [Copied, RunAt, hf]
  | some f =>
    simp only [Option.map_some, Option.getD_some, coverageOf]
    rw [← encard_covered size 0 (pairwise_copyStarts size _ _ f)]
    congr 1
    ext p
    simp only [Set.mem_ofPred_eq, Nat.zero_le, true_and, Copied,
      mem_copies_iff _ _ (pairwise_zipIdx _), runAt_iff hf, mem_zipIdx_windowsOf_iff hsize,
      ← recurs_iff hsize]
    constructor
    · rintro ⟨start, run, hrun, hle, hlt, hbefore⟩
      exact ⟨start, ⟨run, hrun, (exists_before_iff hsize hf hrun).1 hbefore⟩, hle, hlt⟩
    · rintro ⟨start, ⟨run, hrun, hrecurs⟩, hle, hlt⟩
      exact ⟨start, run, hrun, hle, hlt, (exists_before_iff hsize hf hrun).2 hrecurs⟩

/-! ## The counts of the report -/

theorem map_lines_coverages (size : Nat) (counts : Std.HashMap Window Nat)
    (seen : Std.HashMap Window Unit) (files : List FileFacts) :
    (coverages size counts seen files).map (·.lines) =
      files.map fun f => f.fingerprints.length := by
  induction files generalizing seen with
  | nil => rfl
  | cons f rest ih => exact congrArg (f.fingerprints.length :: ·) (ih _)

/-- Progress is reported once for each file, in their order. -/
theorem progress_eq (size : Nat) (files : List FileFacts) :
    progress size files = (List.range files.length).map fun i => (i + 1, files.length) := by
  have hlength : (coverages size (countsOf size files) {} files).length = files.length := by
    simpa using congrArg List.length (map_lines_coverages size (countsOf size files) {} files)
  show (coverages size (countsOf size files) {} files).zipIdx.map
    ((fun done => (done + 1, files.length)) ∘ Prod.snd) = _
  rw [← List.map_map, List.zipIdx_map_snd, hlength, List.range_eq_range']

theorem lines_ofFiles (size : Nat) (files : List FileFacts) :
    (ofFiles size files : DuplicationReport K).lines =
      sumOf (files.map fun f => f.fingerprints.length) :=
  congrArg sumOf (map_lines_coverages size _ {} files)

theorem encard_copied_ofFiles {size : Nat} (hsize : 0 < size) (files : List FileFacts) :
    {place | Copied size files place}.encard =
      (ofFiles size files : DuplicationReport K).duplicatedLines :=
  encard_pairs (fun i => {p | Copied size files (i, p)}) _ (encard_copied hsize files)

theorem encard_recurs_ofFiles {size : Nat} (hsize : 0 < size) (files : List FileFacts) :
    {run | Recurs size files run}.encard =
      (ofFiles size files : DuplicationReport K).duplicatedBlocks := by
  simp only [recurs_iff hsize, countsOf, getD_countWindows]
  exact encard_recurring _

theorem encard_cloned_ofFiles {size : Nat} (hsize : 0 < size) (files : List FileFacts) :
    {i | ∃ p, Cloned size files (i, p)}.encard =
      (ofFiles size files : DuplicationReport K).filesWithDuplicates := by
  refine Eq.trans ?_ (encard_indices (fun c : Coverage => decide (0 < c.cloned))
    (coverages size (countsOf size files) {} files))
  congr 1
  ext i
  have hcount := encard_cloned hsize files i
  rw [List.getElem?_map] at hcount
  have hnonempty : (∃ p, Cloned size files (i, p)) ↔
      {p | Cloned size files (i, p)}.encard ≠ 0 := by
    rw [Set.encard_ne_zero]
    rfl
  simp only [Set.mem_ofPred_eq, hnonempty, hcount, decide_eq_true_iff, Nat.cast_ne_zero,
    ← Nat.pos_iff_ne_zero]
  cases (coverages size (countsOf size files) {} files)[i]? <;> simp

/-! ## Not all lines are copied -/

theorem encard_places (files : List FileFacts) :
    {place : ℕ × ℕ | ∃ f, files[place.1]? = some f ∧ place.2 < f.fingerprints.length}.encard =
      (sumOf (files.map fun f => f.fingerprints.length) : ℕ) := by
  refine encard_pairs (fun i => {p | ∃ f, files[i]? = some f ∧ p < f.fingerprints.length}) _
    fun i => ?_
  rw [List.getElem?_map]
  cases hf : files[i]? with
  | none => simp
  | some f =>
    have hrange : {p | ∃ g, some f = some g ∧ p < g.fingerprints.length} =
        ↑(Finset.range f.fingerprints.length) := by
      ext p
      simp
    rw [hrange, Set.encard_coe_eq_coe_finsetCard, Finset.card_range]
    rfl

theorem RunAt.lt_length {size : Nat} (hsize : 0 < size) {files : List FileFacts} {i start p : Nat}
    {run : Window} (hrun : RunAt size files (i, start) run) (hp : p < start + size) :
    ∃ f, files[i]? = some f ∧ p < f.fingerprints.length := by
  obtain ⟨f, hf, hbegins⟩ := hrun
  exact ⟨f, hf, hp.trans_le (hbegins.add_le hsize)⟩

/-- The first line of all is not copied. -/
theorem exists_not_copied {size : Nat} (hsize : 0 < size) {files : List FileFacts}
    (hlines : 0 < sumOf (files.map fun f => f.fingerprints.length)) :
    ∃ place : ℕ × ℕ, (∃ f, files[place.1]? = some f ∧ place.2 < f.fingerprints.length) ∧
      ¬ Copied size files place := by
  have hsome : ∃ (i : ℕ) (f : FileFacts), files[i]? = some f ∧ 0 < f.fingerprints.length := by
    by_contra! hnone
    refine hlines.ne' (List.sum_eq_zero fun n hn => ?_)
    obtain ⟨f, hf, rfl⟩ := List.mem_map.1 hn
    obtain ⟨i, hi⟩ := List.mem_iff_getElem?.1 hf
    exact Nat.le_zero.1 (hnone i f hi)
  classical
  -- the first place of the first file with lines: no run begins in an earlier file
  obtain ⟨f, hf, hpos⟩ := Nat.find_spec hsome
  refine ⟨(Nat.find hsome, 0), ⟨f, hf, hpos⟩, ?_⟩
  rintro ⟨start, run, -, hle, -, ⟨j, s⟩, hbefore, hearlier⟩
  have hlt : j < Nat.find hsome := by
    rcases hbefore with hlt | ⟨-, hlt⟩
    · exact hlt
    · exact absurd (Nat.le_zero.1 hle ▸ hlt) (Nat.not_lt_zero s)
  obtain ⟨g, hg, hg'⟩ := RunAt.lt_length hsize hearlier (Nat.lt_add_of_pos_right hsize)
  exact Nat.find_min hsome hlt ⟨g, hg, (Nat.zero_le s).trans_lt hg'⟩

theorem duplicatedLines_lt_lines {size : Nat} (hsize : 0 < size) (files : List FileFacts)
    (hlines : 0 < (ofFiles size files : DuplicationReport K).lines) :
    (ofFiles size files : DuplicationReport K).duplicatedLines <
      (ofFiles size files : DuplicationReport K).lines := by
  have hcopied := encard_copied_ofFiles (K := K) hsize files
  rw [lines_ofFiles] at hlines ⊢
  have hsubset : {place | Copied size files place} ⊂
      {place : ℕ × ℕ | ∃ f, files[place.1]? = some f ∧ place.2 < f.fingerprints.length} := by
    refine ⟨?_, fun hall => ?_⟩
    · rintro ⟨i, p⟩ ⟨start, run, hrun, -, hlt, -⟩
      exact RunAt.lt_length hsize hrun hlt
    · obtain ⟨place, hplace, hnot⟩ := exists_not_copied hsize hlines
      exact hnot (hall hplace)
  have hlt := (Set.finite_of_encard_eq_coe hcopied).encard_lt_encard hsubset
  rw [hcopied, encard_places] at hlt
  exact_mod_cast hlt

/-! ## The most duplicated file -/

theorem foldl_best_eq_none_iff (files : List Coverage) (best : Option Coverage) :
    files.foldl (fun best f =>
      match best with
      | some b => if b.cloned < f.cloned then some f else best
      | none => some f) best = none ↔ best = none ∧ files = [] := by
  induction files generalizing best with
  | nil => simp
  | cons f rest ih =>
    rw [List.foldl_cons, ih]
    cases best with
    | none => simp
    | some b => by_cases hmore : b.cloned < f.cloned <;> simp [hmore]

/-- There is a most duplicated file if some file has a clone. -/
theorem mostDuplicatedOf_eq_none_iff (files : List Coverage) :
    mostDuplicatedOf files = none ↔ files.countP (fun f => 0 < f.cloned) = 0 := by
  refine (foldl_best_eq_none_iff _ none).trans ?_
  rw [Table.values, List.map_eq_nil_iff, Table.entries_ofList_eq_nil_iff, List.map_eq_nil_iff,
    List.filter_eq_nil_iff, List.countP_eq_zero]
  simp

/-! ## The report -/

/-- What a report of duplicates has to say about some files. -/
structure DescribesClones (size : Nat) (files : List FileFacts) (report : DuplicationReport K) :
    Prop where
  lines : report.lines = sumOf (files.map fun f => f.fingerprints.length)
  duplicatedLines : {place | Copied size files place}.encard = report.duplicatedLines
  duplicatedBlocks : {run | Recurs size files run}.encard = report.duplicatedBlocks
  filesWithDuplicates : {i | ∃ p, Cloned size files (i, p)}.encard = report.filesWithDuplicates
  lt_lines : 0 < report.lines → report.duplicatedLines < report.lines
  /-- All of these are zero, or none of them is. -/
  zeros : [report.duplicatedLines = 0, report.duplicatedBlocks = 0, report.filesWithDuplicates = 0,
    report.mostDuplicated = none].TFAE

theorem zeros_ofFiles {size : Nat} (hsize : 0 < size) (files : List FileFacts) :
    [(ofFiles size files : DuplicationReport K).duplicatedLines = 0,
      (ofFiles size files : DuplicationReport K).duplicatedBlocks = 0,
      (ofFiles size files : DuplicationReport K).filesWithDuplicates = 0,
      (ofFiles size files : DuplicationReport K).mostDuplicated = none].TFAE := by
  have hlines : (ofFiles size files : DuplicationReport K).duplicatedLines = 0 ↔
      ∀ place, ¬ Copied size files place :=
    eq_zero_iff_of_encard (encard_copied_ofFiles hsize files)
  have hblocks : (ofFiles size files : DuplicationReport K).duplicatedBlocks = 0 ↔
      ∀ run, ¬ Recurs size files run :=
    eq_zero_iff_of_encard (encard_recurs_ofFiles hsize files)
  have hfiles : (ofFiles size files : DuplicationReport K).filesWithDuplicates = 0 ↔
      ∀ i, ¬ ∃ p, Cloned size files (i, p) :=
    eq_zero_iff_of_encard (encard_cloned_ofFiles hsize files)
  tfae_have 1 → 2 := fun h => hblocks.2 fun run hrun => by
    obtain ⟨place, hplace⟩ := hrun.exists_copied hsize
    exact hlines.1 h place hplace
  tfae_have 2 → 3 := fun h => hfiles.2 fun i ⟨p, start, run, _, _, _, hrun⟩ => hblocks.1 h run hrun
  tfae_have 3 → 1 := fun h =>
    hlines.2 fun place hplace => hfiles.1 h place.1 ⟨place.2, hplace.cloned⟩
  tfae_have 3 ↔ 4 := by
    rw [ofFiles, Option.map_eq_none_iff]
    exact (mostDuplicatedOf_eq_none_iff _).symm
  tfae_finish

/-- **The clone detector** reports the copied places, the recurring runs and the files with clones
as they are defined. It asks only for counts that exist, and marks only lines that exist. -/
theorem ofFiles_describesClones {size : Nat} (hsize : 0 < size) (files : List FileFacts) :
    DescribesClones size files (ofFiles size files : DuplicationReport K) ∧
      ∀ f ∈ files, ∀ entry ∈ (windowsOf size f.fingerprints).zipIdx,
        entry.1 ∈ countsOf size files ∧ entry.2 + size ≤ f.fingerprints.length := by
  refine ⟨⟨lines_ofFiles size files, encard_copied_ofFiles hsize files,
    encard_recurs_ofFiles hsize files, encard_cloned_ofFiles hsize files,
    duplicatedLines_lt_lines hsize files, zeros_ofFiles hsize files⟩, ?_⟩
  rintro f hf ⟨run, start⟩ hentry
  have hbegins : BeginsAt size f.fingerprints start run :=
    (mem_zipIdx_windowsOf_iff hsize).1 hentry
  have hwindow : run ∈ windowsOf size f.fingerprints := (mem_windowsOf_iff hsize).2 ⟨start, hbegins⟩
  exact ⟨mem_countWindows_of_mem (List.mem_flatMap.2 ⟨f, hf, hwindow⟩), hbegins.add_le hsize⟩

/-- A file in which a run recurs, its occurrences overlapping, and a file with the same run. -/
theorem ofFiles_describesClones_two_files :
    let files : List FileFacts :=
      [{ path := "a.py", language := .python, fingerprints := ["x", "x", "x"] },
        { path := "b.py", language := .python, fingerprints := ["y", "x", "x"] }]
    0 < 2 ∧ Copied 2 files (0, 2) ∧ Copied 2 files (1, 1) ∧
      DescribesClones 2 files (ofFiles 2 files : DuplicationReport ℚ) ∧
      ∀ f ∈ files, ∀ entry ∈ (windowsOf 2 f.fingerprints).zipIdx,
        entry.1 ∈ countsOf 2 files ∧ entry.2 + 2 ≤ f.fingerprints.length := by
  intro files
  have hfirst : RunAt 2 files (0, 0) ["x", "x"] := ⟨_, rfl, rfl, by decide⟩
  have hsecond : RunAt 2 files (0, 1) ["x", "x"] := ⟨_, rfl, rfl, by decide⟩
  have hthird : RunAt 2 files (1, 1) ["x", "x"] := ⟨_, rfl, rfl, by decide⟩
  refine ⟨by decide, ?_, ?_, ofFiles_describesClones (by decide) files⟩
  · exact ⟨1, _, hsecond, by decide, by decide, (0, 0), .inr ⟨rfl, by decide⟩, hfirst⟩
  · exact ⟨1, _, hthird, by decide, by decide, (0, 1), .inl (by decide), hsecond⟩

end DuplicationReport

end Affinity
