import Affinity.Proofs.Finding.Clones

/-!
# What a verbatim copy costs

Of the occurrences of a window all but the first are copies, so the copied lines can be counted
file by file from the windows of the files before. A second file with the lines of an earlier one is
copied as a whole and changes nothing else: it adds as many copied lines as it has lines.

A copy behind its original therefore always lowers a score above zero. A copy in front of it takes
the place of the original, which becomes the copy. Files in between are then copies of it where it
was a copy of them, and that can be fewer lines: windows that overlap in one file may lie apart in
the other. The score falls exactly if not too many copied lines are lost this way.

* `DuplicationReport.duplicatedLines_ofFiles` — the copied lines, counted without tables.
* `DuplicationReport.duplicatedLines_insert` — what a file adds whose windows all occurred before.
* `DuplicationReport.score_insertIdx_lt_iff` — when a verbatim copy lowers the score.
* `DuplicationReport.score_lt_score_insertIdx` — a copy in front of its original that raises it.
-/

namespace Affinity

/-! ## The windows of a file that occurred before -/

/-- The places of a file where a window begins that is one of the earlier ones or begins at an
earlier place of the file. -/
def copyStarts (size : Nat) (earlier : List Window) (lines : List String) : List Nat :=
  ((windowsOf size lines).zipIdx.filter fun entry =>
    entry.1 ∈ earlier ∨ entry.1 ∈ (windowsOf size lines).take entry.2).map (·.2)

/-- The copied lines of some files, given the windows of the files before them. -/
def copiedLines (size : Nat) : List Window → List FileFacts → Nat
  | _, [] => 0
  | earlier, f :: rest =>
    coveredPlaces size 0 (copyStarts size earlier f.fingerprints) +
      copiedLines size (earlier ++ windowsOf size f.fingerprints) rest

theorem mem_copyStarts_iff {size : Nat} {earlier : List Window} {lines : List String}
    {start : Nat} :
    start ∈ copyStarts size earlier lines ↔
      ∃ w, (windowsOf size lines)[start]? = some w ∧
        (w ∈ earlier ∨ w ∈ (windowsOf size lines).take start) := by
  simp [copyStarts, List.mem_zipIdx_iff_getElem?]

theorem pairwise_copyStarts_lt (size : Nat) (earlier : List Window) (lines : List String) :
    (copyStarts size earlier lines).Pairwise (· < ·) :=
  List.pairwise_map.2 ((pairwise_zipIdx _).sublist List.filter_sublist)

/-- Only which windows are the earlier ones matters. -/
theorem copiedLines_congr {size : Nat} {earlier others : List Window}
    (h : ∀ w, w ∈ earlier ↔ w ∈ others) (files : List FileFacts) :
    copiedLines size earlier files = copiedLines size others files := by
  induction files generalizing earlier others with
  | nil => rfl
  | cons f rest ih =>
    have hstarts : copyStarts size earlier f.fingerprints =
        copyStarts size others f.fingerprints := by
      simp only [copyStarts, h]
    have hrest : ∀ w, w ∈ earlier ++ windowsOf size f.fingerprints ↔
        w ∈ others ++ windowsOf size f.fingerprints := by
      intro w
      rw [List.mem_append, List.mem_append, h]
    rw [copiedLines, copiedLines, hstarts, ih hrest]

/-! ## A file whose windows all occurred before -/

theorem length_windowsOf {size : Nat} (hsize : 0 < size) (lines : List String) :
    (windowsOf size lines).length = lines.length + 1 - size := by
  induction lines with
  | nil =>
    rw [windowsOf, List.length_nil, List.length_nil]
    omega
  | cons line rest ih =>
    rw [windowsOf, List.length_take]
    split
    case isTrue hfits =>
      rw [List.length_cons] at hfits
      rw [List.length_cons, ih, List.length_cons]
      omega
    case isFalse hshort =>
      rw [List.length_cons] at hshort
      rw [List.length_nil, List.length_cons]
      omega

/-- Windows that begin at all places from one on cover all places from there on. -/
theorem coveredPlaces_range' {size : Nat} (hsize : 0 < size) (reached start n : Nat)
    (h : reached ≤ start + size) :
    coveredPlaces size reached (List.range' start (n + 1)) =
      start + size - max reached start + n := by
  induction n generalizing reached start with
  | zero => simp [coveredPlaces]
  | succ n ih =>
    rw [List.range'_succ, coveredPlaces, max_eq_right h, ih _ _ (by omega)]
    omega

theorem copyStarts_of_subset {size : Nat} {earlier : List Window} {lines : List String}
    (h : windowsOf size lines ⊆ earlier) :
    copyStarts size earlier lines = List.range' 0 (windowsOf size lines).length := by
  have hall : ∀ entry ∈ (windowsOf size lines).zipIdx,
      decide (entry.1 ∈ earlier ∨ entry.1 ∈ (windowsOf size lines).take entry.2) = true := by
    intro entry hentry
    exact decide_eq_true (.inl (h (List.fst_mem_of_mem_zipIdx hentry)))
  rw [copyStarts, List.filter_eq_self.2 hall, List.zipIdx_map_snd]

/-- All lines of such a file are copied. -/
theorem coveredPlaces_copyStarts_of_subset {size : Nat} (hsize : 0 < size) {earlier : List Window}
    {lines : List String} (h : windowsOf size lines ⊆ earlier) (hlong : size ≤ lines.length) :
    coveredPlaces size 0 (copyStarts size earlier lines) = lines.length := by
  have hlength : (windowsOf size lines).length = lines.length - size + 1 := by
    rw [length_windowsOf hsize]
    omega
  rw [copyStarts_of_subset h, hlength, coveredPlaces_range' hsize 0 0 _ (Nat.zero_le _)]
  omega

/-- A file whose windows all occurred before adds its lines to the copied ones. -/
theorem copiedLines_insert {size : Nat} (hsize : 0 < size) {copy : FileFacts}
    (hlong : size ≤ copy.fingerprints.length) (front rest : List FileFacts)
    (earlier : List Window)
    (h : windowsOf size copy.fingerprints ⊆
      earlier ++ front.flatMap fun f => windowsOf size f.fingerprints) :
    copiedLines size earlier (front ++ copy :: rest) =
      copiedLines size earlier (front ++ rest) + copy.fingerprints.length := by
  induction front generalizing earlier with
  | nil =>
    have hearlier : windowsOf size copy.fingerprints ⊆ earlier := by simpa using h
    have hsame : ∀ w, w ∈ earlier ++ windowsOf size copy.fingerprints ↔ w ∈ earlier := by
      intro w
      rw [List.mem_append, or_iff_left_of_imp fun hw => hearlier hw]
    rw [List.nil_append, List.nil_append, copiedLines,
      coveredPlaces_copyStarts_of_subset hsize hearlier hlong, copiedLines_congr hsame,
      Nat.add_comm]
  | cons f front ih =>
    rw [List.cons_append, List.cons_append, copiedLines, copiedLines, ih, Nat.add_assoc]
    simpa using h

namespace DuplicationReport

/-! ## The copied lines of the report -/

section Counting

variable {K : Type} [Scalar K]

/-- A window that begins at a place of a file, and in an earlier file or at an earlier place of it,
is a repeated one. -/
theorem two_le_countsOf {size start : Nat} {before rest : List FileFacts} {f : FileFacts}
    {w : Window} (hw : (windowsOf size f.fingerprints)[start]? = some w)
    (hearlier : (w ∈ before.flatMap fun f => windowsOf size f.fingerprints) ∨
      w ∈ (windowsOf size f.fingerprints).take start) :
    2 ≤ (countsOf size (before ++ f :: rest)).getD w 0 := by
  have hhere : w ∈ (windowsOf size f.fingerprints).drop start := by
    rw [List.mem_iff_getElem?]
    exact ⟨0, by rw [List.getElem?_drop, Nat.add_zero, hw]⟩
  have hsplit := congrArg (List.count w)
    (List.take_append_drop start (windowsOf size f.fingerprints))
  rw [List.count_append] at hsplit
  rw [countsOf, getD_countWindows, List.flatMap_append, List.flatMap_cons, List.count_append,
    List.count_append]
  have hpos := List.count_pos_iff.2 hhere
  rcases hearlier with hbefore | hsame
  · have := List.count_pos_iff.2 hbefore
    omega
  · have := List.count_pos_iff.2 hsame
    omega

/-- The copies that the detector finds in a file begin where a window begins that occurred in a file
before it or earlier in the file. -/
theorem copyStarts_occurrences (size : Nat) (before rest : List FileFacts) (f : FileFacts) :
    ((occurrences (countsOf size (before ++ f :: rest))
        (seenAfter size (countsOf size (before ++ f :: rest)) {} before)
        (windowsOf size f.fingerprints).zipIdx).2.filter (·.isCopy)).map (·.start) =
      copyStarts size (before.flatMap fun f => windowsOf size f.fingerprints) f.fingerprints := by
  refine List.Perm.eq_of_pairwise (fun a b _ _ hab hba => absurd hab hba.not_gt)
    (pairwise_copyStarts size _ _ f) (pairwise_copyStarts_lt size _ _)
    ((List.perm_ext_iff_of_nodup (pairwise_copyStarts size _ _ f).nodup
      (pairwise_copyStarts_lt size _ _).nodup).2 fun start => ?_)
  rw [mem_copies_iff _ _ (pairwise_zipIdx _), mem_copyStarts_iff]
  refine exists_congr fun w => ?_
  simp only [List.mem_zipIdx_iff_getElem?]
  have hseen : w ∈ seenAfter size (countsOf size (before ++ f :: rest)) {} before ↔
      2 ≤ (countsOf size (before ++ f :: rest)).getD w 0 ∧
        w ∈ before.flatMap fun f => windowsOf size f.fingerprints := by
    rw [mem_seenAfter_iff, List.mem_flatMap]
    simp
  have hsame : (∃ earlier < start, (windowsOf size f.fingerprints)[earlier]? = some w) ↔
      w ∈ (windowsOf size f.fingerprints).take start := by
    simp only [List.mem_iff_getElem?, List.getElem?_take]
    refine exists_congr fun earlier => ?_
    by_cases hlt : earlier < start <;> simp [hlt]
  rw [hseen, hsame]
  constructor
  · rintro ⟨hw, -, ⟨-, hbefore⟩ | hearlier⟩
    · exact ⟨hw, .inl hbefore⟩
    · exact ⟨hw, .inr hearlier⟩
  · rintro ⟨hw, hearlier⟩
    have htwice : 2 ≤ (countsOf size (before ++ f :: rest)).getD w 0 := two_le_countsOf hw hearlier
    exact ⟨hw, htwice, hearlier.imp_left fun hbefore => ⟨htwice, hbefore⟩⟩

theorem sumOf_copied_coverages (size : Nat) (before rest : List FileFacts) :
    sumOf ((coverages size (countsOf size (before ++ rest))
        (seenAfter size (countsOf size (before ++ rest)) {} before) rest).map (·.copied)) =
      copiedLines size (before.flatMap fun f => windowsOf size f.fingerprints) rest := by
  induction rest generalizing before with
  | nil => rfl
  | cons f rest ih =>
    have hrest := ih (before ++ [f])
    rw [List.append_assoc, List.singleton_append, List.flatMap_append, List.flatMap_singleton,
      seenAfter, List.foldl_append, ← seenAfter] at hrest
    rw [copiedLines, ← hrest, ← copyStarts_occurrences size before rest f]
    rfl

/-- **The copied lines** of some files are counted from their windows alone. -/
theorem duplicatedLines_ofFiles (size : Nat) (files : List FileFacts) :
    (ofFiles size files : DuplicationReport K).duplicatedLines = copiedLines size [] files :=
  sumOf_copied_coverages size [] files

/-- **A file with the lines of an earlier one** adds its lines to the copied ones. -/
theorem duplicatedLines_insert {size : Nat} (hsize : 0 < size) {front : List FileFacts}
    {original copy : FileFacts} (horiginal : original ∈ front)
    (hcopy : copy.fingerprints = original.fingerprints)
    (hlong : size ≤ copy.fingerprints.length) (rest : List FileFacts) :
    (ofFiles size (front ++ copy :: rest) : DuplicationReport K).duplicatedLines =
      (ofFiles size (front ++ rest) : DuplicationReport K).duplicatedLines +
        copy.fingerprints.length := by
  rw [duplicatedLines_ofFiles, duplicatedLines_ofFiles]
  refine copiedLines_insert hsize hlong front rest [] fun w hw => ?_
  exact List.mem_append_right _ (List.mem_flatMap.2 ⟨original, horiginal, hcopy ▸ hw⟩)

theorem lines_append_cons (size : Nat) (front rest : List FileFacts) (copy : FileFacts) :
    (ofFiles size (front ++ copy :: rest) : DuplicationReport K).lines =
      (ofFiles size (front ++ rest) : DuplicationReport K).lines + copy.fingerprints.length := by
  rw [lines_ofFiles, lines_ofFiles, List.map_append, List.map_append, List.map_cons, sumOf_append,
    sumOf_append, sumOf_cons]
  omega

/-! ## Files put in at a place -/

theorem insertIdx_eq_take_append {α : Type} {k : Nat} {l : List α} (h : k ≤ l.length) (a : α) :
    l.insertIdx k a = l.take k ++ a :: l.drop k := by
  induction k generalizing l with
  | zero => rfl
  | succ k ih =>
    cases l with
    | nil => exact absurd h (Nat.not_succ_le_zero k)
    | cons b l =>
      rw [List.insertIdx_succ_cons, ih (Nat.le_of_succ_le_succ h), List.take_succ_cons,
        List.drop_succ_cons, List.cons_append]

theorem insertIdx_append_of_le {α : Type} {k : Nat} {l : List α} (h : k ≤ l.length) (a : α)
    (rest : List α) : (l ++ rest).insertIdx k a = l.insertIdx k a ++ rest := by
  have hboth : k ≤ (l ++ rest).length := h.trans (List.length_append ▸ Nat.le_add_right _ _)
  rw [insertIdx_eq_take_append hboth, insertIdx_eq_take_append h, List.take_append_of_le_length h,
    List.drop_append_of_le_length h, List.append_assoc, List.cons_append]

theorem lines_insertIdx {size k : Nat} {files : List FileFacts} (hk : k ≤ files.length)
    (copy : FileFacts) :
    (ofFiles size (files.insertIdx k copy) : DuplicationReport K).lines =
      (ofFiles size files : DuplicationReport K).lines + copy.fingerprints.length := by
  rw [insertIdx_eq_take_append hk, lines_append_cons, List.take_append_drop]

/-- A copy behind its original adds its lines to the copied ones. -/
theorem duplicatedLines_insertIdx_of_lt {size : Nat} (hsize : 0 < size) {files : List FileFacts}
    {original copy : FileFacts} {i k : Nat} (horiginal : files[i]? = some original)
    (hk : k ≤ files.length) (hcopy : copy.fingerprints = original.fingerprints)
    (hlong : size ≤ original.fingerprints.length) (hbehind : i < k) :
    (ofFiles size (files.insertIdx k copy) : DuplicationReport K).duplicatedLines =
      (ofFiles size files : DuplicationReport K).duplicatedLines +
        original.fingerprints.length := by
  have hmem : original ∈ files.take k := by
    rw [List.mem_iff_getElem?]
    exact ⟨i, by rw [List.getElem?_take_of_lt hbehind, horiginal]⟩
  rw [insertIdx_eq_take_append hk, duplicatedLines_insert hsize hmem hcopy (hcopy ▸ hlong),
    List.take_append_drop, hcopy]

/-- A copy in front of its original takes its place, and the original adds its lines to the copied
ones. -/
theorem duplicatedLines_insertIdx_of_le {size : Nat} (hsize : 0 < size) {files : List FileFacts}
    {original copy : FileFacts} {i k : Nat} (horiginal : files[i]? = some original)
    (hcopy : copy.fingerprints = original.fingerprints)
    (hlong : size ≤ original.fingerprints.length) (hbefore : k ≤ i) :
    (ofFiles size (files.insertIdx k copy) : DuplicationReport K).duplicatedLines =
      (ofFiles size ((files.eraseIdx i).insertIdx k copy) : DuplicationReport K).duplicatedLines +
        original.fingerprints.length := by
  obtain ⟨hi, hget⟩ := List.getElem?_eq_some_iff.1 horiginal
  have hk : k ≤ (files.take i).length := by
    rw [List.length_take_of_le hi.le]
    exact hbefore
  have hmem : copy ∈ (files.take i).insertIdx k copy := (List.mem_insertIdx hk).2 (.inl rfl)
  have hsplit : files = files.take i ++ original :: files.drop (i + 1) := by
    rw [← hget, List.getElem_cons_drop, List.take_append_drop]
  conv_lhs => rw [hsplit]
  rw [insertIdx_append_of_le hk, duplicatedLines_insert hsize hmem hcopy.symm hlong,
    List.eraseIdx_eq_take_drop_succ, insertIdx_append_of_le hk]

/-! ## The score -/

theorem percentage_ofFiles (size : Nat) (files : List FileFacts) :
    (ofFiles size files : DuplicationReport K).percentage =
      if (ofFiles size files : DuplicationReport K).lines = 0 then 0.0
      else 100.0 * ((ofFiles size files : DuplicationReport K).duplicatedLines : K) /
        ((ofFiles size files : DuplicationReport K).lines : K) := rfl

theorem score_eq_clampScore (size : Nat) (files : List FileFacts) :
    (ofFiles size files : DuplicationReport K).score =
      clampScore (100.0 - (ofFiles size files : DuplicationReport K).percentage * 2.0) := rfl

end Counting

section Scores

variable {K : Type} [ExactScalar K]

/-- The score in terms of the counts. -/
theorem score_ofFiles (size : Nat) (files : List FileFacts) :
    (ofFiles size files : DuplicationReport K).score =
      max 0 (100 - 200 * (((ofFiles size files : DuplicationReport K).duplicatedLines : K) /
        ((ofFiles size files : DuplicationReport K).lines : K))) := by
  have hpercentage : (ofFiles size files : DuplicationReport K).percentage =
      100 * (((ofFiles size files : DuplicationReport K).duplicatedLines : K) /
        ((ofFiles size files : DuplicationReport K).lines : K)) := by
    rw [percentage_ofFiles]
    split
    case isTrue hnone =>
      rw [hnone, Scalar.literal_eq]
      norm_num
    case isFalse =>
      rw [Scalar.literal_eq, ← mul_div_assoc]
      norm_num
  have hshare : 0 ≤ ((ofFiles size files : DuplicationReport K).duplicatedLines : K) /
      ((ofFiles size files : DuplicationReport K).lines : K) := by positivity
  rw [score_eq_clampScore, clampScore_eq, hpercentage, Scalar.literal_eq, Scalar.literal_eq]
  norm_num
  rw [min_eq_right (by linarith)]
  congr 1
  ring

/-- A score above zero falls exactly if the share of copied lines grows. -/
theorem score_lt_score_iff {size : Nat} {files others : List FileFacts}
    (hfiles : 0 < (ofFiles size files : DuplicationReport K).lines)
    (hothers : 0 < (ofFiles size others : DuplicationReport K).lines)
    (hscore : 0 < (ofFiles size files : DuplicationReport K).score) :
    (ofFiles size others : DuplicationReport K).score <
        (ofFiles size files : DuplicationReport K).score ↔
      (ofFiles size files : DuplicationReport K).duplicatedLines *
          (ofFiles size others : DuplicationReport K).lines <
        (ofFiles size others : DuplicationReport K).duplicatedLines *
          (ofFiles size files : DuplicationReport K).lines := by
  have hfiles' : (0 : K) < ((ofFiles size files : DuplicationReport K).lines : K) := by
    exact_mod_cast hfiles
  have hothers' : (0 : K) < ((ofFiles size others : DuplicationReport K).lines : K) := by
    exact_mod_cast hothers
  rw [score_ofFiles size files] at hscore ⊢
  have hpositive := (lt_max_iff.1 hscore).resolve_left (lt_irrefl _)
  rw [max_eq_right hpositive.le, score_ofFiles size others, max_lt_iff, and_iff_right hpositive,
    sub_lt_sub_iff_left, mul_lt_mul_iff_right₀ (by norm_num), div_lt_div_iff₀ hfiles' hothers']
  norm_cast

/-- The lines of a copy against the copied lines that its place in front of the original costs. -/
theorem share_lt_share_iff {copied lines moved n : Nat} (h : copied < lines) (hn : 0 < n) :
    copied * (lines + n) < (moved + n) * lines ↔
      (copied - moved) * lines < n * (lines - copied) := by
  obtain ⟨free, rfl⟩ := Nat.exists_eq_add_of_lt h
  rcases Nat.le_total copied moved with hle | hle
  · obtain ⟨gain, rfl⟩ := Nat.exists_eq_add_of_le hle
    refine iff_of_true ?_ ?_
    · nlinarith
    · rw [Nat.sub_eq_zero_of_le hle, Nat.zero_mul]
      exact Nat.mul_pos hn (by omega)
  · obtain ⟨loss, rfl⟩ := Nat.exists_eq_add_of_le hle
    rw [Nat.add_sub_cancel_left, show moved + loss + free + 1 - (moved + loss) = free + 1 by omega]
    constructor <;> intro hlt <;> nlinarith

/-- **What a verbatim copy costs.** A second file with the lines of another one lowers a score above
zero exactly if it comes behind the original, or if the copied lines that are lost by moving the
original to the place of the copy have a smaller share in the lines of the copy than the lines that
are not copied have in all lines. -/
theorem score_insertIdx_lt_iff {size : Nat} (hsize : 0 < size) {files : List FileFacts}
    {original copy : FileFacts} {i k : Nat} (horiginal : files[i]? = some original)
    (hk : k ≤ files.length) (hcopy : copy.fingerprints = original.fingerprints)
    (hlong : size ≤ original.fingerprints.length)
    (hscore : 0 < (ofFiles size files : DuplicationReport K).score) :
    let here : DuplicationReport K := ofFiles size files
    let moved : DuplicationReport K := ofFiles size ((files.eraseIdx i).insertIdx k copy)
    (ofFiles size (files.insertIdx k copy) : DuplicationReport K).score < here.score ↔
      i < k ∨ (here.duplicatedLines - moved.duplicatedLines) * here.lines <
        original.fingerprints.length * (here.lines - here.duplicatedLines) := by
  intro here moved
  have hn : 0 < original.fingerprints.length := hsize.trans_le hlong
  have hpositive : 0 < here.lines := by
    refine hn.trans_le ?_
    rw [lines_ofFiles]
    exact List.le_sum_of_mem (List.mem_map.2 ⟨original, List.mem_of_getElem? horiginal, rfl⟩)
  have hlines : (ofFiles size (files.insertIdx k copy) : DuplicationReport K).lines =
      here.lines + original.fingerprints.length := by
    rw [lines_insertIdx hk, hcopy]
  rw [score_lt_score_iff hpositive (by omega) hscore, hlines]
  have hlt : here.duplicatedLines < here.lines := duplicatedLines_lt_lines hsize files hpositive
  by_cases hbehind : i < k
  · rw [duplicatedLines_insertIdx_of_lt hsize horiginal hk hcopy hlong hbehind]
    refine iff_of_true ?_ (.inl hbehind)
    have := Nat.mul_lt_mul_of_pos_right hlt hn
    rw [Nat.mul_add, Nat.add_mul, Nat.mul_comm original.fingerprints.length]
    exact Nat.add_lt_add_left this _
  · rw [duplicatedLines_insertIdx_of_le hsize horiginal hcopy hlong (Nat.not_lt.1 hbehind),
      or_iff_right hbehind]
    exact share_lt_share_iff hlt hn

/-- A file of three lines, another file, and a copy of the first one at the end. -/
theorem score_insertIdx_lt_at_end :
    let original : FileFacts :=
      { path := "a.py", language := .python, fingerprints := ["a", "b", "c"] }
    let other : FileFacts :=
      { path := "b.py", language := .python, fingerprints := ["d", "e", "f", "g", "h", "i"] }
    let copy : FileFacts := { original with path := "c.py" }
    0 < 2 ∧ [original, other][0]? = some original ∧ 2 ≤ [original, other].length ∧
      copy.fingerprints = original.fingerprints ∧ 2 ≤ original.fingerprints.length ∧
      0 < (ofFiles 2 [original, other] : DuplicationReport ℚ).score ∧
      (ofFiles 2 ([original, other].insertIdx 2 copy) : DuplicationReport ℚ).score <
        (ofFiles 2 [original, other] : DuplicationReport ℚ).score := by
  intro original other copy
  have hcopied : copiedLines 2 [] [original, other] = 0 := by decide +kernel
  have hscore : 0 < (ofFiles 2 [original, other] : DuplicationReport ℚ).score := by
    rw [score_ofFiles, duplicatedLines_ofFiles, hcopied]
    norm_num
  have horiginal : [original, other][0]? = some original := rfl
  have hcopy : copy.fingerprints = original.fingerprints := rfl
  refine ⟨by decide, horiginal, by decide, hcopy, by decide, hscore, ?_⟩
  exact (score_insertIdx_lt_iff (by decide) horiginal (by decide) hcopy (by decide) hscore).2
    (.inl (by decide))

/-- Three windows of one file, one line apart, stand one after the other in a second file, all of
whose fifteen lines are therefore copied. A copy of the second file in front of both takes their
place: then seven lines of the first file and the fifteen lines of the second are copied, and the
share of copied lines falls from 15 in 31 to 22 in 46. -/
theorem score_lt_score_insertIdx :
    let original : FileFacts :=
      { path := "c.py", language := .python
        fingerprints := ["a()", "b()", "c()", "d()", "e()", "b()", "c()", "d()", "e()", "f()",
          "c()", "d()", "e()", "f()", "g()"] }
    let files : List FileFacts :=
      [{ path := "b.py", language := .python
         fingerprints := ["a()", "b()", "c()", "d()", "e()", "f()", "g()"] },
        original,
        { path := "d.py", language := .python
          fingerprints := ["h()", "i()", "j()", "k()", "l()", "m()", "n()", "o()", "p()"] }]
    let copy : FileFacts := { original with path := "a.py" }
    ((files.insertIdx 0 copy).map (·.path)).Pairwise (· < ·) ∧
      5 ≤ original.fingerprints.length ∧
      0 < (ofFiles 5 files : DuplicationReport ℚ).score ∧
      (ofFiles 5 files : DuplicationReport ℚ).score <
        (ofFiles 5 (files.insertIdx 0 copy) : DuplicationReport ℚ).score := by
  intro original files copy
  have hbefore : copiedLines 5 [] files = 15 := by decide +kernel
  have hafter : copiedLines 5 [] (files.insertIdx 0 copy) = 22 := by decide +kernel
  have hlines : (ofFiles 5 files : DuplicationReport ℚ).lines = 31 := lines_ofFiles 5 files
  have hmore : (ofFiles 5 (files.insertIdx 0 copy) : DuplicationReport ℚ).lines = 46 :=
    lines_ofFiles 5 (files.insertIdx 0 copy)
  refine ⟨by decide, by decide, ?_, ?_⟩
  · rw [score_ofFiles, duplicatedLines_ofFiles, hbefore, hlines]
    norm_num
  · rw [score_ofFiles, score_ofFiles, duplicatedLines_ofFiles, duplicatedLines_ofFiles, hbefore,
      hafter, hlines, hmore]
    norm_num

end Scores

end DuplicationReport

end Affinity
