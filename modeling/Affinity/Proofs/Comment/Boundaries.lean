import Affinity.Proofs.Comment.Interior
import Affinity.Proofs.Comment.Stretches
import Affinity.Proofs.Text.Breaks
import Affinity.Proofs.Text.Margins

/-!
# Texts put together at clean boundaries

The scan of a line depends on the lines before it only through the mode in which they end. Where a
text is closed by a line break and its scan ends outside comments and strings, what follows is
classified as if it stood alone. So lines without code can be inserted there.

* `classifyLines_append`, `classify_append` — the rows of texts put together.
* `CommentStyle.Idle` — a line of blanks or a line comment behind which the scan is outside again.
* `CommentStyle.OpensVisibly.idle` — every such line is idle if nothing that outlasts a line opens
  on blanks.
* `classify_append_idle` — idle lines change neither the other rows nor the fingerprints.
* `classify_blankOpener` — a delimiter of blanks makes a blank line the beginning of a comment.
-/

namespace Affinity

/-! ## Lines one after the other -/

theorem classifyLines_cons (style : CommentStyle) (mode : ScanMode) (line : List Char)
    (others : List (List Char)) :
    classifyLines style mode (line :: others) =
      .ofFinding line (scanRow style { mode } 0 line).2 ::
        classifyLines style (scanRow style { mode } 0 line).1 others := rfl

theorem classifyLines_append (style : CommentStyle) (mode : ScanMode)
    (before behind : List (List Char)) :
    classifyLines style mode (before ++ behind) =
      classifyLines style mode before ++
        classifyLines style (modeAfter style mode before) behind := by
  induction before generalizing mode with
  | nil => rfl
  | cons line others ih =>
    rw [List.cons_append, classifyLines_cons, classifyLines_cons, ih, List.cons_append]
    rfl

/-- Behind a clean boundary, a text is classified as if it stood alone. -/
theorem classify_append {style : CommentStyle} {a : List Char} (ha : EndsWithBreak a)
    (hmode : modeAfter style .normal (lines a) = .normal) (b : List Char) :
    classify style (a ++ b) = classify style a ++ classify style b := by
  unfold classify
  rw [lines_append ha, classifyLines_append, hmode]

/-- Lines that each end outside comments and strings, scanned one after the other. -/
theorem modeAfter_eq_normal {style : CommentStyle} {rows : List (List Char)}
    (h : ∀ line ∈ rows, (scanRow style {} 0 line).1 = .normal) :
    modeAfter style .normal rows = .normal := by
  induction rows with
  | nil => rfl
  | cons line others ih =>
    rw [modeAfter, h line List.mem_cons_self]
    exact ih fun row hrow => h row (List.mem_cons_of_mem line hrow)

/-! ## Blanks -/

/-- A blank is neither a letter nor a number. -/
theorem not_isAlphanumeric_of_isBlank {c : Char} (h : isBlank c = true) :
    isAlphanumeric c = false := by
  have hascii : ∀ n ∈ blankCodes, n < 128 → (Char.ofNat n).isAlphanum = false := by decide
  -- a list of ranges, since the kernel is slow with arrays
  have hranges : ∀ n ∈ blankCodes,
      (alphanumericRanges.toList.any fun r => r.1 ≤ n && n ≤ r.2) = false := by decide +kernel
  have hcode := toNat_mem_blankCodes h
  unfold isAlphanumeric
  split
  · next hsmall =>
    rw [← Char.ofNat_toNat c]
    exact hascii _ hcode hsmall
  · rw [inRanges, ← Array.any_toList]
    exact hranges _ hcode

/-! ## Lines of blanks -/

/-- A string over several lines that opened on blanks is closed by blanks. -/
def ScanMode.ClosesBlank : ScanMode → Prop
  | .multiline delimiter _ => allBlank delimiter = true
  | _ => True

section Blank

variable {style : CommentStyle} {s : ScanState} {c : Char} {rest : List Char}

theorem normalStep_allBlank (h : allBlank (c :: rest) = true) :
    allBlank (normalStep style s c rest).found.code = true ∧
      (normalStep style s c rest).mode.ClosesBlank := by
  rw [normalStep]
  split
  case h_1 d doc _ =>
    split
    · rw [blockStep]
      split <;> exact ⟨rfl, trivial⟩
    · exact ⟨rfl, trivial⟩
  case h_2 => exact ⟨rfl, trivial⟩
  case h_3 delimiter hopener =>
    have hdelimiter := allBlank_of_isPrefix (CommentStyle.openerAt?_fits hopener).2 h
    refine ⟨?_, hdelimiter⟩
    dsimp only [Finding.ofString]
    split
    · rfl
    · exact hdelimiter
  case h_4 quote hopener =>
    obtain rfl : c = quote := Option.some.inj (CommentStyle.openerAt?_fits hopener).2
    have hc := (allBlank_cons.1 h).1
    exact ⟨allBlank_cons.2 ⟨hc, allBlank_cons.2 ⟨hc, rfl⟩⟩, trivial⟩
  case h_5 => exact ⟨allBlank_cons.2 ⟨(allBlank_cons.1 h).1, rfl⟩, trivial⟩

theorem scanStep_allBlank (h : allBlank (c :: rest) = true) (hs : s.mode.ClosesBlank) :
    allBlank (scanStep style s c rest).found.code = true ∧
      (scanStep style s c rest).mode.ClosesBlank := by
  rw [scanStep]
  split
  case h_1 => exact normalStep_allBlank h
  case h_2 => exact ⟨rfl, trivial⟩
  case h_3 closing doc _ =>
    split
    · exact normalStep_allBlank h
    · rw [blockStep]
      split <;> exact ⟨rfl, trivial⟩
  case h_4 delimiter doc hmode =>
    rw [hmode] at hs
    split
    · refine ⟨?_, trivial⟩
      dsimp only [Finding.ofString]
      split
      · rfl
      · exact hs
    · refine ⟨?_, hs⟩
      dsimp only [Finding.ofString]
      split <;> rfl
  case h_5 =>
    repeat' split
    all_goals exact ⟨rfl, trivial⟩

/-- The code of a line of blanks holds nothing but blanks. -/
theorem scanRow_allBlank (hs : s.mode.ClosesBlank) (skip : Nat) {line : List Char}
    (h : allBlank line = true) : allBlank (scanRow style s skip line).2.code = true := by
  induction line generalizing s skip with
  | nil => cases skip <;> rfl
  | cons c rest ih =>
    have hrest := (allBlank_cons.1 h).2
    cases skip with
    | succ skip => exact ih hs skip hrest
    | zero =>
      obtain ⟨hcode, hmode⟩ : allBlank (scanStep style s c rest).found.code = true ∧
          (scanStep style s c rest).mode.ClosesBlank := scanStep_allBlank h hs
      exact allBlank_append.2 ⟨hcode, ih hmode _ hrest⟩

end Blank

/-! ## Idle lines -/

namespace CommentStyle

/-- A line comment opens on the line, and only blanks stand before it. -/
def isLineComment (style : CommentStyle) : List Char → Bool
  | [] => false
  | c :: rest =>
    match style.openerAt? true (c :: rest) with
    | some (.line _) => true
    | some _ => false
    | none => isBlank c && style.isLineComment rest

/-- The line holds a line comment alone, or blanks behind which the scan is outside comments and
strings. -/
def Idle (style : CommentStyle) (line : List Char) : Prop :=
  style.isLineComment line = true ∨
    allBlank line = true ∧ (scanRow style {} 0 line).1 = .normal

instance (style : CommentStyle) : DecidablePred style.Idle :=
  fun _ => inferInstanceAs (Decidable (_ ∨ _ ∧ _))

/-- Neither a block comment nor a string over several lines opens on blanks alone. -/
structure OpensVisibly (style : CommentStyle) : Prop where
  block : ∀ d ∈ style.block ++ style.docBlock, allBlank d.opening = false
  multiline : ∀ delimiter ∈ style.multilineStrings, allBlank delimiter = false

theorem opensVisibly_iff (style : CommentStyle) :
    style.OpensVisibly ↔
      (∀ d ∈ style.block ++ style.docBlock, allBlank d.opening = false) ∧
        ∀ delimiter ∈ style.multilineStrings, allBlank delimiter = false :=
  ⟨fun h => ⟨h.block, h.multiline⟩, fun h => ⟨h.1, h.2⟩⟩

instance (style : CommentStyle) : Decidable style.OpensVisibly :=
  decidable_of_iff' _ style.opensVisibly_iff

variable {style : CommentStyle}

/-- Behind blanks, a line comment runs to the end of the line. -/
theorem scanFrom_isLineComment {line : List Char} (h : style.isLineComment line = true)
    {found : Finding} (hcode : allBlank found.code = true) (hdoc : found.hasDoc = false) :
    ∃ last, scanFrom style .normal found 0 line = (.normal, last) ∧
      allBlank last.code = true := by
  induction line generalizing found with
  | nil => cases h
  | cons c rest ih =>
    have hnote : ({} : ScanState).note found = {} := by simp [ScanState.note, hcode, hdoc]
    have hstep : scanStep style {} c rest = normalStep style {} c rest := rfl
    rw [scanFrom_cons, hnote, hstep, normalStep]
    unfold isLineComment at h
    split at h
    · next doc hopener =>
      rw [Bool.not_false, Bool.and_true, hopener]
      dsimp only
      rw [scanFrom_lineComment]
      exact ⟨_, rfl, allBlank_append.2 ⟨hcode, rfl⟩⟩
    · cases h
    · next hopener =>
      rw [Bool.and_eq_true] at h
      rw [Bool.not_false, Bool.and_true, hopener]
      have hblank : allBlank (found ++ .ofChar c).code = true :=
        allBlank_append.2 ⟨hcode, allBlank_cons.2 ⟨h.1, rfl⟩⟩
      have hplain : (found ++ .ofChar c).hasDoc = false := by
        rw [Finding.hasDoc_append, hdoc]
        rfl
      exact ih h.2 hblank hplain

/-- An idle line ends outside comments and strings, and its code holds only blanks. -/
theorem Idle.scanRow {line : List Char} (h : style.Idle line) :
    (scanRow style {} 0 line).1 = .normal ∧
      allBlank (Affinity.scanRow style {} 0 line).2.code = true := by
  rcases h with h | ⟨hblank, hmode⟩
  · have hcode : allBlank ({} : Finding).code = true := rfl
    have hdoc : ({} : Finding).hasDoc = false := rfl
    obtain ⟨last, hscan, hlast⟩ := scanFrom_isLineComment h hcode hdoc
    rw [scanFrom_empty] at hscan
    rw [hscan]
    exact ⟨rfl, hlast⟩
  · have hclosed : ({} : ScanState).mode.ClosesBlank := trivial
    exact ⟨hmode, scanRow_allBlank hclosed 0 hblank⟩

theorem OpensVisibly.normalStep (h : style.OpensVisibly) {s : ScanState} {c : Char}
    {rest : List Char} (hblank : allBlank (c :: rest) = true) :
    (normalStep style s c rest).mode.afterLine = .normal := by
  rw [Affinity.normalStep]
  split
  case h_1 d doc hopener =>
    have hfits := openerAt?_fits hopener
    have hopening := h.block d (List.mem_append.2 hfits.1)
    rw [allBlank_of_isPrefix hfits.2 hblank] at hopening
    cases hopening
  case h_2 => rfl
  case h_3 delimiter hopener =>
    have hfits := openerAt?_fits hopener
    have hdelimiter := h.multiline delimiter hfits.1
    rw [allBlank_of_isPrefix hfits.2 hblank] at hdelimiter
    cases hdelimiter
  case h_4 => rfl
  case h_5 => rfl

/-- Nothing that opens on blanks outlasts the line. -/
theorem OpensVisibly.scanRow (h : style.OpensVisibly) {s : ScanState}
    (hs : s.mode.afterLine = .normal) (skip : Nat) {line : List Char}
    (hblank : allBlank line = true) : (scanRow style s skip line).1 = .normal := by
  induction line generalizing s skip with
  | nil => cases skip <;> exact hs
  | cons c rest ih =>
    have hrest := (allBlank_cons.1 hblank).2
    cases skip with
    | succ skip => exact ih hs skip hrest
    | zero =>
      refine ih ?_ _ hrest
      change (scanStep style s c rest).mode.afterLine = .normal
      rw [scanStep]
      split
      case h_1 => exact h.normalStep hblank
      case h_2 => rfl
      case h_3 hmode =>
        rw [hmode] at hs
        cases hs
      case h_4 hmode =>
        rw [hmode] at hs
        cases hs
      case h_5 =>
        repeat' split
        all_goals rfl

/-- Lines of blanks and line comments are idle. -/
theorem OpensVisibly.idle (h : style.OpensVisibly) {line : List Char}
    (hline : allBlank line = true ∨ style.isLineComment line = true) : style.Idle line := by
  rcases hline with hblank | hcomment
  · exact .inr ⟨hblank, h.scanRow rfl 0 hblank⟩
  · exact .inl hcomment

end CommentStyle

/-! ## Fingerprints -/

theorem fingerprints_append (rows others : List Row) :
    fingerprints (rows ++ others) = fingerprints rows ++ fingerprints others := by
  unfold fingerprints
  rw [List.filter_append, List.map_append]

theorem fingerprints_of_allBlank {rows : List Row}
    (h : ∀ row ∈ rows, allBlank row.code = true) : fingerprints rows = [] := by
  unfold fingerprints
  rw [List.map_eq_nil_iff, List.filter_eq_nil_iff]
  intro row hrow htest
  obtain ⟨c, hc, halnum⟩ := List.any_eq_true.1 (Bool.and_eq_true_iff.1 htest).2
  rw [not_isAlphanumeric_of_isBlank (List.all_eq_true.1 (h row hrow) c hc)] at halnum
  cases halnum

/-- The code of idle lines holds only blanks. -/
theorem allBlank_classifyLines {style : CommentStyle} {rows : List (List Char)}
    (h : ∀ line ∈ rows, style.Idle line) :
    ∀ row ∈ classifyLines style .normal rows, allBlank row.code = true := by
  induction rows with
  | nil => nofun
  | cons line others ih =>
    obtain ⟨hmode, hcode⟩ := (h line List.mem_cons_self).scanRow
    intro row hrow
    rw [classifyLines_cons, hmode] at hrow
    rcases List.mem_cons.1 hrow with rfl | hrow
    · exact hcode
    · exact ih (fun line' hline' => h line' (List.mem_cons_of_mem line hline')) row hrow

/-! ## Insertion at a clean boundary -/

/-- The delimiters of every language are visible. -/
theorem Language.opensVisibly_comments (language : Language) :
    language.rules.comments.OpensVisibly := by
  cases language <;> decide +kernel

/-- Classification goes line by line at clean boundaries. If a text is closed by a line break and
its scan ends outside comments and strings, the rows of a continuation are those of both parts; and
idle lines in between leave all other rows and the fingerprints as they are. In every style whose
delimiters are visible, lines of blanks and line comments are idle. -/
theorem classify_append_idle :
    (∀ language : Language, language.rules.comments.OpensVisibly) ∧
      ∀ style : CommentStyle,
        (style.OpensVisibly → ∀ line : List Char,
          allBlank line = true ∨ style.isLineComment line = true → style.Idle line) ∧
        ∀ a b : List Char, EndsWithBreak a → modeAfter style .normal (lines a) = .normal →
          classify style (a ++ b) = classify style a ++ classify style b ∧
            ∀ inserted : List Char, EndsWithBreak inserted →
              (∀ line ∈ lines inserted, style.Idle line) →
              classify style (a ++ (inserted ++ b)) =
                  classify style a ++ (classify style inserted ++ classify style b) ∧
                fingerprints (classify style (a ++ (inserted ++ b))) =
                  fingerprints (classify style (a ++ b)) := by
  refine ⟨Language.opensVisibly_comments, fun style => ⟨fun h line => h.idle, ?_⟩⟩
  intro a b ha hmode
  have hboth := classify_append ha hmode b
  refine ⟨hboth, fun inserted hinserted hidle => ?_⟩
  have hclean : modeAfter style .normal (lines inserted) = .normal :=
    modeAfter_eq_normal fun line hline => (hidle line hline).scanRow.1
  have hall : classify style (a ++ (inserted ++ b)) =
      classify style a ++ (classify style inserted ++ classify style b) := by
    rw [classify_append ha hmode, classify_append hinserted hclean]
  have hsilent : fingerprints (classify style inserted) = [] :=
    fingerprints_of_allBlank (allBlank_classifyLines hidle)
  refine ⟨hall, ?_⟩
  rw [hall, hboth, fingerprints_append, fingerprints_append, fingerprints_append, hsilent,
    List.nil_append]

/-- A blank line and a comment behind a docstring and before code. -/
theorem classify_append_idle_docstring :
    let style := Rules.python.comments
    let a := "'''text\n# more'''\n".toList
    let b := "x = 1 # one\n".toList
    let inserted := " \t\r\n  # ''' note\n".toList
    EndsWithBreak a ∧ modeAfter style .normal (lines a) = .normal ∧ EndsWithBreak inserted ∧
      (∀ line ∈ lines inserted, style.Idle line) ∧
        fingerprints (classify style (a ++ (inserted ++ b))) =
          fingerprints (classify style (a ++ b)) := by
  intro style a b inserted
  have ha : EndsWithBreak a := by decide +kernel
  have hmode : modeAfter style .normal (lines a) = .normal := by decide +kernel
  have hinserted : EndsWithBreak inserted := by decide +kernel
  have hidle : ∀ line ∈ lines inserted, style.Idle line := by decide +kernel
  have hinsert := ((classify_append_idle.2 style).2 a b ha hmode).2 inserted hinserted hidle
  exact ⟨ha, hmode, hinserted, hidle, hinsert.2⟩

/-- Where a space opens a block comment, a blank line in front of a line of code turns it into the
text of the comment. -/
theorem classify_blankOpener :
    let style : CommentStyle := { block := [⟨[' '], ['x']⟩] }
    let inserted := " \n".toList
    let b := "y\n".toList
    (∀ d ∈ style.delimiters, d ≠ []) ∧ modeAfter style .normal (lines []) = .normal ∧
      EndsWithBreak inserted ∧ (∀ line ∈ lines inserted, allBlank line = true) ∧
      (classify style ([] ++ b)).map Row.stripped = [(.code, ['y'])] ∧
        (classify style ([] ++ (inserted ++ b))).map Row.stripped =
          [(.comment, []), (.comment, [])] := by
  decide +kernel

end Affinity
