import Mathlib.Data.List.Count
import Affinity.Proofs.Comment.Scan
import Affinity.Proofs.Pattern.WholeWords
import Affinity.Proofs.Table.Laws

/-!
# Markers and the comments they stand in

The comments of a line are put together without anything between them before the markers are looked
for. So the end of one comment and the beginning of the next may read as one word.

* `CommentStyle.comments` — the comments of every line, each on its own.
* `comment_classify` — the text of the comments of a line is these put together.
* `markers_classify` — the markers are the whole words of that text that are marker words.
* `markerCount_add` — how the count differs from that in the comments on their own, and that it does
  not where comments lie apart.
-/

namespace Affinity

/-! ## Comments on their own -/

/-- The scan is inside a comment. -/
def ScanMode.isComment : ScanMode → Bool
  | .lineComment _ => true
  | .block _ _ => true
  | _ => false

namespace CommentStyle

/-- The comments of a line, each with its own text. Of a comment that began on an earlier line or
goes on behind this one, it is the part on this line. -/
def lineComments (style : CommentStyle) : ScanState → Nat → List Char → List (List Char)
  | s, _, [] => if s.mode.isComment then [[]] else []
  | s, skip + 1, _ :: rest => style.lineComments s skip rest
  | s, 0, c :: rest =>
    let step := scanStep style s c rest
    let others := style.lineComments { s.note step.found with mode := step.mode } step.skip rest
    -- a comment goes on or opens here, or one ends here, or there is none
    if step.mode.isComment then others.modifyHead (step.found.comment ++ ·)
    else if s.mode.isComment then step.found.comment :: others
    else others

/-- The comments of lines that follow one another, beginning in the given mode. -/
def commentsFrom (style : CommentStyle) : ScanMode → List (List Char) → List (List (List Char))
  | _, [] => []
  | mode, line :: others =>
    style.lineComments { mode } 0 line ::
      style.commentsFrom (scanRow style { mode } 0 line).1 others

/-- The comments of each line of a text. -/
def comments (style : CommentStyle) (content : List Char) : List (List (List Char)) :=
  style.commentsFrom .normal (lines content)

end CommentStyle

section Scan

variable {style : CommentStyle} {s : ScanState}

/-- Outside comments, nothing is added to them. -/
theorem normalStep_comment (s : ScanState) (c : Char) (rest : List Char)
    (h : (normalStep style s c rest).mode.isComment = false) :
    (normalStep style s c rest).found.comment = [] := by
  rw [normalStep] at h ⊢
  split at h
  case h_1 d doc _ =>
    split at h
    case isTrue hempty =>
      rw [if_pos hempty, blockStep]
      rw [blockStep] at h
      split at h
      case isTrue hclosing =>
        rw [if_pos hclosing]
        rfl
      case isFalse => cases h
    case isFalse => cases h
  case h_2 => cases h
  all_goals rfl

theorem scanStep_comment {c : Char} {rest : List Char} (hs : s.mode.isComment = false)
    (h : (scanStep style s c rest).mode.isComment = false) :
    (scanStep style s c rest).found.comment = [] := by
  rw [scanStep] at h ⊢
  split at h
  case h_1 => exact normalStep_comment s c rest h
  case h_2 hmode => rw [hmode] at hs; cases hs
  case h_3 hmode => rw [hmode] at hs; cases hs
  case h_4 => split <;> rfl
  case h_5 =>
    repeat' split
    all_goals rfl

theorem lineComments_ne_nil (hs : s.mode.isComment = true) (skip : Nat) (line : List Char) :
    style.lineComments s skip line ≠ [] := by
  induction line generalizing s skip with
  | nil => simp [CommentStyle.lineComments, hs]
  | cons c rest ih =>
    cases skip with
    | succ skip => exact ih hs skip
    | zero =>
      rw [CommentStyle.lineComments]
      split
      case isTrue hstep => simpa using ih hstep _
      case isFalse => simp

/-- **The comments of a line make up the text of its comments.** -/
theorem comment_scanRow (s : ScanState) (skip : Nat) (line : List Char) :
    (scanRow style s skip line).2.comment = (style.lineComments s skip line).flatten := by
  induction line generalizing s skip with
  | nil =>
    rw [scanRow, CommentStyle.lineComments]
    split <;> rfl
  | cons c rest ih =>
    cases skip with
    | succ skip => exact ih s skip
    | zero =>
      rw [scanRow, CommentStyle.lineComments]
      dsimp only
      rw [Finding.comment_append, ih]
      split
      case isTrue hstep => rw [flatten_modifyHead_append (lineComments_ne_nil hstep _ _)]
      case isFalse hstep =>
        split
        case isTrue => rfl
        case isFalse hs =>
          rw [scanStep_comment (by simpa using hs) (by simpa using hstep), List.nil_append]

end Scan

theorem comment_classifyLines (style : CommentStyle) (mode : ScanMode) (rows : List (List Char)) :
    (classifyLines style mode rows).map (·.comment) =
      (style.commentsFrom mode rows).map List.flatten := by
  induction rows generalizing mode with
  | nil => rfl
  | cons line others ih =>
    rw [classifyLines, CommentStyle.commentsFrom, List.map_cons, List.map_cons, ← ih,
      ← comment_scanRow]
    rfl

/-- The text of the comments of a line is that of its comments, put together. -/
theorem comment_classify (style : CommentStyle) (content : List Char) :
    (classify style content).map (·.comment) = (style.comments content).map List.flatten :=
  comment_classifyLines style .normal (lines content)

example : CommentStyle.cLike.comments "f(/*TODO*/x, /*y*/z); // BUG".toList =
    [["TODO".toList, "y".toList, "// BUG".toList]] := by decide

/-! ## Markers -/

/-- The words that mark unfinished work. -/
def markerWords : List (List Char) := ["TODO", "FIXME", "HACK", "XXX", "BUG"].map String.toList

theorem markerPattern_eq : markerPattern = .wholeWord markerWords := by decide +kernel

theorem areWords_markerWords : Pattern.AreWords markerWords := by
  -- a test of lists, since characters are finitely many and `decide` might try them all
  have hall : (markerWords.all fun word => !word.isEmpty && word.all isWordChar) = true := by
    decide +kernel
  simpa [Pattern.AreWords] using hall

theorem markers_eq (rows : List Row) :
    markers rows = (rows.map (·.comment)).flatMap fun text =>
      ((wordRuns text).filter (· ∈ markerWords)).map String.ofList := by
  rw [markers, List.flatMap_map, markerPattern_eq]
  simp only [Pattern.groups_wholeWord areWords_markerWords]

/-- **The markers of a text** are the runs of its comments that are marker words. -/
theorem markers_classify (style : CommentStyle) (content : List Char) :
    markers (classify style content) =
      ((style.comments content).flatMap fun texts =>
        (wordRuns texts.flatten).filter (· ∈ markerWords)).map String.ofList := by
  rw [markers_eq, comment_classify, List.flatMap_map, List.map_flatMap]

/-- What is counted in parts adds up. -/
theorem count_flatMap_eq_sumOf {α β : Type} [BEq β] (f : α → List β) (items : List α) (b : β) :
    (items.flatMap f).count b = sumOf (items.map fun item => (f item).count b) := by
  induction items with
  | nil => rfl
  | cons item rest ih =>
    rw [List.flatMap_cons, List.count_append, ih, List.map_cons, sumOf_cons]

section Counts

variable (style : CommentStyle) (content word : List Char)

/-- How often a word is counted among the markers of a text. -/
def markerCount : Nat :=
  ((Table.tally (markers (classify style content))).get? (String.ofList word)).getD 0

/-- How often a word stands in the comments of a text, each read on its own. -/
def ownMarkerCount : Nat :=
  sumOf ((style.comments content).flatten.map fun text => (wordRuns text).count word)

/-- The pieces of the comments of a line to which more than one of them contributes. -/
def joinedPieces : List (List (List Char)) :=
  (style.comments content).flatMap spanningPieces

theorem markerCount_eq (hword : word ∈ markerWords) :
    markerCount style content word =
      sumOf ((style.comments content).map fun texts => (wordRuns texts.flatten).count word) := by
  have hcount : markerCount style content word =
      (markers (classify style content)).count (String.ofList word) := by
    rw [markerCount, Table.get?_tally]
    split
    case isTrue => rfl
    case isFalse habsent => exact (List.count_eq_zero_of_not_mem habsent).symm
  have hinj : Function.Injective String.ofList := fun _ _ => String.ofList_injective
  rw [hcount, markers_classify, List.count_map_of_injective _ _ hinj, count_flatMap_eq_sumOf]
  refine congrArg sumOf (List.map_congr_left fun texts _ => ?_)
  exact List.count_filter (by simpa using hword)

/-- What is counted in the comments on their own is counted line by line. -/
theorem ownMarkerCount_eq :
    ownMarkerCount style content word =
      sumOf ((style.comments content).map fun texts => (texts.flatMap wordRuns).count word) := by
  rw [ownMarkerCount, ← count_flatMap_eq_sumOf, ← count_flatMap_eq_sumOf,
    List.flatten_eq_flatMap, List.flatMap_assoc]
  rfl

/-- **How the count of a marker differs** from that in the comments on their own: it has the markers
that several comments make up together and lacks those that are only parts of longer runs. Where
the comments of every line lie apart, each comment counts as if it stood alone. -/
theorem markerCount_add (hword : word ∈ markerWords) :
    markerCount style content word + (joinedPieces style content).flatten.count word =
        ownMarkerCount style content word +
          ((joinedPieces style content).map List.flatten).count word ∧
      ((∀ texts ∈ style.comments content, AllApart texts) →
        markerCount style content word = ownMarkerCount style content word) := by
  have hne : word ≠ [] := (areWords_markerWords word hword).1
  rw [markerCount_eq style content word hword, ownMarkerCount_eq, joinedPieces]
  constructor
  · induction style.comments content with
    | nil => rfl
    | cons texts others ih =>
      have hline := count_wordRuns_flatten hne texts
      simp only [List.map_cons, sumOf_cons, List.flatMap_cons, List.flatten_append,
        List.map_append, List.count_append] at ih ⊢
      omega
  · intro hapart
    refine congrArg sumOf (List.map_congr_left fun texts htexts => ?_)
    rw [wordRuns_flatten (hapart texts htexts)]

/-- The count of a comment that the next one runs into, and of one that stands alone. -/
theorem markerCount_add_todo :
    "TODO".toList ∈ markerWords ∧
      markerCount .cLike "f(/*TODO*/x, /*y*/z); // BUG".toList "TODO".toList = 0 ∧
      markerCount .cLike "/* TODO */ f(x); // TODO".toList "TODO".toList = 2 := by
  have hword : "TODO".toList ∈ markerWords := by decide
  have hjoined := (markerCount_add .cLike "f(/*TODO*/x, /*y*/z); // BUG".toList _ hword).1
  have hapart := (markerCount_add .cLike "/* TODO */ f(x); // TODO".toList _ hword).2 (by
    decide +kernel)
  refine ⟨hword, ?_, hapart.trans (by decide +kernel)⟩
  have hhidden : (joinedPieces .cLike
      "f(/*TODO*/x, /*y*/z); // BUG".toList).flatten.count "TODO".toList = 1 := by decide +kernel
  have hmade : ((joinedPieces .cLike "f(/*TODO*/x, /*y*/z); // BUG".toList).map
      List.flatten).count "TODO".toList = 0 := by decide +kernel
  have hown : ownMarkerCount .cLike "f(/*TODO*/x, /*y*/z); // BUG".toList "TODO".toList = 1 := by
    decide +kernel
  omega

/-- Of two neighbours, the second hides the marker that is all of the first; and two neighbours make
up a marker of which each holds a half. -/
theorem markerCount_neighbours :
    (∀ d ∈ CommentStyle.cLike.delimiters, d ≠ []) ∧
      markerCount .cLike "f(/*TODO*/x, /*y*/z);".toList "TODO".toList = 0 ∧
      ownMarkerCount .cLike "f(/*TODO*/x, /*y*/z);".toList "TODO".toList = 1 ∧
      markerCount .cLike "f(/*TO*/x, /*DO*/z);".toList "TODO".toList = 1 ∧
      ownMarkerCount .cLike "f(/*TO*/x, /*DO*/z);".toList "TODO".toList = 0 := by
  decide +kernel

end Counts

end Affinity
