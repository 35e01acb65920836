import Affinity.Proofs.Comment.Scan
import Affinity.Proofs.Comment.Slices

/-!
# Scanning stretches of a line

The scan of a line goes character by character, but what it does with a whole stretch can be said at
once: with a comment up to its closing delimiter, with a string up to its quote, with an opener.

* `scanFrom` — the scan of the rest of a line on which something was found already.
* `Awaits` — a mode that a closing delimiter ends; `Awaits.scanFrom_closed` and
  `Awaits.scanFrom_unclosed` go to that delimiter or to the end of the line.
* `scanFrom_lineComment`, `closingQuote?_eq_some`, `scanFrom_unclosedQuote` — comments and strings
  that end with the line.
* `scanFrom_normal` — outside comments and strings, what opens there decides.
-/

namespace Affinity

open String (utf8Len utf8Len_cons)

/-! ## The rest of a line -/

variable {style : CommentStyle} {mode : ScanMode} {found : Finding}

/-- The scan of the rest of a line on which `found` was found: the mode in which the line ends and
all that is found on the line. -/
def scanFrom (style : CommentStyle) (mode : ScanMode) (found : Finding) (skip : Nat)
    (rest : List Char) : ScanMode × Finding :=
  let (last, more) := scanRow style (({ mode } : ScanState).note found) skip rest
  (last, found ++ more)

theorem scanFrom_empty (line : List Char) :
    scanFrom style mode {} 0 line = scanRow style { mode } 0 line := by
  dsimp only [scanFrom]
  rw [Finding.empty_append]
  rfl

theorem scanFrom_nil (skip : Nat) :
    scanFrom style mode found skip [] = (mode.afterLine, found) := by
  simp [scanFrom, scanRow, ScanState.note]

theorem scanFrom_cons (c : Char) (rest : List Char) :
    scanFrom style mode found 0 (c :: rest) =
      let step := scanStep style (({ mode } : ScanState).note found) c rest
      scanFrom style step.mode (found ++ step.found) step.skip rest := by
  dsimp only [scanFrom, scanRow]
  rw [ScanState.note_append, Finding.append_assoc]
  rfl

theorem scanFrom_append (skipped rest : List Char) :
    scanFrom style mode found skipped.length (skipped ++ rest) =
      scanFrom style mode found 0 rest := by
  induction skipped with
  | nil => rfl
  | cons c skipped ih => exact ih

/-- Behind a delimiter that stands at `c`. -/
theorem scanFrom_behind {delimiter : List Char} (hne : delimiter ≠ []) {c : Char}
    {rest : List Char} (h : delimiter <+: c :: rest) :
    scanFrom style mode found (delimiter.length - 1) rest =
      scanFrom style mode found 0 ((c :: rest).drop delimiter.length) := by
  obtain ⟨behind, hbehind⟩ := h
  rw [← hbehind, List.drop_left]
  cases delimiter with
  | nil => exact absurd rfl hne
  | cons first others =>
    rw [List.cons_append] at hbehind
    rw [← (List.cons.inj hbehind).2]
    exact scanFrom_append others behind

/-! ## Comments and strings with a closing delimiter -/

/-- The mode ends with `closing`. The text before it contributes `inside`, the delimiter itself
`last`. -/
structure Awaits (style : CommentStyle) (mode : ScanMode) (closing : List Char)
    (inside : List Char → Finding) (last : Finding) : Prop where
  closing_ne_nil : closing ≠ []
  step : ∀ found c rest, scanStep style (({ mode } : ScanState).note found) c rest =
    if closing.isPrefixOf (c :: rest) then
      { mode := .normal, skip := closing.length - 1, found := last }
    else { mode, found := inside [c] }
  afterLine : mode.afterLine = mode
  inside_append : ∀ s t, inside s ++ inside t = inside (s ++ t)
  inside_last : inside [] ++ last = last

variable {closing : List Char} {inside : List Char → Finding} {last : Finding}

theorem awaits_block (style : CommentStyle) (hne : closing ≠ []) (doc : Bool) :
    Awaits style (.block closing doc) closing (.ofComment doc) (.ofComment doc []) where
  closing_ne_nil := hne
  step found c rest := by
    have hempty : closing.isEmpty = false := List.isEmpty_eq_false_iff.2 hne
    simp only [scanStep, ScanState.note, hempty, blockStep, Bool.false_eq_true, if_false]
  afterLine := rfl
  inside_append := Finding.ofComment_append doc
  inside_last := Finding.ofComment_append doc [] []

theorem awaits_multiline (style : CommentStyle) (hne : closing ≠ []) (doc : Bool) :
    Awaits style (.multiline closing doc) closing (fun _ => .ofString doc [])
      (.ofString doc closing) where
  closing_ne_nil := hne
  step _ _ _ := rfl
  afterLine := rfl
  inside_append _ _ := Finding.ofString_append doc []
  inside_last := Finding.ofString_append doc closing

/-- Up to the first closing delimiter. -/
theorem Awaits.scanFrom_closed (h : Awaits style mode closing inside last) (found : Finding)
    {before behind : List Char} (hbefore : NotWithin closing before (closing ++ behind)) :
    scanFrom style mode found 0 (before ++ (closing ++ behind)) =
      scanFrom style .normal (found ++ (inside before ++ last)) 0 behind := by
  induction before generalizing found with
  | nil =>
    rw [List.nil_append, h.inside_last]
    obtain ⟨c, rest, hcons⟩ := List.exists_cons_of_ne_nil
      (List.append_ne_nil_of_left_ne_nil h.closing_ne_nil behind)
    have hstart : closing <+: c :: rest := hcons ▸ List.prefix_append closing behind
    rw [hcons, scanFrom_cons, h.step, if_pos (List.isPrefixOf_iff_prefix.2 hstart)]
    dsimp only
    rw [scanFrom_behind h.closing_ne_nil hstart, ← hcons, List.drop_left]
  | cons c before ih =>
    rw [List.cons_append, scanFrom_cons, h.step,
      if_neg (mt List.isPrefixOf_iff_prefix.1 hbefore.1)]
    dsimp only
    rw [ih _ hbefore.2, Finding.append_assoc, ← Finding.append_assoc (inside [c]),
      h.inside_append, List.singleton_append]

/-- Up to the end of a line without a closing delimiter. -/
theorem Awaits.scanFrom_unclosed (h : Awaits style mode closing inside last) (found : Finding)
    {text : List Char} (hne : text ≠ []) (htext : NotWithin closing text []) :
    scanFrom style mode found 0 text = (mode, found ++ inside text) := by
  induction text generalizing found with
  | nil => exact absurd rfl hne
  | cons c rest ih =>
    have hstart := htext.1
    rw [List.append_nil] at hstart
    rw [scanFrom_cons, h.step, if_neg (mt List.isPrefixOf_iff_prefix.1 hstart)]
    dsimp only
    cases rest with
    | nil => rw [scanFrom_nil, h.afterLine]
    | cons d others =>
      rw [ih _ (List.cons_ne_nil d others) htext.2, Finding.append_assoc, h.inside_append,
        List.singleton_append]

/-! ## Comments and strings that end with the line -/

theorem scanFrom_lineComment (doc : Bool) (start text : List Char) :
    scanFrom style (.lineComment doc) (found ++ .ofComment doc start) 0 text =
      (.normal, found ++ .ofComment doc (start ++ text)) := by
  induction text generalizing start with
  | nil =>
    rw [List.append_nil]
    exact scanFrom_nil 0
  | cons c rest ih =>
    have hstep : scanStep style (({ mode := .lineComment doc } : ScanState).note
        (found ++ .ofComment doc start)) c rest =
          { mode := .lineComment doc, found := .ofComment doc [c] } := rfl
    rw [scanFrom_cons, hstep]
    dsimp only
    rw [Finding.append_assoc, Finding.ofComment_append, ih, List.append_assoc,
      List.singleton_append]

/-- A step inside a string finds nothing. -/
theorem scanFrom_quoted_cons (quote : Char) (escaped : Bool) (c : Char) (rest : List Char) :
    scanFrom style (.quoted quote escaped) found 0 (c :: rest) =
      scanFrom style
        (if escaped then .quoted quote false
          else if c = '\\' then .quoted quote true
          else if c = quote then .normal
          else .quoted quote false) found 0 rest := by
  rw [scanFrom_cons]
  dsimp only [scanStep, ScanState.note]
  split
  · rw [Finding.append_empty]
  · split
    · rw [Finding.append_empty]
    · split <;> rw [Finding.append_empty]

/-- The scan goes on behind the closing quote. -/
theorem closingQuote?_eq_some {quote : Char} {escaped : Bool} {text : List Char} {position : Nat}
    (h : closingQuote? quote escaped text = some position) :
    ∃ string behind, text = string ++ behind ∧ position = utf8Len string ∧
      scanFrom style (.quoted quote escaped) found 0 text =
        scanFrom style .normal found 0 behind := by
  fun_induction closingQuote? quote escaped text generalizing position with
  | case1 => cases h
  | case2 c rest ih =>
    obtain ⟨position, hposition, rfl⟩ := Option.map_eq_some_iff.1 h
    obtain ⟨string, behind, rfl, rfl, hscan⟩ := ih hposition
    refine ⟨c :: string, behind, rfl, rfl, ?_⟩
    rw [scanFrom_quoted_cons, if_pos rfl, hscan]
  | case3 rest ih =>
    obtain ⟨position, hposition, rfl⟩ := Option.map_eq_some_iff.1 h
    obtain ⟨string, behind, rfl, rfl, hscan⟩ := ih hposition
    refine ⟨'\\' :: string, behind, rfl, rfl, ?_⟩
    rw [scanFrom_quoted_cons, if_neg Bool.false_ne_true, if_pos rfl, hscan]
  | case4 rest hc =>
    cases h
    refine ⟨[quote], rest, rfl, by simp, ?_⟩
    rw [scanFrom_quoted_cons, if_neg Bool.false_ne_true, if_neg hc, if_pos rfl]
  | case5 c rest hc hquote ih =>
    obtain ⟨position, hposition, rfl⟩ := Option.map_eq_some_iff.1 h
    obtain ⟨string, behind, rfl, rfl, hscan⟩ := ih hposition
    refine ⟨c :: string, behind, rfl, rfl, ?_⟩
    rw [scanFrom_quoted_cons, if_neg Bool.false_ne_true, if_neg hc, if_neg hquote, hscan]

/-- A string without a closing quote ends with the line. -/
theorem scanFrom_unclosedQuote {quote : Char} {escaped : Bool} {text : List Char}
    (h : closingQuote? quote escaped text = none) :
    scanFrom style (.quoted quote escaped) found 0 text = (.normal, found) := by
  fun_induction closingQuote? quote escaped text with
  | case1 => exact scanFrom_nil 0
  | case2 c rest ih =>
    rw [scanFrom_quoted_cons, if_pos rfl, ih (Option.map_eq_none_iff.1 h)]
  | case3 rest ih =>
    rw [scanFrom_quoted_cons, if_neg Bool.false_ne_true, if_pos rfl,
      ih (Option.map_eq_none_iff.1 h)]
  | case4 => cases h
  | case5 c rest hc hquote ih =>
    rw [scanFrom_quoted_cons, if_neg Bool.false_ne_true, if_neg hc, if_neg hquote,
      ih (Option.map_eq_none_iff.1 h)]

/-- What follows a string exists, and there the scan goes on. -/
theorem skipString_eq_ok (style : CommentStyle) (found : Finding) (quote : Char)
    (text : List Char) : ∃ behind, skipString quote text = .ok behind ∧
      behind.length ≤ text.length ∧
      scanFrom style (.quoted quote false) found 0 text =
        scanFrom style .normal found 0 behind := by
  cases hclosing : closingQuote? quote false text with
  | none =>
    refine ⟨[], by rw [skipString, hclosing]; rfl, Nat.zero_le _, ?_⟩
    rw [scanFrom_unclosedQuote hclosing, scanFrom_nil]
    rfl
  | some position =>
    obtain ⟨string, behind, rfl, rfl, hscan⟩ := closingQuote?_eq_some hclosing
    refine ⟨behind, ?_, by simp, hscan⟩
    rw [skipString, hclosing]
    exact sliceFrom_utf8Len string behind

/-! ## Outside comments and strings -/

/-- The scan of a line from the character `c` on, where `opener?` opens. -/
def scanOpened (style : CommentStyle) (found : Finding) (c : Char) (others : List Char) :
    Option Opener → ScanMode × Finding
  | some (.block d doc) =>
    scanFrom style (.block d.closing doc) (found ++ .ofComment doc []) 0
      ((c :: others).drop d.opening.length)
  | some (.line doc) => (.normal, found ++ .ofComment doc (c :: others))
  | some (.multiline delimiter) =>
    let doc := style.docstrings && allBlank found.code
    scanFrom style (.multiline delimiter doc) (found ++ .ofString doc delimiter) 0
      ((c :: others).drop delimiter.length)
  | some (.quote quote) =>
    scanFrom style (.quoted quote false) (found ++ .ofString false [quote, quote]) 0 others
  | none => scanFrom style .normal (found ++ .ofChar c) 0 others

/-- Outside comments and strings the scan goes on as what opens there says. -/
theorem scanFrom_normal (hne : ∀ d ∈ style.delimiters, d ≠ []) (found : Finding) (c : Char)
    (others : List Char) :
    scanFrom style .normal found 0 (c :: others) =
      scanOpened style found c others
        (style.openerAt? (allBlank found.code && !found.hasDoc) (c :: others)) := by
  rw [scanFrom_cons]
  dsimp only [scanStep, normalStep, ScanState.note]
  rw [Bool.true_and, Bool.false_or]
  cases hopener : style.openerAt? (allBlank found.code && !found.hasDoc) (c :: others) with
  | none => rfl
  | some opener =>
    have hfits := CommentStyle.openerAt?_fits hopener
    cases opener with
    | block d doc =>
      have hopening := hne _ (CommentStyle.mem_delimiters_of_block hfits.1).1
      dsimp only
      rw [List.isEmpty_eq_false_iff.2 hopening]
      exact scanFrom_behind hopening hfits.2
    | line doc => exact scanFrom_lineComment doc [c] others
    | multiline delimiter =>
      exact scanFrom_behind (hne _ (CommentStyle.mem_delimiters_of_multiline hfits.1)) hfits.2
    | quote quote => rfl

end Affinity
