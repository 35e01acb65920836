import Mathlib.Tactic.SplitIfs
import Affinity.Proofs.Comment.Scan
import Affinity.Proofs.Text.Breaks

/-!
# Code without comments and contents of strings

With `//`, `/* */` and quotes, the code of a text is a text of its own, in which the comments are
gone and the strings are empty. What is removed leaves no new neighbours that open a comment, and
every quote has its partner. So a scan of that text finds the same code and nothing else.

* `openerAt?_of_opensComment`, `openerAt?_of_not_opensComment` — what opens at a place.
* `Stripped` — code in which nothing opens but empty strings.
* `scanRow_strippedFrom` — the code of every line is stripped.
* `Stripped.scanRow` — a scan finds stripped code as it stands.
* `classify_stripped` — the code of all lines, classified again.
-/

namespace Affinity

open CommentStyle (cLike)

/-! ## Openers -/

/-- A comment opens: a slash stands before a slash or an asterisk. -/
def OpensComment (c : Char) (rest : List Char) : Prop :=
  c = '/' ∧ (rest.head? = some '/' ∨ rest.head? = some '*')

theorem opensComment_of_isPrefix {mark c : Char} {more rest : List Char}
    (hmark : mark = '/' ∨ mark = '*') (h : '/' :: mark :: more <+: c :: rest) :
    OpensComment c rest := by
  obtain ⟨hc, behind, hbehind⟩ := List.cons_prefix_cons.1 h
  rw [← hbehind]
  exact ⟨hc.symm, hmark.imp (congrArg some) (congrArg some)⟩

section Openers

variable {lineStart : Bool} {c : Char} {rest : List Char}

/-- Where no comment opens, only a string can. -/
theorem openerAt?_of_not_opensComment (h : ¬OpensComment c rest) :
    cLike.openerAt? lineStart (c :: rest) = cLike.quoteAt? (c :: rest) := by
  have hline (more : List Char) : ¬ '/' :: '/' :: more <+: c :: rest :=
    mt (opensComment_of_isPrefix (.inl rfl)) h
  have hblock (more : List Char) : ¬ '/' :: '*' :: more <+: c :: rest :=
    mt (opensComment_of_isPrefix (.inr rfl)) h
  simp [CommentStyle.openerAt?, CommentStyle.blockAt?, CommentStyle.lineAt?,
    CommentStyle.multilineAt?, cLike, hline, hblock]

theorem lineAt?_slashes (behind : List Char) :
    ∃ doc, cLike.lineAt? ('/' :: '/' :: behind) = some (.line doc) := by
  have hany : (cLike.line.any (·.isPrefixOf ('/' :: '/' :: behind))) = true := by
    simp [cLike]
  dsimp only [CommentStyle.lineAt?]
  rw [if_pos hany]
  split_ifs
  · exact ⟨true, rfl⟩
  · exact ⟨false, rfl⟩

theorem blockAt?_slash_asterisk (lineStart : Bool) (behind : List Char) :
    ∃ opening doc, opening ≠ [] ∧ cLike.blockAt? lineStart ('/' :: '*' :: behind) =
      some (.block ⟨opening, ['*', '/']⟩ doc) := by
  have hblock : (cLike.block.find? fun d => d.opening.isPrefixOf ('/' :: '*' :: behind)) =
      some ⟨"/*".toList, "*/".toList⟩ := by
    simp [cLike]
  have hstart : (cLike.blockAtLineStart && !lineStart) = false := rfl
  dsimp only [CommentStyle.blockAt?]
  rw [hstart, hblock, if_neg Bool.false_ne_true]
  split
  · next d hdoc =>
    obtain rfl := List.mem_singleton.1 (List.mem_of_find?_eq_some hdoc)
    exact ⟨_, true, List.cons_ne_nil _ _, rfl⟩
  · exact ⟨_, false, List.cons_ne_nil _ _, rfl⟩

/-- Where a comment opens, it runs to the end of the line or to an asterisk and a slash. -/
theorem openerAt?_of_opensComment (lineStart : Bool) (h : OpensComment c rest) :
    (∃ doc, cLike.openerAt? lineStart (c :: rest) = some (.line doc)) ∨
      ∃ opening doc, opening ≠ [] ∧
        cLike.openerAt? lineStart (c :: rest) = some (.block ⟨opening, ['*', '/']⟩ doc) := by
  obtain ⟨rfl, hrest | hrest⟩ := h
  · obtain ⟨behind, rfl⟩ := List.head?_eq_some_iff.1 hrest
    have hblock : cLike.blockAt? lineStart ('/' :: '/' :: behind) = none := by
      simp [CommentStyle.blockAt?, cLike]
    obtain ⟨doc, hdoc⟩ := lineAt?_slashes behind
    exact .inl ⟨doc, by rw [CommentStyle.openerAt?, hblock, hdoc]; rfl⟩
  · obtain ⟨behind, rfl⟩ := List.head?_eq_some_iff.1 hrest
    obtain ⟨opening, doc, hne, hdoc⟩ := blockAt?_slash_asterisk lineStart behind
    exact .inr ⟨opening, doc, hne, by rw [CommentStyle.openerAt?, hdoc]; rfl⟩

end Openers

/-! ## Steps -/

/-- The modes to which these delimiters lead. -/
def ScanMode.InCLike : ScanMode → Prop
  | .block closing _ => closing = ['*', '/']
  | .multiline _ _ => False
  | _ => True

/-- The step finds no code. -/
structure ScanStep.Silent (step : ScanStep) : Prop where
  code : step.found.code = []
  hasCode : step.found.hasCode = false
  mode : step.mode.InCLike

section Steps

variable {s : ScanState} {c : Char} {rest : List Char}

theorem normalStep_of_opensComment (h : OpensComment c rest) :
    (normalStep cLike s c rest).Silent := by
  rw [normalStep]
  obtain ⟨doc, hopener⟩ | ⟨opening, doc, hne, hopener⟩ :=
    openerAt?_of_opensComment (s.codeBlank && !s.docSeen) h
  · rw [hopener]
    exact ⟨rfl, rfl, trivial⟩
  · rw [hopener]
    dsimp only
    rw [List.isEmpty_eq_false_iff.2 hne]
    exact ⟨rfl, rfl, rfl⟩

theorem normalStep_of_quote (h : ¬OpensComment c rest) (hc : c ∈ cLike.quotes) :
    normalStep cLike s c rest =
      { mode := .quoted c false, found := .ofString false [c, c] } := by
  rw [normalStep, openerAt?_of_not_opensComment h]
  simp only [CommentStyle.quoteAt?, List.contains_iff_mem, hc, if_true]

theorem normalStep_of_char (h : ¬OpensComment c rest) (hc : c ∉ cLike.quotes) :
    normalStep cLike s c rest = { mode := .normal, found := .ofChar c } := by
  rw [normalStep, openerAt?_of_not_opensComment h]
  simp only [CommentStyle.quoteAt?, List.contains_iff_mem, hc, if_false]

/-- Inside comments and strings no code is found. -/
theorem scanStep_silent (hs : s.mode.InCLike) (hne : s.mode ≠ .normal) :
    (scanStep cLike s c rest).Silent := by
  obtain ⟨mode, codeBlank, docSeen⟩ := s
  cases mode with
  | normal => exact absurd rfl hne
  | lineComment doc => exact ⟨rfl, rfl, trivial⟩
  | block closing doc =>
    obtain rfl : closing = ['*', '/'] := hs
    dsimp only [scanStep, List.isEmpty_cons]
    rw [if_neg Bool.false_ne_true, blockStep]
    split
    · exact ⟨rfl, rfl, trivial⟩
    · exact ⟨rfl, rfl, rfl⟩
  | multiline delimiter doc => exact hs.elim
  | quoted quote escaped =>
    dsimp only [scanStep]
    repeat' split
    all_goals exact ⟨rfl, rfl, trivial⟩

end Steps

/-! ## Stripped code -/

/-- Code in which nothing opens but empty strings. -/
inductive Stripped : List Char → Prop
  | nil : Stripped []
  | string {quote : Char} {rest : List Char} (hquote : quote ∈ cLike.quotes)
      (hrest : Stripped rest) : Stripped (quote :: quote :: rest)
  | char {c : Char} {rest : List Char} (hc : c ∉ cLike.quotes) (hopens : ¬OpensComment c rest)
      (hrest : Stripped rest) : Stripped (c :: rest)

/-- The code that was found is stripped, is code unless it is blank, and stands on the line. -/
structure Finding.StrippedFrom (found : Finding) (line : List Char) : Prop where
  stripped : Stripped found.code
  hasCode : found.hasCode = !allBlank found.code
  mem : ∀ c ∈ found.code, c ∈ line

theorem not_isBlank_of_quote {c : Char} (hc : c ∈ cLike.quotes) : isBlank c = false := by
  have hquotes : cLike.quotes.any isBlank = false := by decide
  exact Bool.eq_false_iff.2 (List.any_eq_false.1 hquotes c hc)

namespace Finding.StrippedFrom

variable {found : Finding} {line : List Char}

theorem empty (line : List Char) : StrippedFrom {} line where
  stripped := .nil
  hasCode := rfl
  mem := nofun

/-- One more character on the line that contributes nothing. -/
theorem behind (h : found.StrippedFrom line) (c : Char) {silent : Finding}
    (hcode : silent.code = []) (hhasCode : silent.hasCode = false) :
    (silent ++ found).StrippedFrom (c :: line) where
  stripped := by
    rw [code_append, hcode]
    exact h.stripped
  hasCode := by
    rw [hasCode_append, code_append, hcode, hhasCode]
    exact h.hasCode
  mem d hd := by
    rw [code_append, hcode] at hd
    exact List.mem_cons_of_mem c (h.mem d hd)

theorem behindString (h : found.StrippedFrom line) {c : Char} (hc : c ∈ cLike.quotes) :
    (ofString false [c, c] ++ found).StrippedFrom (c :: line) where
  stripped := .string hc h.stripped
  hasCode := by
    have hblank := not_isBlank_of_quote hc
    simp [ofString, allBlank, hblank]
  mem d hd := by
    rcases List.mem_append.1 hd with hd | hd
    · obtain rfl : d = c := by simpa [ofString] using hd
      exact List.mem_cons_self
    · exact List.mem_cons_of_mem c (h.mem d hd)

theorem behindChar (h : found.StrippedFrom line) {c : Char} (hc : c ∉ cLike.quotes)
    (hopens : ¬OpensComment c found.code) : (ofChar c ++ found).StrippedFrom (c :: line) where
  stripped := .char hc hopens h.stripped
  hasCode := by
    rw [hasCode_append, code_append, h.hasCode]
    simp [ofChar, allBlank]
  mem d hd := by
    rcases List.mem_append.1 hd with hd | hd
    · obtain rfl : d = c := List.mem_singleton.1 hd
      exact List.mem_cons_self
    · exact List.mem_cons_of_mem c (h.mem d hd)

end Finding.StrippedFrom

/-! ## Lines -/

section Lines

variable {s : ScanState}

theorem scanRow_cons (style : CommentStyle) (s : ScanState) (c : Char) (rest : List Char) :
    scanRow style s 0 (c :: rest) =
      let step := scanStep style s c rest
      let (mode, found) :=
        scanRow style { s.note step.found with mode := step.mode } step.skip rest
      (mode, step.found ++ found) := rfl

theorem scanStep_normal (style : CommentStyle) (hs : s.mode = .normal) (c : Char)
    (rest : List Char) : scanStep style s c rest = normalStep style s c rest := by
  rw [scanStep, hs]

/-- Code begins with a slash or an asterisk only where the line does so, perhaps with a comment. -/
theorem head?_code_scanRow (hs : s.mode = .normal) {line : List Char} {mark : Char}
    (hmark : mark = '/' ∨ mark = '*') (h : (scanRow cLike s 0 line).2.code.head? = some mark) :
    line.head? = some '/' ∨ line.head? = some '*' := by
  cases line with
  | nil => cases h
  | cons c rest =>
    rw [scanRow_cons, scanStep_normal cLike hs] at h
    by_cases hopens : OpensComment c rest
    · exact .inl (congrArg some hopens.1)
    by_cases hc : c ∈ cLike.quotes
    · rw [normalStep_of_quote hopens hc] at h
      have hquotes : '/' ∉ cLike.quotes ∧ '*' ∉ cLike.quotes := by decide
      obtain rfl : c = mark := Option.some.inj h
      rcases hmark with rfl | rfl
      · exact absurd hc hquotes.1
      · exact absurd hc hquotes.2
    · rw [normalStep_of_char hopens hc] at h
      obtain rfl : c = mark := Option.some.inj h
      exact hmark.imp (congrArg some) (congrArg some)

/-- What a scan finds on a line is stripped. -/
theorem scanRow_strippedFrom (hs : s.mode.InCLike) (skip : Nat) (line : List Char) :
    (scanRow cLike s skip line).1.InCLike ∧
      (scanRow cLike s skip line).2.StrippedFrom line := by
  induction line generalizing s skip with
  | nil =>
    obtain ⟨mode, codeBlank, docSeen⟩ := s
    refine ⟨?_, by cases skip <;> exact .empty []⟩
    cases skip <;> cases mode <;> exact hs
  | cons c rest ih =>
    cases skip with
    | succ skip =>
      obtain ⟨hmode, hfound⟩ := ih hs skip
      exact ⟨hmode, hfound.stripped, hfound.hasCode,
        fun d hd => List.mem_cons_of_mem c (hfound.mem d hd)⟩
    | zero =>
      have hsilent (h : (scanStep cLike s c rest).Silent) :
          (scanRow cLike s 0 (c :: rest)).1.InCLike ∧
            (scanRow cLike s 0 (c :: rest)).2.StrippedFrom (c :: rest) := by
        obtain ⟨hmode, hfound⟩ :=
          ih (s := { s.note (scanStep cLike s c rest).found with
            mode := (scanStep cLike s c rest).mode }) h.mode (scanStep cLike s c rest).skip
        exact ⟨hmode, hfound.behind c h.code h.hasCode⟩
      by_cases hnormal : s.mode = .normal
      · by_cases hopens : OpensComment c rest
        · apply hsilent
          rw [scanStep_normal cLike hnormal]
          exact normalStep_of_opensComment hopens
        rw [scanRow_cons, scanStep_normal cLike hnormal]
        by_cases hc : c ∈ cLike.quotes
        · rw [normalStep_of_quote hopens hc]
          obtain ⟨hmode, hfound⟩ := ih (s := { s.note (.ofString false [c, c]) with
            mode := .quoted c false }) trivial 0
          exact ⟨hmode, hfound.behindString hc⟩
        · rw [normalStep_of_char hopens hc]
          obtain ⟨hmode, hfound⟩ :=
            ih (s := { s.note (.ofChar c) with mode := .normal }) trivial 0
          refine ⟨hmode, hfound.behindChar hc ?_⟩
          -- what is removed behind a slash cannot bring a slash or an asterisk next to it
          rintro ⟨hslash, hhead⟩
          refine hopens ⟨hslash, ?_⟩
          rcases hhead with hhead | hhead
          · exact head?_code_scanRow rfl (.inl rfl) hhead
          · exact head?_code_scanRow rfl (.inr rfl) hhead
      · exact hsilent (scanStep_silent hs hnormal)

/-- A scan finds stripped code as it stands. -/
theorem Stripped.scanRow {code : List Char} (h : Stripped code) (hs : s.mode = .normal) :
    scanRow cLike s 0 code = (.normal, { code, hasCode := !allBlank code }) := by
  induction h generalizing s with
  | nil =>
    rw [Affinity.scanRow, hs]
    rfl
  | @string quote rest hquote _ ih =>
    have hopens (rest : List Char) : ¬OpensComment quote rest := by
      rintro ⟨rfl, -⟩
      revert hquote
      decide
    have hbackslash : quote ≠ '\\' := by
      rintro rfl
      revert hquote
      decide
    have hblank := not_isBlank_of_quote hquote
    rw [scanRow_cons, scanStep_normal cLike hs, normalStep_of_quote (hopens _) hquote]
    dsimp only
    rw [scanRow_cons]
    dsimp only [scanStep]
    rw [if_neg Bool.false_ne_true, if_neg hbackslash, if_pos rfl]
    dsimp only
    rw [ih rfl]
    apply Prod.ext
    · rfl
    · apply Finding.ext <;> simp [Finding.ofString, allBlank, hblank]
  | @char c rest hc hopens _ ih =>
    rw [scanRow_cons, scanStep_normal cLike hs, normalStep_of_char hopens hc]
    dsimp only
    rw [ih rfl]
    apply Prod.ext
    · rfl
    · apply Finding.ext <;> simp [Finding.ofChar, allBlank]

end Lines

/-! ## Texts -/

/-- The code of all rows, each on a line of its own. -/
def strippedText (rows : List Row) : List Char :=
  rows.flatMap fun row => row.code ++ ['\n']

/-- The row of a line on which nothing stands but the code of this row. -/
def Row.codeOnly (row : Row) : Row where
  raw := row.code
  kind := if row.isCode then .code else .blank
  code := row.code
  comment := []

/-- The code of the row is stripped, makes it a row of code unless it is blank, and stands on the
line. -/
structure Row.IsStripped (row : Row) : Prop where
  stripped : Stripped row.code
  isCode : row.isCode = !allBlank row.code
  mem : ∀ c ∈ row.code, c ∈ row.raw

theorem Row.isCode_ofFinding (raw : List Char) (found : Finding) :
    (Row.ofFinding raw found).isCode = found.hasCode := by
  obtain ⟨code, comment, hasCode, hasDoc, hasComment⟩ := found
  cases hasCode <;> cases hasDoc <;> cases hasComment <;> rfl

theorem classifyLines_isStripped (mode : ScanMode) (hmode : mode.InCLike)
    (lines : List (List Char)) : ∀ row ∈ classifyLines cLike mode lines, row.IsStripped := by
  induction lines generalizing mode with
  | nil => nofun
  | cons line others ih =>
    obtain ⟨hnext, hfound⟩ := scanRow_strippedFrom (s := { mode }) hmode 0 line
    intro row hrow
    rcases List.mem_cons.1 hrow with rfl | hrow
    · exact ⟨hfound.stripped, (Row.isCode_ofFinding line _).trans hfound.hasCode, hfound.mem⟩
    · exact ih _ hnext row hrow

theorem Row.IsStripped.codeOnly {row : Row} (h : row.IsStripped) :
    row.codeOnly = .ofFinding row.code { code := row.code, hasCode := !allBlank row.code } := by
  unfold Row.codeOnly
  rw [h.isCode]
  cases allBlank row.code <;> rfl

/-- The code of stripped rows, classified again. -/
theorem classifyLines_code {rows : List Row} (h : ∀ row ∈ rows, row.IsStripped) :
    classifyLines cLike .normal (rows.map (·.code)) = rows.map Row.codeOnly := by
  induction rows with
  | nil => rfl
  | cons row others ih =>
    have hrow := h row List.mem_cons_self
    rw [List.map_cons, List.map_cons, classifyLines, hrow.stripped.scanRow rfl, hrow.codeOnly]
    dsimp only
    rw [ih fun other hother => h other (List.mem_cons_of_mem row hother)]

/-- **Stripped code is a fixpoint.** The code of all lines of a text without carriage returns, put
on lines again, is classified as that code: on every line the same code is found and no comment, the
lines of code are lines of code and all others are blank. -/
theorem classify_stripped (content : List Char) (h : '\r' ∉ content) :
    classify cLike (strippedText (classify cLike content)) =
      (classify cLike content).map Row.codeOnly := by
  have hrows : ∀ row ∈ classify cLike content, row.IsStripped :=
    classifyLines_isStripped .normal trivial (lines content)
  have hraw : ∀ row ∈ classify cLike content, row.raw ∈ lines content := by
    intro row hrow
    rw [← raw_classifyLines cLike .normal (lines content)]
    exact List.mem_map_of_mem hrow
  have hlines : lines (strippedText (classify cLike content)) =
      (classify cLike content).map (·.code) := by
    have htext : strippedText (classify cLike content) =
        ((classify cLike content).map (·.code)).flatMap (· ++ ['\n']) := by
      rw [List.flatMap_map]
      rfl
    rw [htext]
    apply lines_closed
    intro line hline
    obtain ⟨row, hrow, rfl⟩ := List.mem_map.1 hline
    have hmem {c : Char} (hc : c ∈ row.code) : c ∈ content ∧ c ≠ '\n' :=
      mem_of_mem_lines (hraw row hrow) ((hrows row hrow).mem c hc)
    exact ⟨fun hfeed => (hmem hfeed).2 rfl, fun hreturn => h (hmem hreturn).1⟩
  rw [classify, hlines, classifyLines_code hrows]

/-- Slashes and asterisks around comments, strings with escapes, and a string and a comment that are
not closed. -/
theorem classify_stripped_slashes :
    let content := "a / b/* c */* d // e\n'it\\'s' / \"x\n/** f\n*/ / /* g".toList
    '\r' ∉ content ∧
      classify cLike (strippedText (classify cLike content)) =
        (classify cLike content).map Row.codeOnly ∧
      (classify cLike content).map (·.code) =
        ["a / b* d ".toList, "'' / \"\"".toList, [], " / ".toList] := by
  intro content
  have hreturn : '\r' ∉ content := by decide +kernel
  exact ⟨hreturn, classify_stripped content hreturn, by decide +kernel⟩

end Affinity
