import Affinity.Profile.Batch
import Affinity.Proofs.Comment.Stretches

/-!
# Scanning a line in rounds

A line can be scanned in rounds instead of character by character. A round slices a whole stretch
off the front of what is left of the line: an opener, a comment up to its end, a string or a
character of the code. The slices are by byte positions and can fail, and nothing in the shape of
the rounds says that they come to an end.

* `round`, `rounds`, `classifyByRounds` — a round, the rounds of a line, the lines of a text.
* `round_eq_ok` — a round succeeds, shortens the line and keeps what the scan of the rest will find.
* `rounds_eq_ok` — there are no more rounds than characters on the line, and they find what
  `scanRow` finds.
* `classify_inRounds` — the rounds classify every text, with one row for each of its lines.
-/

namespace Affinity

open String (utf8Len)

/-! ## Openers by slices -/

/-- The first block of documentation that opens here and that no slash follows. -/
def docBlockBySlices (rest : List Char) :
    List BlockDelimiters → Except ScanFault (Option BlockDelimiters)
  | [] => return none
  | d :: others =>
    if d.opening.isPrefixOf rest then do
      let behind ← sliceFrom rest (utf8Len d.opening)
      if ['/'].isPrefixOf behind then docBlockBySlices rest others else return some d
    else docBlockBySlices rest others

/-- The last byte of an opener, as a text. -/
def lastByte (opener : List Char) : Except ScanFault (List Char) :=
  if utf8Len opener = 0 then .error .outOfRange else sliceFrom opener (utf8Len opener - 1)

/-- Whether the opener stands here and its last character is not repeated. -/
def opensDocLine (rest : List Char) : Option (List Char) → Except ScanFault Bool
  | none => return false
  | some d => do
    let behind ← sliceFrom rest (utf8Len d)
    let last ← lastByte d
    return !last.isPrefixOf behind

namespace CommentStyle

/-- The block comment that opens here, as `blockAt?` finds it. -/
def blockBySlices (style : CommentStyle) (lineStart : Bool) (rest : List Char) :
    Except ScanFault (Option Opener) :=
  if style.blockAtLineStart && !lineStart then return none
  else do
    match ← docBlockBySlices rest style.docBlock with
    | some d => return some (.block d true)
    | none => return (style.block.find? fun d => d.opening.isPrefixOf rest).map (.block · false)

/-- The line comment that opens here, as `lineAt?` finds it. -/
def lineBySlices (style : CommentStyle) (rest : List Char) : Except ScanFault (Option Opener) := do
  if ← opensDocLine rest (style.docLine.find? (·.isPrefixOf rest)) then return some (.line true)
  else if style.line.any (·.isPrefixOf rest) then return some (.line false)
  else return none

/-- What opens here, as `openerAt?` finds it. -/
def openerBySlices (style : CommentStyle) (lineStart : Bool) (rest : List Char) :
    Except ScanFault (Option Opener) := do
  match ← style.blockBySlices lineStart rest with
  | some opener => return some opener
  | none =>
    match ← style.lineBySlices rest with
    | some opener => return some opener
    | none => return (style.multilineAt? rest) <|> (style.quoteAt? rest)

end CommentStyle

/-! ## Rounds -/

/-- Where the scan is between two rounds. -/
inductive RoundMode where
  | normal
  | block (closing : List Char) (doc : Bool)
  | multiline (delimiter : List Char) (doc : Bool)
  deriving DecidableEq, Repr

/-- The state between two rounds: the mode, what is left of the line and what was found on it. -/
structure RoundState where
  mode : RoundMode := .normal
  rest : List Char
  found : Finding := {}
  deriving DecidableEq, Repr

/-- A round outside comments and strings. -/
def normalRound (style : CommentStyle) (found : Finding) (rest : List Char) :
    Except ScanFault RoundState := do
  match ← style.openerBySlices (allBlank found.code && !found.hasDoc) rest with
  | some (.block d doc) =>
    let behind ← sliceFrom rest (utf8Len d.opening)
    return { mode := .block d.closing doc, rest := behind, found := found ++ .ofComment doc [] }
  | some (.line doc) => return { rest := [], found := found ++ .ofComment doc rest }
  | some (.multiline delimiter) =>
    let doc := style.docstrings && allBlank found.code
    let behind ← sliceFrom rest (utf8Len delimiter)
    return { mode := .multiline delimiter doc, rest := behind,
             found := found ++ .ofString doc delimiter }
  | some (.quote quote) =>
    let inside ← sliceFrom rest quote.utf8Size
    let behind ← skipString quote inside
    return { rest := behind, found := found ++ .ofString false [quote, quote] }
  | none =>
    match rest with
    | [] => return { rest := [], found }
    | c :: others => return { rest := others, found := found ++ .ofChar c }

/-- A round of the scan of a line. -/
def round (style : CommentStyle) (s : RoundState) : Except ScanFault RoundState :=
  match s.mode with
  | .normal => normalRound style s.found s.rest
  | .block closing doc =>
    match position? closing s.rest with
    | some position => do
      let before ← sliceTo s.rest position
      let behind ← sliceFrom s.rest (position + utf8Len closing)
      return { rest := behind, found := s.found ++ .ofComment doc before }
    | none => return { s with rest := [], found := s.found ++ .ofComment doc s.rest }
  | .multiline delimiter doc =>
    match position? delimiter s.rest with
    | some position => do
      let behind ← sliceFrom s.rest (position + utf8Len delimiter)
      return { rest := behind, found := s.found ++ .ofString doc delimiter }
    | none => return { s with rest := [], found := s.found ++ .ofString doc [] }

/-- At most `limit` rounds, until nothing of the line is left. -/
def rounds (style : CommentStyle) : Nat → RoundState → Except ScanFault RoundState
  | limit, s =>
    if s.rest.isEmpty then return s
    else
      match limit with
      | 0 => .error .unfinished
      | limit + 1 => do rounds style limit (← round style s)

/-- Scans lines one after the other in rounds, as many on a line as it has characters. -/
def classifyByRounds (style : CommentStyle) :
    RoundMode → List (List Char) → Except ScanFault (List Row)
  | _, [] => return []
  | mode, line :: others => do
    let last ← rounds style line.length { mode, rest := line }
    let rows ← classifyByRounds style last.mode others
    return .ofFinding line last.found :: rows

/-! ## Openers by slices are openers -/

/-- The delimiters of the style can be sliced off where they stand. -/
structure CommentStyle.Sliceable (style : CommentStyle) : Prop where
  nonempty : ∀ d ∈ style.delimiters, d ≠ []
  ascii : ∀ d ∈ style.docLine, ∀ c ∈ d, c.toNat < 128

theorem CommentStyle.sliceable_iff (style : CommentStyle) :
    style.Sliceable ↔
      (style.delimiters.all fun d => !d.isEmpty) = true ∧
        (style.docLine.all fun d => d.all fun c => c.toNat < 128) = true := by
  simp only [List.all_eq_true, Bool.not_eq_true', List.isEmpty_eq_false_iff, decide_eq_true_eq]
  exact ⟨fun h => ⟨h.nonempty, h.ascii⟩, fun h => ⟨h.1, h.2⟩⟩

instance (style : CommentStyle) : Decidable style.Sliceable :=
  decidable_of_iff' _ style.sliceable_iff

theorem singleton_isPrefixOf (c : Char) (text : List Char) :
    [c].isPrefixOf text = (text.head? == some c) := by
  cases text with
  | nil => rfl
  | cons first rest => simp [List.isPrefixOf, eq_comm]

theorem docBlockBySlices_eq (rest : List Char) (ds : List BlockDelimiters) :
    docBlockBySlices rest ds = .ok (ds.find? fun d =>
      d.opening.isPrefixOf rest && (rest.drop d.opening.length).head? != some '/') := by
  induction ds with
  | nil => rfl
  | cons d others ih =>
    rw [docBlockBySlices, List.find?_cons]
    cases hopens : d.opening.isPrefixOf rest with
    | false => exact ih
    | true =>
      rw [if_pos rfl, sliceFrom_of_isPrefix (List.isPrefixOf_iff_prefix.1 hopens)]
      dsimp only [bind, Except.bind]
      rw [ih, singleton_isPrefixOf, Bool.true_and, bne]
      cases (rest.drop d.opening.length).head? == some '/' <;> rfl

theorem lastByte_eq {opener : List Char} {last : Char} (hlast : opener.getLast? = some last)
    (hascii : last.toNat < 128) : lastByte opener = .ok [last] := by
  have hsize : last.utf8Size = 1 := Char.utf8Size_eq_one_iff.2 (Nat.le_of_lt_succ hascii)
  obtain ⟨start, rfl⟩ := List.getLast?_eq_some_iff.1 hlast
  have hlength : utf8Len (start ++ [last]) = utf8Len start + 1 := by simp [hsize]
  rw [lastByte, hlength, if_neg (Nat.succ_ne_zero _), Nat.add_sub_cancel, sliceFrom_utf8Len]

namespace CommentStyle

variable {style : CommentStyle}

theorem blockBySlices_eq (style : CommentStyle) (lineStart : Bool) (rest : List Char) :
    style.blockBySlices lineStart rest = .ok (style.blockAt? lineStart rest) := by
  unfold blockBySlices blockAt?
  split
  · rfl
  · rw [docBlockBySlices_eq]
    dsimp only [bind, Except.bind]
    generalize style.docBlock.find? _ = doc?
    cases doc? <;> rfl

theorem Sliceable.opensDocLine_eq (h : style.Sliceable) {d rest : List Char}
    (hmem : d ∈ style.docLine) (hopens : d <+: rest) :
    opensDocLine rest (some d) = .ok ((rest.drop d.length).head? != d.getLast?) := by
  have hne : d ≠ [] := h.nonempty d (mem_delimiters_of_line (.inr hmem))
  have hlast := List.getLast?_eq_some_getLast hne
  have hascii := h.ascii d hmem _ (List.getLast_mem hne)
  rw [opensDocLine, sliceFrom_of_isPrefix hopens, lastByte_eq hlast hascii]
  dsimp only [bind, Except.bind]
  rw [singleton_isPrefixOf, hlast]
  rfl

theorem Sliceable.lineBySlices_eq (h : style.Sliceable) (rest : List Char) :
    style.lineBySlices rest = .ok (style.lineAt? rest) := by
  unfold lineBySlices lineAt?
  cases hfind : style.docLine.find? (·.isPrefixOf rest) with
  | none =>
    dsimp only [opensDocLine, bind, Except.bind, pure, Except.pure]
    split_ifs <;> rfl
  | some d =>
    have hopens := List.find?_some hfind
    rw [h.opensDocLine_eq (List.mem_of_find?_eq_some hfind) (List.isPrefixOf_iff_prefix.1 hopens)]
    dsimp only [bind, Except.bind]
    split_ifs <;> rfl

/-- Slices find what opens here. -/
theorem Sliceable.openerBySlices_eq (h : style.Sliceable) (lineStart : Bool) (rest : List Char) :
    style.openerBySlices lineStart rest = .ok (style.openerAt? lineStart rest) := by
  rw [openerBySlices, blockBySlices_eq, h.lineBySlices_eq, openerAt?]
  dsimp only [bind, Except.bind]
  cases style.blockAt? lineStart rest with
  | some opener => rfl
  | none => cases style.lineAt? rest <;> rfl

theorem Sliceable.opening_ne_nil (h : style.Sliceable) {d : BlockDelimiters}
    (hd : d ∈ style.block ∨ d ∈ style.docBlock) : d.opening ≠ [] :=
  h.nonempty _ (mem_delimiters_of_block hd).1

end CommentStyle

/-! ## Rounds keep what the scan will find -/

/-- The mode of the scan between two rounds. -/
def RoundMode.toScanMode : RoundMode → ScanMode
  | .normal => .normal
  | .block closing doc => .block closing doc
  | .multiline delimiter doc => .multiline delimiter doc

theorem RoundMode.afterLine_toScanMode (mode : RoundMode) :
    mode.toScanMode.afterLine = mode.toScanMode := by
  cases mode <;> rfl

/-- What the scan makes of the line from here on. -/
def RoundState.outcome (style : CommentStyle) (s : RoundState) : ScanMode × Finding :=
  scanFrom style s.mode.toScanMode s.found 0 s.rest

/-- From `s` to `next` the line gets shorter, and the scan makes the same of it. -/
structure RoundState.Advances (style : CommentStyle) (s next : RoundState) : Prop where
  shorter : next.rest.length < s.rest.length
  fits : next.mode.toScanMode.Fits style
  outcome : next.outcome style = s.outcome style

section Advances

variable {style : CommentStyle} {mode : RoundMode} {closing : List Char}
  {inside : List Char → Finding} {last : Finding}

theorem Awaits.advances_closed (h : Awaits style mode.toScanMode closing inside last)
    (found : Finding) {before behind : List Char}
    (hbefore : NotWithin closing before (closing ++ behind)) :
    RoundState.Advances style { mode, rest := before ++ (closing ++ behind), found }
      { rest := behind, found := found ++ (inside before ++ last) } where
  shorter := by
    have hclosing := List.length_pos_iff.2 h.closing_ne_nil
    simp only [List.length_append]
    omega
  fits := trivial
  outcome := (h.scanFrom_closed found hbefore).symm

theorem Awaits.advances_unclosed (h : Awaits style mode.toScanMode closing inside last)
    (hfits : mode.toScanMode.Fits style) (found : Finding) {text : List Char} (hne : text ≠ [])
    (htext : NotWithin closing text []) :
    RoundState.Advances style { mode, rest := text, found }
      { mode, rest := [], found := found ++ inside text } where
  shorter := List.length_pos_iff.2 hne
  fits := hfits
  outcome := by
    unfold RoundState.outcome
    rw [h.scanFrom_unclosed found hne htext, scanFrom_nil, mode.afterLine_toScanMode]

/-- A round outside comments and strings succeeds. -/
theorem CommentStyle.Sliceable.normalRound_eq_ok (h : style.Sliceable) (found : Finding) (c : Char)
    (others : List Char) : ∃ next, normalRound style found (c :: others) = .ok next ∧
      RoundState.Advances style { rest := c :: others, found } next := by
  have hscan := (scanFrom_normal h.nonempty found c others).symm
  rw [normalRound, h.openerBySlices_eq]
  cases hopener : style.openerAt? (allBlank found.code && !found.hasDoc) (c :: others) with
  | none =>
    rw [hopener] at hscan
    exact ⟨_, rfl, Nat.lt_succ_self _, trivial, hscan⟩
  | some opener =>
    rw [hopener] at hscan
    have hfits := openerAt?_fits hopener
    cases opener with
    | block d doc =>
      have hpos := List.length_pos_iff.2 (h.opening_ne_nil hfits.1)
      dsimp only [bind, Except.bind]
      rw [sliceFrom_of_isPrefix hfits.2]
      refine ⟨_, rfl, ?_, (mem_delimiters_of_block hfits.1).2, hscan⟩
      simp only [List.length_drop, List.length_cons]
      omega
    | line doc => exact ⟨_, rfl, Nat.succ_pos _, trivial, (scanFrom_nil 0).trans hscan⟩
    | multiline delimiter =>
      have hmem := mem_delimiters_of_multiline hfits.1
      have hpos := List.length_pos_iff.2 (h.nonempty delimiter hmem)
      dsimp only [bind, Except.bind]
      rw [sliceFrom_of_isPrefix hfits.2]
      refine ⟨_, rfl, ?_, hmem, hscan⟩
      simp only [List.length_drop, List.length_cons]
      omega
    | quote quote =>
      obtain rfl : c = quote := Option.some.inj hfits.2
      obtain ⟨behind, hskip, hlength, hbehind⟩ :=
        skipString_eq_ok style (found ++ .ofString false [c, c]) c others
      dsimp only [bind, Except.bind]
      rw [sliceFrom_utf8Size]
      dsimp only
      rw [hskip]
      exact ⟨_, rfl, Nat.lt_succ_of_le hlength, trivial, hbehind.symm.trans hscan⟩

/-- A round succeeds: it takes something off the line, and the scan makes the same of the rest. -/
theorem CommentStyle.Sliceable.round_eq_ok (h : style.Sliceable) {s : RoundState}
    (hfits : s.mode.toScanMode.Fits style) (hrest : s.rest ≠ []) :
    ∃ next, round style s = .ok next ∧ RoundState.Advances style s next := by
  obtain ⟨mode, rest, found⟩ := s
  cases mode with
  | normal =>
    obtain ⟨c, others, rfl⟩ := List.exists_cons_of_ne_nil hrest
    exact h.normalRound_eq_ok found c others
  | block closing doc =>
    have hawaits : Awaits style (RoundMode.block closing doc).toScanMode closing _ _ :=
      awaits_block style (h.nonempty closing hfits) doc
    dsimp only [round]
    cases hposition : position? closing rest with
    | none =>
      exact ⟨_, rfl, hawaits.advances_unclosed hfits found hrest (position?_eq_none hposition)⟩
    | some position =>
      obtain ⟨before, behind, rfl, rfl, hbefore⟩ := position?_eq_some hposition
      have hadvances := hawaits.advances_closed found hbefore
      rw [Finding.ofComment_append, List.append_nil] at hadvances
      dsimp only [bind, Except.bind]
      rw [sliceTo_utf8Len, sliceFrom_behind]
      exact ⟨_, rfl, hadvances⟩
  | multiline delimiter doc =>
    have hawaits : Awaits style (RoundMode.multiline delimiter doc).toScanMode delimiter _ _ :=
      awaits_multiline style (h.nonempty delimiter hfits) doc
    dsimp only [round]
    cases hposition : position? delimiter rest with
    | none =>
      exact ⟨_, rfl, hawaits.advances_unclosed hfits found hrest (position?_eq_none hposition)⟩
    | some position =>
      obtain ⟨before, behind, rfl, rfl, hbefore⟩ := position?_eq_some hposition
      have hadvances := hawaits.advances_closed found hbefore
      rw [Finding.ofString_append] at hadvances
      dsimp only [bind, Except.bind]
      rw [sliceFrom_behind]
      exact ⟨_, rfl, hadvances⟩

/-- As many rounds as there are characters use up the line and find what the scan finds. -/
theorem CommentStyle.Sliceable.rounds_eq_ok (h : style.Sliceable) {limit : Nat} {s : RoundState}
    (hfits : s.mode.toScanMode.Fits style) (hlimit : s.rest.length ≤ limit) :
    ∃ last, rounds style limit s = .ok last ∧ last.mode.toScanMode.Fits style ∧
      (last.mode.toScanMode, last.found) = s.outcome style := by
  induction limit generalizing s with
  | zero =>
    have hrest : s.rest = [] := List.eq_nil_of_length_eq_zero (Nat.le_zero.1 hlimit)
    refine ⟨s, by rw [rounds, if_pos (List.isEmpty_iff.2 hrest)]; rfl, hfits, ?_⟩
    rw [RoundState.outcome, hrest, scanFrom_nil, s.mode.afterLine_toScanMode]
  | succ limit ih =>
    by_cases hrest : s.rest = []
    · refine ⟨s, by rw [rounds, if_pos (List.isEmpty_iff.2 hrest)]; rfl, hfits, ?_⟩
      rw [RoundState.outcome, hrest, scanFrom_nil, s.mode.afterLine_toScanMode]
    · -- a round takes something off the line, so one less is enough for what is left
      obtain ⟨next, hround, hadvances⟩ := h.round_eq_ok hfits hrest
      have hshorter := hadvances.shorter
      obtain ⟨last, hrounds, hlast, houtcome⟩ := ih hadvances.fits (by omega)
      refine ⟨last, ?_, hlast, houtcome.trans hadvances.outcome⟩
      rw [rounds, if_neg (mt List.isEmpty_iff.1 hrest), hround]
      exact hrounds

/-- The rounds classify lines as the scan does. -/
theorem CommentStyle.Sliceable.classifyByRounds_eq_ok (h : style.Sliceable) (mode : RoundMode)
    (hfits : mode.toScanMode.Fits style) (lines : List (List Char)) :
    classifyByRounds style mode lines = .ok (classifyLines style mode.toScanMode lines) := by
  induction lines generalizing mode with
  | nil => rfl
  | cons line others ih =>
    have hline := h.rounds_eq_ok (s := { mode, rest := line }) hfits le_rfl
    obtain ⟨last, hrounds, hlast, houtcome⟩ := hline
    have hscan : (last.mode.toScanMode, last.found) =
        scanRow style { mode := mode.toScanMode } 0 line :=
      houtcome.trans (scanFrom_empty line)
    rw [classifyByRounds, hrounds]
    dsimp only [bind, Except.bind]
    rw [ih _ hlast, classifyLines, ← hscan]
    rfl

end Advances

/-! ## Every text is classified -/

/-- The delimiters of every language can be sliced off. -/
theorem Language.sliceable_comments (language : Language) :
    language.rules.comments.Sliceable := by
  cases language <;> decide +kernel

/-- The rounds classify every text: on each line they come to an end without a faulty slice. There
is one row for every line, and every line is of one kind. -/
theorem classify_inRounds :
    (∀ language : Language, language.rules.comments.Sliceable) ∧
      ∀ style : CommentStyle, style.Sliceable → ∀ content : List Char,
        classifyByRounds style .normal (lines content) = .ok (classify style content) ∧
          (classify style content).map (·.raw) = lines content ∧
          let counts := LineCounts.ofRows (classify style content)
          counts.code + counts.comment + counts.doc + counts.blank = counts.total ∧
            counts.total = lineCount content := by
  refine ⟨Language.sliceable_comments, fun style h content => ⟨?_, ?_, ?_, ?_⟩⟩
  · exact h.classifyByRounds_eq_ok .normal trivial (lines content)
  · exact raw_classifyLines style .normal (lines content)
  · exact LineCounts.kinds_ofRows _
  · exact length_classifyLines style .normal (lines content)

/-- A string and a comment that are not closed, with characters of several bytes. -/
theorem classify_inRounds_unclosed :
    let style := (Language.rules .swift).comments
    let content := "let s = \"é\n/* ü\n\n∈ /* //".toList
    style.Sliceable ∧
      classifyByRounds style .normal (lines content) = .ok (classify style content) ∧
        LineCounts.ofRows (classify style content) =
          { total := 4, code := 1, comment := 2, doc := 0, blank := 1 } :=
  ⟨classify_inRounds.1 .swift,
    (classify_inRounds.2 _ (classify_inRounds.1 .swift) _).1, by decide +kernel⟩

/-- An opener of documentation that ends with a character of two bytes is cut in that character. -/
example : classifyByRounds { docLine := [['é']] } .normal [['é', 'x']] =
    .error .insideCharacter := by
  decide +kernel

/-- A string with an empty delimiter opens and closes for ever. -/
example : classifyByRounds { multilineStrings := [[]] } .normal [['x']] = .error .unfinished := by
  decide +kernel

end Affinity
