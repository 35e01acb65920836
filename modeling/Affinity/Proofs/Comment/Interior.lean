import Affinity.Profile.Batch
import Affinity.Proofs.Comment.Scan
import Affinity.Proofs.Text.Places

/-!
# The interior of comments and strings

What is written inside comments and strings does not influence the code. Two texts are compared that
differ only in letters, numbers and spaces, and only where the first is read inside a comment or a
string; both are scanned side by side.

* `CommentStyle.Punctuated` — no delimiter contains a letter, a number or a space.
* `readRows`, `ReadInside` — the mode in which each character of a text is read.
* `scanStep_congr` — one step on both texts goes to the same mode and finds the same code.
* `scanRow_congr`, `classifyLines_congr` — so does a line, and so do all lines.
* `classify_congr_inside` — the texts have the same kinds of lines and the same code.
-/

namespace Affinity

/-! ## Neutral characters -/

/-- A letter, a number or a space. -/
def Neutral (c : Char) : Prop :=
  isAlphanumeric c = true ∨ c = ' '

instance : DecidablePred Neutral := fun _ => inferInstanceAs (Decidable (_ ∨ _))

/-- The characters are the same, or both are neutral. -/
def Interchangeable (c d : Char) : Prop :=
  c = d ∨ Neutral c ∧ Neutral d

theorem Interchangeable.eq_iff {c d mark : Char} (h : Interchangeable c d)
    (hmark : ¬Neutral mark) : c = mark ↔ d = mark := by
  rcases h with rfl | ⟨hc, hd⟩
  · rfl
  · exact iff_of_false (fun heq => hmark (heq ▸ hc)) (fun heq => hmark (heq ▸ hd))

theorem keepsBreaks_interchangeable : KeepsBreaks Interchangeable := fun _ _ h =>
  ⟨h.eq_iff (by decide), h.eq_iff (by decide)⟩

/-- No delimiter is empty or contains a neutral character. -/
structure CommentStyle.Punctuated (style : CommentStyle) : Prop where
  nonempty : ∀ d ∈ style.delimiters, d ≠ []
  delimiters : ∀ d ∈ style.delimiters, ∀ c ∈ d, ¬Neutral c
  quotes : ∀ q ∈ style.quotes, ¬Neutral q

theorem CommentStyle.punctuated_iff (style : CommentStyle) :
    style.Punctuated ↔
      (style.delimiters.all fun d => !d.isEmpty && d.all fun c => !decide (Neutral c)) = true ∧
        (style.quotes.all fun q => !decide (Neutral q)) = true := by
  simp only [List.all_eq_true, Bool.and_eq_true, Bool.not_eq_true', decide_eq_false_iff_not,
    List.isEmpty_eq_false_iff]
  exact ⟨fun h => ⟨fun d hd => ⟨h.nonempty d hd, h.delimiters d hd⟩, h.quotes⟩,
    fun h => ⟨fun d hd => (h.1 d hd).1, fun d hd => (h.1 d hd).2, h.2⟩⟩

instance (style : CommentStyle) : Decidable style.Punctuated :=
  decidable_of_iff' _ style.punctuated_iff

/-! ## Openers -/

section Openers

variable {a b : List Char}

theorem isPrefixOf_congr {delimiter : List Char} (hmarks : ∀ c ∈ delimiter, ¬Neutral c)
    (h : List.Forall₂ Interchangeable a b) : delimiter.isPrefixOf a = delimiter.isPrefixOf b := by
  induction delimiter generalizing a b with
  | nil => rw [List.isPrefixOf_nil_left, List.isPrefixOf_nil_left]
  | cons mark others ih =>
    cases h with
    | nil => rfl
    | cons hcd hrest =>
      have hmark := hcd.eq_iff (hmarks mark List.mem_cons_self)
      have hothers := ih (fun c hc => hmarks c (List.mem_cons_of_mem mark hc)) hrest
      rw [eq_comm, @eq_comm _ _ mark] at hmark
      rw [List.isPrefixOf_cons_cons, List.isPrefixOf_cons_cons, hothers,
        Bool.eq_iff_iff.2 (beq_iff_eq.trans (hmark.trans beq_iff_eq.symm))]

theorem head?_beq_congr {mark : Char} (hmark : ¬Neutral mark)
    (h : List.Forall₂ Interchangeable a b) : (a.head? == some mark) = (b.head? == some mark) := by
  cases h with
  | nil => rfl
  | cons hcd _ =>
    rw [Bool.eq_iff_iff, beq_iff_eq, beq_iff_eq, List.head?_cons, List.head?_cons]
    simpa using hcd.eq_iff hmark

theorem find?_congr_of_mem {α : Type} {p q : α → Bool} {l : List α} (h : ∀ x ∈ l, p x = q x) :
    l.find? p = l.find? q := by
  induction l with
  | nil => rfl
  | cons x others ih =>
    rw [List.find?_cons, List.find?_cons, h x List.mem_cons_self,
      ih fun y hy => h y (List.mem_cons_of_mem x hy)]

namespace CommentStyle.Punctuated

variable {style : CommentStyle} (h : style.Punctuated)
include h

theorem isPrefixOf_congr {delimiter : List Char} (hmem : delimiter ∈ style.delimiters)
    (hab : List.Forall₂ Interchangeable a b) :
    delimiter.isPrefixOf a = delimiter.isPrefixOf b :=
  Affinity.isPrefixOf_congr (h.delimiters delimiter hmem) hab

theorem blockAt?_congr (lineStart : Bool) (hab : List.Forall₂ Interchangeable a b) :
    style.blockAt? lineStart a = style.blockAt? lineStart b := by
  have hdoc : (style.docBlock.find? fun d =>
        d.opening.isPrefixOf a && (a.drop d.opening.length).head? != some '/') =
      style.docBlock.find? fun d =>
        d.opening.isPrefixOf b && (b.drop d.opening.length).head? != some '/' := by
    apply find?_congr_of_mem
    intro d hd
    have hslash : ¬Neutral '/' := by decide
    rw [h.isPrefixOf_congr (mem_delimiters_of_block (.inr hd)).1 hab, bne, bne,
      head?_beq_congr hslash (List.forall₂_drop _ hab)]
  have hblock : (style.block.find? fun d => d.opening.isPrefixOf a) =
      style.block.find? fun d => d.opening.isPrefixOf b :=
    find?_congr_of_mem fun d hd =>
      h.isPrefixOf_congr (mem_delimiters_of_block (.inl hd)).1 hab
  unfold blockAt?
  rw [hdoc, hblock]

theorem lineAt?_congr (hab : List.Forall₂ Interchangeable a b) :
    style.lineAt? a = style.lineAt? b := by
  have hdoc : style.docLine.find? (·.isPrefixOf a) = style.docLine.find? (·.isPrefixOf b) :=
    find?_congr_of_mem fun d hd => h.isPrefixOf_congr (mem_delimiters_of_line (.inr hd)) hab
  have hline : style.line.any (·.isPrefixOf a) = style.line.any (·.isPrefixOf b) := by
    rw [Bool.eq_iff_iff, List.any_eq_true, List.any_eq_true]
    refine exists_congr fun d => and_congr_right fun hd => ?_
    rw [h.isPrefixOf_congr (mem_delimiters_of_line (.inl hd)) hab]
  unfold lineAt?
  rw [hdoc, hline]
  cases hfind : style.docLine.find? (·.isPrefixOf b) with
  | none => rfl
  | some d =>
    have hmem := mem_delimiters_of_line (.inr (List.mem_of_find?_eq_some hfind))
    have hlast := List.getLast?_eq_some_getLast (h.nonempty d hmem)
    have hmark := h.delimiters d hmem _ (List.getLast_mem (h.nonempty d hmem))
    dsimp only
    rw [hlast, bne, bne, head?_beq_congr hmark (List.forall₂_drop _ hab)]

theorem multilineAt?_congr (hab : List.Forall₂ Interchangeable a b) :
    style.multilineAt? a = style.multilineAt? b := by
  unfold multilineAt?
  rw [find?_congr_of_mem fun d hd => h.isPrefixOf_congr (mem_delimiters_of_multiline hd) hab]

theorem quoteAt?_congr (hab : List.Forall₂ Interchangeable a b) :
    style.quoteAt? a = style.quoteAt? b := by
  cases hab with
  | nil => rfl
  | cons hcd _ =>
    rcases hcd with rfl | ⟨hc, hd⟩
    · rfl
    · dsimp only [quoteAt?]
      rw [if_neg (fun hmem => h.quotes _ (List.contains_iff_mem.1 hmem) hc),
        if_neg (fun hmem => h.quotes _ (List.contains_iff_mem.1 hmem) hd)]

/-- The same opens in both texts. -/
theorem openerAt?_congr (lineStart : Bool) (hab : List.Forall₂ Interchangeable a b) :
    style.openerAt? lineStart a = style.openerAt? lineStart b := by
  unfold openerAt?
  rw [h.blockAt?_congr lineStart hab, h.lineAt?_congr hab, h.multilineAt?_congr hab,
    h.quoteAt?_congr hab]

end CommentStyle.Punctuated

end Openers

/-! ## Steps -/

/-- What was found, without the text of the comments. -/
def Finding.uncommented (found : Finding) : Finding :=
  { found with comment := [] }

theorem Finding.uncommented_append (a b : Finding) :
    (a ++ b).uncommented = a.uncommented ++ b.uncommented := rfl

/-- The step, without the text of the comment that it found. -/
def ScanStep.uncommented (step : ScanStep) : ScanStep :=
  { step with found := step.found.uncommented }

/-- What follows a step does not depend on the text of the comment. -/
theorem ScanStep.next_congr (s : ScanState) {p q : ScanStep} (h : p.uncommented = q.uncommented) :
    ({ s.note p.found with mode := p.mode } : ScanState) =
        { s.note q.found with mode := q.mode } ∧
      p.skip = q.skip ∧ p.found.uncommented = q.found.uncommented := by
  have hnext := congrArg
    (fun r : ScanStep => ({ s.note r.found with mode := r.mode } : ScanState)) h
  have hskip := congrArg ScanStep.skip h
  have hfound := congrArg ScanStep.found h
  exact ⟨hnext, hskip, hfound⟩

theorem blockStep_uncommented {closing : List Char} (doc : Bool) {c d : Char} {a b : List Char}
    (hstart : closing.isPrefixOf (c :: a) = closing.isPrefixOf (d :: b)) :
    (blockStep closing doc c a).uncommented = (blockStep closing doc d b).uncommented := by
  unfold blockStep
  rw [hstart]
  split <;> rfl

section Steps

variable {style : CommentStyle} {s : ScanState} {c d : Char} {a b : List Char}

theorem CommentStyle.Punctuated.normalStep_congr (h : style.Punctuated)
    (hab : List.Forall₂ Interchangeable a b) :
    (normalStep style s c a).uncommented = (normalStep style s c b).uncommented := by
  have hcons : List.Forall₂ Interchangeable (c :: a) (c :: b) := .cons (.inl rfl) hab
  unfold normalStep
  rw [← h.openerAt?_congr _ hcons]
  cases hopener : style.openerAt? (s.codeBlank && !s.docSeen) (c :: a) with
  | none => rfl
  | some opener =>
    cases opener with
    | block d doc =>
      have hmem := mem_delimiters_of_block (openerAt?_fits hopener).1
      dsimp only
      rw [List.isEmpty_eq_false_iff.2 (h.nonempty _ hmem.1)]
      rfl
    | line => rfl
    | multiline => rfl
    | quote => rfl

/-- A step on both texts goes to the same mode and finds the same code, if the characters differ
only inside comments and strings. -/
theorem CommentStyle.Punctuated.scanStep_congr (h : style.Punctuated) (hfits : s.mode.Fits style)
    (hcd : Interchangeable c d) (hab : List.Forall₂ Interchangeable a b)
    (hinside : c ≠ d → s.mode ≠ .normal) :
    (scanStep style s c a).uncommented = (scanStep style s d b).uncommented := by
  have hcons : List.Forall₂ Interchangeable (c :: a) (d :: b) := .cons hcd hab
  obtain ⟨mode, codeBlank, docSeen⟩ := s
  cases mode with
  | normal =>
    obtain rfl : c = d := by_contra fun hne => hinside hne rfl
    exact h.normalStep_congr hab
  | lineComment doc => rfl
  | block closing doc =>
    have hempty := List.isEmpty_eq_false_iff.2 (h.nonempty closing hfits)
    simp only [scanStep, hempty, Bool.false_eq_true, if_false]
    exact blockStep_uncommented doc (h.isPrefixOf_congr hfits hcons)
  | multiline delimiter doc =>
    simp only [scanStep, h.isPrefixOf_congr hfits hcons]
  | quoted quote escaped =>
    -- neither the quote nor a backslash is neutral: both characters meet the same tests
    have hquote := hcd.eq_iff (h.quotes quote hfits)
    have hbackslash : c = '\\' ↔ d = '\\' := hcd.eq_iff (by decide)
    simp only [scanStep, hquote, hbackslash]

end Steps

/-! ## Lines -/

/-- The modes in which the characters of a line are read. -/
def readModes (style : CommentStyle) : ScanState → Nat → List Char → List ScanMode
  | _, _, [] => []
  | s, skip + 1, _ :: rest => s.mode :: readModes style s skip rest
  | s, 0, c :: rest =>
    let step := scanStep style s c rest
    s.mode :: readModes style { s.note step.found with mode := step.mode } step.skip rest

/-- The modes in which the characters of lines are read. -/
def readRows (style : CommentStyle) : ScanMode → List (List Char) → List (List ScanMode)
  | _, [] => []
  | mode, line :: others =>
    readModes style { mode } 0 line :: readRows style (scanRow style { mode } 0 line).1 others

/-- Where the lines differ, the mode is not the normal one. -/
def DifferInside (modes : List ScanMode) (a b : List Char) : Prop :=
  ∀ (column : Nat) (x y : Char), a[column]? = some x → b[column]? = some y → x ≠ y →
    ∃ mode, modes[column]? = some mode ∧ mode ≠ .normal

theorem DifferInside.tail {mode : ScanMode} {modes : List ScanMode} {c d : Char}
    {a b : List Char} (h : DifferInside (mode :: modes) (c :: a) (d :: b)) :
    DifferInside modes a b :=
  fun column => h (column + 1)

theorem DifferInside.head {mode : ScanMode} {modes : List ScanMode} {c d : Char}
    {a b : List Char} (h : DifferInside (mode :: modes) (c :: a) (d :: b)) (hcd : c ≠ d) :
    mode ≠ .normal := by
  obtain ⟨_, hmode, hne⟩ := h 0 c d rfl rfl hcd
  cases hmode
  exact hne

/-- A line on both texts is read in the same modes, and the same code is found. -/
theorem CommentStyle.Punctuated.scanRow_congr {style : CommentStyle} (h : style.Punctuated)
    {a b : List Char} (hab : List.Forall₂ Interchangeable a b) (s : ScanState) (skip : Nat)
    (hfits : s.mode.Fits style) (hinside : DifferInside (readModes style s skip a) a b) :
    readModes style s skip a = readModes style s skip b ∧
      (scanRow style s skip a).1 = (scanRow style s skip b).1 ∧
      (scanRow style s skip a).2.uncommented = (scanRow style s skip b).2.uncommented := by
  induction hab generalizing s skip with
  | nil => exact ⟨by cases skip <;> rfl, by cases skip <;> rfl, by cases skip <;> rfl⟩
  | @cons c d a b hcd hab ih =>
    cases skip with
    | succ skip =>
      obtain ⟨hmodes, hmode, hfound⟩ := ih s skip hfits hinside.tail
      exact ⟨congrArg (s.mode :: ·) hmodes, hmode, hfound⟩
    | zero =>
      -- the steps differ in the text of a comment at most, which the state does not hold
      have hstep := h.scanStep_congr hfits hcd hab hinside.head
      obtain ⟨hnext, hskip, hfirst⟩ := ScanStep.next_congr s hstep
      obtain ⟨hmodes, hmode, hfound⟩ := ih _ _ (scanStep_fits hfits c a) hinside.tail
      rw [hnext, hskip] at hmodes hmode hfound
      refine ⟨?_, ?_, ?_⟩
      · simp only [readModes, hnext, hskip, hmodes]
      · simp only [scanRow, hnext, hskip, hmode]
      · simp only [scanRow, Finding.uncommented_append, hnext, hskip, hfirst, hfound]

/-- The kind and the code of a line. -/
def Row.stripped (row : Row) : LineKind × List Char := (row.kind, row.code)

theorem Row.stripped_ofFinding (raw : List Char) (found : Finding) :
    (Row.ofFinding raw found).stripped = (found.uncommented.kind, found.uncommented.code) := rfl

/-- The lines of both texts are read in the same modes, and have the same kinds and code. -/
theorem CommentStyle.Punctuated.classifyLines_congr {style : CommentStyle} (h : style.Punctuated)
    {as bs : List (List Char)} (hab : List.Forall₂ (List.Forall₂ Interchangeable) as bs)
    (mode : ScanMode) (hfits : mode.Fits style)
    (hinside : ∀ (row column : Nat) (x y : Char), entry? as row column = some x →
      entry? bs row column = some y → x ≠ y →
        ∃ mode', entry? (readRows style mode as) row column = some mode' ∧ mode' ≠ .normal) :
    readRows style mode as = readRows style mode bs ∧
      (classifyLines style mode as).map Row.stripped =
        (classifyLines style mode bs).map Row.stripped := by
  induction hab generalizing mode with
  | nil => exact ⟨rfl, rfl⟩
  | @cons a b as bs hline hlines ih =>
    have hfirst : DifferInside (readModes style { mode } 0 a) a b := hinside 0
    obtain ⟨hmodes, hmode, hfound⟩ := h.scanRow_congr hline { mode } 0 hfits hfirst
    have hnext : (scanRow style { mode } 0 a).1.Fits style := scanRow_fits hfits 0 a
    obtain ⟨hrows, hothers⟩ := ih _ hnext fun row => hinside (row + 1)
    rw [hmode] at hrows hothers
    refine ⟨?_, ?_⟩
    · simp only [readRows, hmodes, hmode, hrows]
    · simp only [classifyLines, List.map_cons, Row.stripped_ofFinding, hfound, hmode, hothers]

/-! ## Counts taken from the code -/

section Counts

variable {rows others : List Row}

theorem LineCounts.ofRows_eq (rows : List Row) :
    ofRows rows =
      let kinds := (rows.map Row.stripped).map (·.1)
      { total := kinds.length
        code := kinds.countP (· == .code)
        comment := kinds.countP (· == .comment)
        doc := kinds.countP (· == .doc)
        blank := kinds.countP (· == .blank) } := by
  simp only [ofRows, List.countP_map, List.length_map]
  rfl

/-- The lines of each kind are counted by their kinds. -/
theorem LineCounts.ofRows_congr (h : rows.map Row.stripped = others.map Row.stripped) :
    ofRows rows = ofRows others := by
  rw [ofRows_eq, ofRows_eq, h]

/-- What is taken from some lines by their kinds and code. -/
theorem map_filter_congr {β : Type} (p : LineKind × List Char → Bool)
    (f : LineKind × List Char → β) (h : rows.map Row.stripped = others.map Row.stripped) :
    (rows.filter fun row => p row.stripped).map (fun row => f row.stripped) =
      (others.filter fun row => p row.stripped).map fun row => f row.stripped := by
  have hstripped (rows : List Row) :
      (rows.filter fun row => p row.stripped).map (fun row => f row.stripped) =
        ((rows.map Row.stripped).filter p).map f := by
    rw [List.filter_map, List.map_map]
    rfl
  rw [hstripped, hstripped, h]

theorem fingerprints_congr (h : rows.map Row.stripped = others.map Row.stripped) :
    fingerprints rows = fingerprints others :=
  map_filter_congr (fun line => line.1 == .code && line.2.any isAlphanumeric)
    (fun line => String.ofList (collapseBlanks line.2)) h

theorem magicNumberCount_congr (h : rows.map Row.stripped = others.map Row.stripped) :
    magicNumberCount rows = magicNumberCount others := by
  have hliterals := map_filter_congr
    (fun line => line.1 == .code && !constantPattern.isMatch line.2)
    (fun line => numberPattern.groups "1" line.2) h
  unfold magicNumberCount
  rw [List.flatMap_def, List.flatMap_def]
  exact congrArg (fun literals => literals.flatten.countP fun literal =>
    !plainNumbers.contains (String.ofList literal)) hliterals

end Counts

/-! ## Texts -/

/-- The mode in which the character at a position is read; none at a line break. -/
def modeAt? (style : CommentStyle) (content : List Char) (position : Nat) : Option ScanMode :=
  entry? (readRows style .normal (lines content)) (rowOf content position)
    (columnOf content position)

/-- The character at the position is read inside a comment or a string. -/
def ReadInside (style : CommentStyle) (content : List Char) (position : Nat) : Prop :=
  ∃ mode ∈ modeAt? style content position, mode ≠ .normal

instance (style : CommentStyle) (content : List Char) (position : Nat) :
    Decidable (ReadInside style content position) :=
  inferInstanceAs (Decidable (∃ mode ∈ modeAt? style content position, mode ≠ .normal))

/-- Texts that differ only in neutral characters are alike. -/
theorem forall₂_interchangeable {a b : List Char} (hlength : a.length = b.length)
    (h : ∀ (position : Nat) (x y : Char), a[position]? = some x → b[position]? = some y → x ≠ y →
      Neutral x ∧ Neutral y) : List.Forall₂ Interchangeable a b := by
  refine List.forall₂_iff_get.2 ⟨hlength, fun position ha hb => ?_⟩
  by_cases heq : a[position] = b[position]
  · exact .inl heq
  · exact .inr (h position _ _ (List.getElem?_eq_getElem ha) (List.getElem?_eq_getElem hb) heq)

/-- A check of all positions of both texts. -/
theorem readInside_of_all {style : CommentStyle} {a b : List Char}
    (h : ((a.zip b).zipIdx.all fun (pair, position) => pair.1 == pair.2 ||
      decide (ReadInside style a position ∧ Neutral pair.1 ∧ Neutral pair.2)) = true)
    (position : Nat) (x y : Char) (hx : a[position]? = some x) (hy : b[position]? = some y)
    (hne : x ≠ y) : ReadInside style a position ∧ Neutral x ∧ Neutral y := by
  have hmem : ((x, y), position) ∈ (a.zip b).zipIdx :=
    List.mem_zipIdx_iff_getElem?.2 (List.getElem?_zip_eq_some.2 ⟨hx, hy⟩)
  have hcheck := List.all_eq_true.1 h _ hmem
  rw [Bool.or_eq_true, beq_iff_eq, decide_eq_true_eq] at hcheck
  exact hcheck.resolve_left hne

/-- Where the lines of the texts differ, the first text is read inside. -/
theorem readInside_of_entry {style : CommentStyle} {a b : List Char}
    (hab : List.Forall₂ Interchangeable a b)
    (hinside : ∀ (position : Nat) (x y : Char), a[position]? = some x → b[position]? = some y →
      x ≠ y → ReadInside style a position)
    (row column : Nat) (x y : Char) (hx : entry? (lines a) row column = some x)
    (hy : entry? (lines b) row column = some y) (hne : x ≠ y) :
    ∃ mode, entry? (readRows style .normal (lines a)) row column = some mode ∧
      mode ≠ .normal := by
  obtain ⟨position, ha, hb, hplace⟩ := exists_position keepsBreaks_interchangeable hab hx
  have hread := hinside position x y ha (hb.trans hy) hne
  rwa [ReadInside, modeAt?, hplace.row, hplace.column] at hread

/-- What stands inside comments and strings does not influence the code. Two texts of equal length
that differ only where the first is read inside a comment or a string, and there only in letters,
numbers and spaces, have the same kinds of lines and the same code. They are read inside at the same
positions, and what is counted in the code is the same. -/
theorem classify_congr_inside :
    (CommentStyle.cLike.Punctuated ∧ Rules.python.comments.Punctuated ∧
        Rules.html.comments.Punctuated) ∧
      ∀ style : CommentStyle, style.Punctuated → ∀ a b : List Char, a.length = b.length →
        (∀ (position : Nat) (x y : Char), a[position]? = some x → b[position]? = some y → x ≠ y →
          ReadInside style a position ∧ Neutral x ∧ Neutral y) →
        (classify style a).map Row.stripped = (classify style b).map Row.stripped ∧
          (∀ position, ReadInside style a position ↔ ReadInside style b position) ∧
          LineCounts.ofRows (classify style a) = LineCounts.ofRows (classify style b) ∧
          fingerprints (classify style a) = fingerprints (classify style b) ∧
          magicNumberCount (classify style a) = magicNumberCount (classify style b) := by
  refine ⟨⟨by decide +kernel, by decide +kernel, by decide +kernel⟩, ?_⟩
  intro style h a b hlength hdiffer
  have hab := forall₂_interchangeable hlength fun position x y ha hb hne =>
    (hdiffer position x y ha hb hne).2
  have hinside := readInside_of_entry hab fun position x y ha hb hne =>
    (hdiffer position x y ha hb hne).1
  obtain ⟨hrows, hstripped⟩ := h.classifyLines_congr (forall₂_lines keepsBreaks_interchangeable hab)
    .normal trivial hinside
  refine ⟨hstripped, fun position => ?_, LineCounts.ofRows_congr hstripped,
    fingerprints_congr hstripped, magicNumberCount_congr hstripped⟩
  rw [ReadInside, ReadInside, modeAt?, modeAt?, hrows,
    rowOf_congr keepsBreaks_interchangeable hab, columnOf_congr keepsBreaks_interchangeable hab]

/-- Strings, a comment and a docstring with other words in them. -/
theorem classify_congr_inside_words :
    let style := Rules.python.comments
    let a := "s = 'it\\'s' # note 1\n'''text\nmore''' + x".toList
    let b := "s = 'A \\'0' # if def\n'''é 12\n   b''' + x".toList
    style.Punctuated ∧ a.length = b.length ∧ a ≠ b ∧
      (classify style a).map Row.stripped = (classify style b).map Row.stripped := by
  intro style a b
  have hstyle : style.Punctuated := classify_congr_inside.1.2.1
  have hlength : a.length = b.length := by decide +kernel
  have hcongr := classify_congr_inside.2 style hstyle a b hlength
    (readInside_of_all (by decide +kernel))
  exact ⟨hstyle, hlength, by decide +kernel, hcongr.1⟩

end Affinity
