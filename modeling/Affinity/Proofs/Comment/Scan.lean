import Mathlib.Data.List.Basic
import Mathlib.Data.Option.Basic
import Mathlib.Tactic.SplitIfs
import Affinity.Comment.Classified

/-!
# Facts about the scan of lines

What is found on a line is put together from what its stretches contribute, and a mode only ever
waits for a delimiter of the style.

* `Finding.append_assoc`, `ScanState.note_append` — stretches one after the other.
* `CommentStyle.openerAt?_fits` — an opener stands at the place where it was found.
* `scanStep_fits`, `scanRow_fits` — the modes to which a step and a line go.
* `length_classifyLines`, `raw_classifyLines`, `LineCounts.kinds_ofRows` — one row for every line,
  each of one kind.
-/

namespace Affinity

/-! ## Stretches of a line -/

attribute [ext] Finding

namespace Finding

@[simp] theorem code_append (a b : Finding) : (a ++ b).code = a.code ++ b.code := rfl

@[simp] theorem hasCode_append (a b : Finding) : (a ++ b).hasCode = (a.hasCode || b.hasCode) := rfl

@[simp] theorem hasDoc_append (a b : Finding) : (a ++ b).hasDoc = (a.hasDoc || b.hasDoc) := rfl

@[simp] theorem hasComment_append (a b : Finding) :
    (a ++ b).hasComment = (a.hasComment || b.hasComment) := rfl

@[simp] theorem comment_append (a b : Finding) : (a ++ b).comment = a.comment ++ b.comment := rfl

theorem append_assoc (a b c : Finding) : a ++ b ++ c = a ++ (b ++ c) := by
  apply Finding.ext <;> simp [List.append_assoc, Bool.or_assoc]

@[simp] theorem append_empty (a : Finding) : a ++ ({} : Finding) = a := by
  apply Finding.ext <;> simp

@[simp] theorem empty_append (a : Finding) : ({} : Finding) ++ a = a := by
  apply Finding.ext <;> simp

theorem ofComment_append (doc : Bool) (s t : List Char) :
    ofComment doc s ++ ofComment doc t = ofComment doc (s ++ t) := by
  apply Finding.ext <;> simp [ofComment]

theorem ofString_append (doc : Bool) (delimiter : List Char) :
    ofString doc [] ++ ofString doc delimiter = ofString doc delimiter := by
  apply Finding.ext <;> simp [ofString]

end Finding

/-- What is noted piece by piece is noted at once. -/
theorem ScanState.note_append (s : ScanState) (a b : Finding) :
    (s.note a).note b = s.note (a ++ b) := by
  simp [note, allBlank, Bool.and_assoc, Bool.or_assoc]

/-! ## Delimiters and modes -/

/-- The delimiters of a style, quotes apart. -/
def CommentStyle.delimiters (style : CommentStyle) : List (List Char) :=
  style.line ++ style.docLine ++ style.multilineStrings ++
    (style.block ++ style.docBlock).flatMap fun d => [d.opening, d.closing]

theorem CommentStyle.mem_delimiters_of_line {style : CommentStyle} {d : List Char}
    (h : d ∈ style.line ∨ d ∈ style.docLine) : d ∈ style.delimiters :=
  List.mem_append_left _ (List.mem_append_left _ (List.mem_append.2 h))

theorem CommentStyle.mem_delimiters_of_multiline {style : CommentStyle} {d : List Char}
    (h : d ∈ style.multilineStrings) : d ∈ style.delimiters :=
  List.mem_append_left _ (List.mem_append_right _ h)

theorem CommentStyle.mem_delimiters_of_block {style : CommentStyle} {d : BlockDelimiters}
    (h : d ∈ style.block ∨ d ∈ style.docBlock) :
    d.opening ∈ style.delimiters ∧ d.closing ∈ style.delimiters := by
  have hmem := List.mem_append.2 h
  constructor <;>
    exact List.mem_append_right _ (List.mem_flatMap.2 ⟨d, hmem, by simp⟩)

/-- The opener belongs to the style and stands at the beginning of the text. -/
def Opener.Fits (style : CommentStyle) (rest : List Char) : Opener → Prop
  | .block d _ => (d ∈ style.block ∨ d ∈ style.docBlock) ∧ d.opening <+: rest
  | .line _ => True
  | .multiline delimiter => delimiter ∈ style.multilineStrings ∧ delimiter <+: rest
  | .quote q => q ∈ style.quotes ∧ rest.head? = some q

/-- What ends the mode is a delimiter of the style. -/
def ScanMode.Fits (style : CommentStyle) : ScanMode → Prop
  | .normal => True
  | .lineComment _ => True
  | .block closing _ => closing ∈ style.delimiters
  | .multiline delimiter _ => delimiter ∈ style.delimiters
  | .quoted quote _ => quote ∈ style.quotes

namespace CommentStyle

variable {style : CommentStyle} {lineStart : Bool} {rest : List Char} {opener : Opener}

theorem blockAt?_fits (h : style.blockAt? lineStart rest = some opener) :
    opener.Fits style rest := by
  unfold blockAt? at h
  split at h
  · cases h
  · dsimp only at h
    split at h
    case h_1 d hdoc =>
      cases h
      have htest := List.find?_some hdoc
      rw [Bool.and_eq_true, List.isPrefixOf_iff_prefix] at htest
      exact ⟨.inr (List.mem_of_find?_eq_some hdoc), htest.1⟩
    case h_2 =>
      obtain ⟨d, hd, rfl⟩ := Option.map_eq_some_iff.1 h
      have htest := List.find?_some hd
      exact ⟨.inl (List.mem_of_find?_eq_some hd), List.isPrefixOf_iff_prefix.1 htest⟩

theorem lineAt?_eq_some (h : style.lineAt? rest = some opener) : ∃ doc, opener = .line doc := by
  dsimp only [lineAt?] at h
  split_ifs at h
  · exact ⟨true, (Option.some.inj h).symm⟩
  · exact ⟨false, (Option.some.inj h).symm⟩

theorem multilineAt?_fits (h : style.multilineAt? rest = some opener) :
    opener.Fits style rest := by
  obtain ⟨d, hd, rfl⟩ := Option.map_eq_some_iff.1 h
  have htest := List.find?_some hd
  exact ⟨List.mem_of_find?_eq_some hd, List.isPrefixOf_iff_prefix.1 htest⟩

theorem quoteAt?_fits (h : style.quoteAt? rest = some opener) : opener.Fits style rest := by
  unfold quoteAt? at h
  split at h
  · split at h
    case isTrue hmem =>
      cases h
      exact ⟨List.contains_iff_mem.1 hmem, rfl⟩
    case isFalse => cases h
  · cases h

/-- What opens at a place belongs to the style and stands there. -/
theorem openerAt?_fits (h : style.openerAt? lineStart rest = some opener) :
    opener.Fits style rest := by
  simp only [openerAt?, Option.orElse_eq_some] at h
  rcases h with h | ⟨-, h | ⟨-, h | ⟨-, h⟩⟩⟩
  · exact blockAt?_fits h
  · obtain ⟨doc, rfl⟩ := lineAt?_eq_some h
    trivial
  · exact multilineAt?_fits h
  · exact quoteAt?_fits h

end CommentStyle

theorem normalStep_fits (style : CommentStyle) (s : ScanState) (c : Char) (rest : List Char) :
    (normalStep style s c rest).mode.Fits style := by
  rw [normalStep]
  split
  case h_1 d doc hopener =>
    have hfits := CommentStyle.openerAt?_fits hopener
    have hclosing := (CommentStyle.mem_delimiters_of_block hfits.1).2
    split
    · rw [blockStep]
      split
      · trivial
      · exact hclosing
    · exact hclosing
  case h_2 => trivial
  case h_3 delimiter hopener =>
    exact CommentStyle.mem_delimiters_of_multiline (CommentStyle.openerAt?_fits hopener).1
  case h_4 quote hopener => exact (CommentStyle.openerAt?_fits hopener).1
  case h_5 => trivial

/-- A step goes to a mode that waits for a delimiter of the style. -/
theorem scanStep_fits {style : CommentStyle} {s : ScanState} (h : s.mode.Fits style) (c : Char)
    (rest : List Char) : (scanStep style s c rest).mode.Fits style := by
  rw [scanStep]
  split
  case h_1 => exact normalStep_fits style s c rest
  case h_2 => trivial
  case h_3 closing doc hmode =>
    split
    · exact normalStep_fits style _ c rest
    · rw [blockStep]
      split
      · trivial
      · rwa [hmode] at h
  case h_4 delimiter doc hmode =>
    split
    · trivial
    · rwa [hmode] at h
  case h_5 quote escaped hmode =>
    rw [hmode] at h
    repeat' split
    all_goals first | exact h | trivial

theorem afterLine_fits {style : CommentStyle} {mode : ScanMode} (h : mode.Fits style) :
    mode.afterLine.Fits style := by
  cases mode <;> first | exact h | trivial

/-- A line ends in a mode that waits for a delimiter of the style. -/
theorem scanRow_fits {style : CommentStyle} {s : ScanState} (h : s.mode.Fits style) (skip : Nat)
    (line : List Char) : (scanRow style s skip line).1.Fits style := by
  induction line generalizing s skip with
  | nil => exact afterLine_fits h
  | cons c rest ih =>
    cases skip with
    | zero => exact ih (scanStep_fits h c rest) _
    | succ skip => exact ih h skip

/-! ## Rows -/

/-- There is one row for every line. -/
theorem length_classifyLines (style : CommentStyle) (mode : ScanMode) (lines : List (List Char)) :
    (classifyLines style mode lines).length = lines.length := by
  induction lines generalizing mode with
  | nil => rfl
  | cons line others ih =>
    unfold classifyLines
    rw [List.length_cons, List.length_cons, ih]

/-- The rows are those of the lines, in order. -/
theorem raw_classifyLines (style : CommentStyle) (mode : ScanMode) (lines : List (List Char)) :
    (classifyLines style mode lines).map (·.raw) = lines := by
  induction lines generalizing mode with
  | nil => rfl
  | cons line others ih =>
    unfold classifyLines
    rw [List.map_cons, ih]
    rfl

/-- Every line is of one kind. -/
theorem LineCounts.kinds_ofRows (rows : List Row) :
    (ofRows rows).code + (ofRows rows).comment + (ofRows rows).doc + (ofRows rows).blank =
      rows.length := by
  unfold ofRows
  induction rows with
  | nil => rfl
  | cons row rest ih =>
    simp only [List.countP_cons, List.length_cons] at ih ⊢
    cases row.kind <;> simp <;> omega

end Affinity
