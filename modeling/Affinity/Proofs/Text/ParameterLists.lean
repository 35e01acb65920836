import Mathlib.Data.List.Infix
import Affinity.Proofs.Text.Margins
import Affinity.Text.Lines

/-!
# Parameter lists

The text between the parentheses of a signature lists parameters between the commas that stand
outside all brackets. Their number is found with one depth and one correction for a comma at the
end. The correction does not ask for the depth: of a text that is cut off behind a comma inside
brackets, as the first line of a longer signature may be, one parameter is missed.

* `bracketDepth` — the brackets that are open behind a text.
* `SplitsOutside` — the parts of a text between its commas outside brackets.
* `exists_splitsOutside`, `SplitsOutside.unique` — each text has exactly one such split.
* `length_eq_of_splitsOutside` — the commas outside brackets separate these parts.
* `parameterCount_eq_iff` — when the count is that of the parts that are not blank.
* `cutOff_list_counted_empty` — a list of which even the only parameter is missed.
-/

namespace Affinity

/-! ## Brackets -/

/-- The number of brackets that a text opens, less those that it closes. -/
def bracketDepth (text : List Char) : Int := text.countP isOpening - text.countP isClosing

/-- No beginning of the text closes more brackets than it opens. -/
def NeverOvercloses (text : List Char) : Prop := ∀ start ∈ text.inits, 0 ≤ bracketDepth start

instance : DecidablePred NeverOvercloses := fun text =>
  inferInstanceAs (Decidable (∀ start ∈ text.inits, 0 ≤ bracketDepth start))

@[simp] theorem bracketDepth_nil : bracketDepth [] = 0 := rfl

theorem bracketDepth_append (before behind : List Char) :
    bracketDepth (before ++ behind) = bracketDepth before + bracketDepth behind := by
  simp only [bracketDepth, List.countP_append, Int.natCast_add]
  omega

theorem bracketDepth_cons (c : Char) (rest : List Char) :
    bracketDepth (c :: rest) = bracketDepth [c] + bracketDepth rest :=
  bracketDepth_append [c] rest

theorem bracketDepth_comma (rest : List Char) : bracketDepth (',' :: rest) = bracketDepth rest := by
  rw [bracketDepth_cons]
  exact Int.zero_add _

theorem not_isOpening_of_isBlank {c : Char} (h : isBlank c = true) : isOpening c = false := by
  by_contra hopening
  simp only [isOpening, Bool.not_eq_false, Bool.or_eq_true, decide_eq_true_eq] at hopening
  rcases hopening with ((rfl | rfl) | rfl) | rfl <;> exact absurd h (by decide)

theorem not_isClosing_of_isBlank {c : Char} (h : isBlank c = true) : isClosing c = false := by
  by_contra hclosing
  simp only [isClosing, Bool.not_eq_false, Bool.or_eq_true, decide_eq_true_eq] at hclosing
  rcases hclosing with ((rfl | rfl) | rfl) | rfl <;> exact absurd h (by decide)

theorem bracketDepth_of_allBlank {text : List Char} (h : allBlank text = true) :
    bracketDepth text = 0 := by
  have hopening : text.countP isOpening = 0 := List.countP_eq_zero.2 fun c hc => by
    simp [not_isOpening_of_isBlank (isBlank_of_mem h hc)]
  have hclosing : text.countP isClosing = 0 := List.countP_eq_zero.2 fun c hc => by
    simp [not_isClosing_of_isBlank (isBlank_of_mem h hc)]
  rw [bracketDepth, hopening, hclosing]
  rfl

theorem notMem_comma_of_allBlank {text : List Char} (h : allBlank text = true) : ',' ∉ text :=
  fun hmem => absurd (isBlank_of_mem h hmem) (by decide)

/-! ## Commas outside brackets -/

/-- No comma of the text stands outside brackets. -/
def NoOuterComma (text : List Char) : Prop :=
  ∀ before behind, text = before ++ ',' :: behind → bracketDepth before ≠ 0

theorem outerCommas_cons (depth : Int) (c : Char) (rest : List Char) :
    outerCommas depth (c :: rest) =
      outerCommas (depth + bracketDepth [c]) rest + if c = ',' ∧ depth = 0 then 1 else 0 := by
  rw [outerCommas]
  by_cases hopening : isOpening c = true
  · have hdepth : bracketDepth [c] = 1 := by
      simp only [isOpening, Bool.or_eq_true, decide_eq_true_eq] at hopening
      rcases hopening with ((rfl | rfl) | rfl) | rfl <;> rfl
    have hcomma : c ≠ ',' := by
      rintro rfl
      exact absurd hopening (by decide)
    simp [hopening, hdepth, hcomma]
  · by_cases hclosing : isClosing c = true
    · have hcomma : c ≠ ',' := by
        rintro rfl
        exact absurd hclosing (by decide)
      simp [bracketDepth, hopening, hclosing, hcomma, Int.sub_eq_add_neg]
    · have hdepth : bracketDepth [c] = 0 := by simp [bracketDepth, hopening, hclosing]
      by_cases hcomma : c = ',' ∧ depth = 0
      · obtain ⟨rfl, rfl⟩ := hcomma
        rfl
      · simp [hdepth, hcomma, hopening, hclosing]

/-- The commas outside brackets are counted part by part. -/
theorem outerCommas_append (depth : Int) (before behind : List Char) :
    outerCommas depth (before ++ behind) =
      outerCommas depth before + outerCommas (depth + bracketDepth before) behind := by
  induction before generalizing depth with
  | nil => simp [outerCommas]
  | cons c before ih =>
    rw [List.cons_append, outerCommas_cons, outerCommas_cons, ih, bracketDepth_cons c before,
      Int.add_assoc]
    omega

theorem outerCommas_eq_zero_iff {depth : Int} {text : List Char} :
    outerCommas depth text = 0 ↔
      ∀ before behind, text = before ++ ',' :: behind → depth + bracketDepth before ≠ 0 := by
  induction text generalizing depth with
  | nil => simp [outerCommas]
  | cons c rest ih =>
    rw [outerCommas_cons, Nat.add_eq_zero_iff, ih]
    constructor
    · rintro ⟨hrest, hfirst⟩ before behind htext
      rcases List.cons_eq_append_iff.1 htext with ⟨rfl, hcons⟩ | ⟨before, rfl, hbehind⟩
      · cases hcons
        simpa using hfirst
      · rw [bracketDepth_cons, ← Int.add_assoc]
        exact hrest before behind hbehind
    · intro h
      refine ⟨fun before behind hbehind => ?_, ?_⟩
      · have hne := h (c :: before) behind (by rw [hbehind, List.cons_append])
        rwa [bracketDepth_cons, ← Int.add_assoc] at hne
      · have hne : c = ',' → depth ≠ 0 := by
          rintro rfl
          simpa using h [] rest rfl
        simpa using hne

theorem noOuterComma_iff {text : List Char} : NoOuterComma text ↔ outerCommas 0 text = 0 := by
  rw [outerCommas_eq_zero_iff]
  simp only [Int.zero_add]
  rfl

theorem outerCommas_of_allBlank {text : List Char} (h : allBlank text = true) (depth : Int) :
    outerCommas depth text = 0 :=
  outerCommas_eq_zero_iff.2 fun _ _ htext =>
    absurd (htext ▸ List.mem_append_right _ List.mem_cons_self) (notMem_comma_of_allBlank h)

/-- The margins of a text hold no commas and no brackets. -/
theorem outerCommas_trim (text : List Char) :
    outerCommas 0 (trim text) = outerCommas 0 text := by
  obtain ⟨before, behind, hbefore, hbehind, htext⟩ := exists_margins text
  have hsplit : outerCommas 0 text = outerCommas 0 (before ++ trim text ++ behind) :=
    congrArg (outerCommas 0) htext
  rw [hsplit, outerCommas_append, outerCommas_append, outerCommas_of_allBlank hbefore,
    outerCommas_of_allBlank hbehind, bracketDepth_of_allBlank hbefore]
  simp

/-! ## The parts of a list -/

/-- The parts of a text between its commas outside brackets: every part but the last closes what it
opens and is followed by a comma, and no comma in any of them stands outside brackets. -/
inductive SplitsOutside : List Char → List (List Char) → Prop where
  | last {part : List Char} (whole : NoOuterComma part) : SplitsOutside part [part]
  | cons {part rest : List Char} {parts : List (List Char)} (whole : NoOuterComma part)
      (closed : bracketDepth part = 0) (others : SplitsOutside rest parts) :
      SplitsOutside (part ++ ',' :: rest) (part :: parts)

/-- A text with a comma outside brackets has a first one. -/
theorem exists_first_outerComma {text : List Char} (h : ¬ NoOuterComma text) :
    ∃ before behind, text = before ++ ',' :: behind ∧ bracketDepth before = 0 ∧
      NoOuterComma before := by
  simp only [NoOuterComma, not_forall, not_not] at h
  obtain ⟨before, behind, htext, hdepth⟩ := h
  -- by induction on the length of what precedes the comma
  induction hlength : before.length using Nat.strong_induction_on generalizing before behind with
  | _ n ih =>
    by_cases hfirst : NoOuterComma before
    · exact ⟨before, behind, htext, hdepth, hfirst⟩
    · simp only [NoOuterComma, not_forall, not_not] at hfirst
      obtain ⟨earlier, between, rfl, hearlier⟩ := hfirst
      refine ih earlier.length ?_ earlier (between ++ ',' :: behind) ?_ hearlier rfl
      · rw [← hlength, List.length_append, List.length_cons]
        omega
      · rw [htext, List.append_assoc, List.cons_append]

/-- Every text can be split. -/
theorem exists_splitsOutside (text : List Char) : ∃ parts, SplitsOutside text parts := by
  induction hlength : text.length using Nat.strong_induction_on generalizing text with
  | _ n ih =>
    by_cases hwhole : NoOuterComma text
    · exact ⟨[text], .last hwhole⟩
    · obtain ⟨part, rest, rfl, hclosed, hpart⟩ := exists_first_outerComma hwhole
      rw [List.length_append, List.length_cons] at hlength
      obtain ⟨parts, hparts⟩ := ih rest.length (by omega) rest rfl
      exact ⟨part :: parts, .cons hpart hclosed hparts⟩

/-- What precedes the first comma outside brackets, and what follows it. -/
theorem first_outerComma_unique {part part' rest rest' : List Char} (hpart : NoOuterComma part)
    (hpart' : NoOuterComma part') (hclosed : bracketDepth part = 0)
    (hclosed' : bracketDepth part' = 0) (h : part ++ ',' :: rest = part' ++ ',' :: rest') :
    part = part' ∧ rest = rest' := by
  rcases List.append_eq_append_iff.1 h with ⟨between, hlong, hrest⟩ | ⟨between, hlong, hrest⟩
  · cases between with
    | nil => exact ⟨by simpa using hlong.symm, (List.cons.inj hrest).2⟩
    | cons c between =>
      obtain ⟨rfl, -⟩ := List.cons.inj hrest
      exact absurd hclosed (hpart' part between hlong)
  · cases between with
    | nil => exact ⟨by simpa using hlong, ((List.cons.inj hrest).2).symm⟩
    | cons c between =>
      obtain ⟨rfl, -⟩ := List.cons.inj hrest
      exact absurd hclosed' (hpart part' between hlong)

/-- **A text is split in one way only.** -/
theorem SplitsOutside.unique {text : List Char} {parts others : List (List Char)}
    (h : SplitsOutside text parts) (h' : SplitsOutside text others) : parts = others := by
  induction h generalizing others with
  | last hwhole =>
    cases h' with
    | last => rfl
    | cons _ hclosed _ => exact absurd hclosed (hwhole _ _ rfl)
  | @cons part rest parts hwhole hclosed _ ih =>
    generalize htext : part ++ ',' :: rest = text at h'
    cases h' with
    | last hwhole' => exact absurd hclosed (hwhole' _ _ htext.symm)
    | cons hwhole' hclosed' hrest' =>
      obtain ⟨rfl, rfl⟩ := first_outerComma_unique hwhole hwhole' hclosed hclosed' htext
      rw [ih hrest']

/-- The commas outside brackets separate the parts. -/
theorem length_eq_of_splitsOutside {text : List Char} {parts : List (List Char)}
    (h : SplitsOutside text parts) : parts.length = outerCommas 0 text + 1 := by
  induction h with
  | last hwhole => rw [noOuterComma_iff.1 hwhole, List.length_singleton]
  | cons hwhole hclosed _ ih =>
    rw [outerCommas_append, noOuterComma_iff.1 hwhole, hclosed, outerCommas_cons, List.length_cons,
      ih]
    simp [bracketDepth, isOpening, isClosing]

/-! ## Parts that are not blank -/

/-- The last part of the text is blank: so is the text, or what follows its last comma outside
brackets. -/
def TrailsOff (text : List Char) : Prop :=
  allBlank text = true ∨
    ∃ before blanks, text = before ++ ',' :: blanks ∧ allBlank blanks = true ∧
      bracketDepth before = 0

/-- The text ends with a comma inside brackets; blanks may follow. -/
def EndsInsideBrackets (text : List Char) : Prop :=
  ∃ before blanks, text = before ++ ',' :: blanks ∧ allBlank blanks = true ∧
    bracketDepth before ≠ 0

/-- The last comma of a text is the one that only blanks follow. -/
theorem last_comma_unique {before before' blanks rest : List Char}
    (hblanks : allBlank blanks = true) (h : before ++ ',' :: blanks = before' ++ ',' :: rest) :
    (before = before' ∧ blanks = rest) ∨
      ∃ between, before = before' ++ ',' :: between ∧ rest = between ++ ',' :: blanks := by
  rcases List.append_eq_append_iff.1 h with ⟨between, hlong, hrest⟩ | ⟨between, hlong, hrest⟩
  · cases between with
    | nil => exact .inl ⟨by simpa using hlong.symm, (List.cons.inj hrest).2⟩
    | cons c between =>
      obtain ⟨-, hmore⟩ := List.cons.inj hrest
      have hmem : ',' ∈ blanks := hmore ▸ List.mem_append_right _ List.mem_cons_self
      exact absurd hmem (notMem_comma_of_allBlank hblanks)
  · cases between with
    | nil => exact .inl ⟨by simpa using hlong, (List.cons.inj hrest).2.symm⟩
    | cons c between =>
      obtain ⟨rfl, hmore⟩ := List.cons.inj hrest
      exact .inr ⟨between, hlong, hmore⟩

theorem trailsOff_cons_iff {part rest : List Char} (hclosed : bracketDepth part = 0) :
    TrailsOff (part ++ ',' :: rest) ↔ TrailsOff rest := by
  constructor
  · rintro (hblank | ⟨before, blanks, htext, hblanks, hbefore⟩)
    · exact absurd (List.mem_append_right _ List.mem_cons_self) (notMem_comma_of_allBlank hblank)
    · rcases last_comma_unique hblanks htext.symm with ⟨-, rfl⟩ | ⟨between, rfl, hrest⟩
      · exact .inl hblanks
      · refine .inr ⟨between, blanks, hrest, hblanks, ?_⟩
        rwa [bracketDepth_append, bracketDepth_comma, hclosed, Int.zero_add] at hbefore
  · rintro (hblank | ⟨before, blanks, rfl, hblanks, hbefore⟩)
    · exact .inr ⟨part, rest, rfl, hblank, hclosed⟩
    · refine .inr ⟨part ++ ',' :: before, blanks, by simp, hblanks, ?_⟩
      rw [bracketDepth_append, bracketDepth_comma, hclosed, hbefore]
      rfl

theorem not_trailsOff_of_endsInsideBrackets {text : List Char} (h : EndsInsideBrackets text) :
    ¬ TrailsOff text := by
  obtain ⟨before, blanks, rfl, hblanks, hbefore⟩ := h
  rintro (hblank | ⟨before', blanks', htext, hblanks', hbefore'⟩)
  · exact absurd (List.mem_append_right _ List.mem_cons_self) (notMem_comma_of_allBlank hblank)
  · rcases last_comma_unique hblanks htext with ⟨rfl, -⟩ | ⟨between, -, hmore⟩
    · exact hbefore hbefore'
    · have hmem : ',' ∈ blanks' := hmore ▸ List.mem_append_right _ List.mem_cons_self
      exact notMem_comma_of_allBlank hblanks' hmem

/-- A text ends with a comma outside brackets or inside of them. -/
theorem endsWith_comma_iff {text : List Char} (hne : allBlank text = false) :
    endsWith (trim text) "," = true ↔ TrailsOff text ∨ EndsInsideBrackets text := by
  have hsuffix : endsWith (trim text) "," = true ↔ [','] <:+ trim text := List.isSuffixOf_iff_suffix
  rw [hsuffix, isSuffix_trim_iff (by decide)]
  constructor
  · rintro ⟨before, blanks, htext, hblanks⟩
    by_cases hdepth : bracketDepth before = 0
    · exact .inl (.inr ⟨before, blanks, htext, hblanks, hdepth⟩)
    · exact .inr ⟨before, blanks, htext, hblanks, hdepth⟩
  · rintro ((hblank | ⟨before, blanks, htext, hblanks, -⟩) | ⟨before, blanks, htext, hblanks, -⟩)
    · rw [hblank] at hne
      cases hne
    · exact ⟨before, blanks, htext, hblanks⟩
    · exact ⟨before, blanks, htext, hblanks⟩

/-- The number of parts that are not blank. -/
def filledParts (parts : List (List Char)) : Nat := parts.countP fun part => !allBlank part

/-- If only the last part may be blank, it is blank exactly if the text trails off. -/
theorem filledParts_eq {text : List Char} {parts : List (List Char)}
    (h : SplitsOutside text parts) (hfilled : ∀ part ∈ parts.dropLast, allBlank part = false) :
    (TrailsOff text → filledParts parts = outerCommas 0 text) ∧
      (¬ TrailsOff text → filledParts parts = outerCommas 0 text + 1) := by
  induction h with
  | @last part hwhole =>
    rw [noOuterComma_iff.1 hwhole]
    have htrails : TrailsOff part ↔ allBlank part = true :=
      or_iff_left fun ⟨before, blanks, htext, _, hdepth⟩ => hwhole before blanks htext hdepth
    rw [htrails]
    constructor <;> intro hblank <;> simp [filledParts, hblank]
  | @cons part rest parts hwhole hclosed hrest ih =>
    have hne : parts ≠ [] := by cases hrest <;> exact List.cons_ne_nil _ _
    rw [List.dropLast_cons_of_ne_nil hne, List.forall_mem_cons] at hfilled
    have hcommas : outerCommas 0 (part ++ ',' :: rest) = outerCommas 0 rest + 1 := by
      rw [outerCommas_append, noOuterComma_iff.1 hwhole, hclosed, outerCommas_cons]
      simp [bracketDepth, isOpening, isClosing]
    have hcount : filledParts (part :: parts) = filledParts parts + 1 := by
      simp [filledParts, hfilled.1]
    rw [trailsOff_cons_iff hclosed, hcommas, hcount]
    obtain ⟨hoff, hon⟩ := ih hfilled.2
    exact ⟨fun h => by rw [hoff h], fun h => by rw [hon h]⟩

/-! ## The number of parameters -/

theorem parameterCount_of_allBlank {text : List Char} (h : allBlank text = true) :
    parameterCount text = 0 := by
  rw [parameterCount, (trim_eq_nil_iff text).2 h]
  rfl

theorem parameterCount_eq {text : List Char} (hblank : allBlank text = false)
    (hvoid : trim text ≠ "void".toList) :
    parameterCount text =
      outerCommas 0 text + 1 - if endsWith (trim text) "," = true then 1 else 0 := by
  have hempty : (trim text).isEmpty = false := by
    rw [List.isEmpty_eq_false_iff, Ne, trim_eq_nil_iff, hblank]
    exact Bool.false_ne_true
  have hcond : ¬ ((trim text).isEmpty || decide (trim text = "void".toList)) = true := by
    rw [hempty, Bool.false_or, decide_eq_true_iff]
    exact hvoid
  rw [← outerCommas_trim]
  exact if_neg hcond

/-- **The number of parameters.** If no part but perhaps the last one is blank, the count is that of
the parts that are not blank, unless the text says that there are none or ends with a comma inside
brackets. Then it is one too low. -/
theorem parameterCount_eq_iff {text : List Char} {parts : List (List Char)}
    (split : SplitsOutside text parts)
    (filled : ∀ part ∈ parts.dropLast, allBlank part = false) :
    (parameterCount text = filledParts parts ↔
        trim text ≠ "void".toList ∧ ¬ EndsInsideBrackets text) ∧
      (EndsInsideBrackets text → parameterCount text + 1 = filledParts parts) := by
  obtain ⟨htrails, hnot⟩ := filledParts_eq split filled
  by_cases hblank : allBlank text = true
  · have hoff : TrailsOff text := .inl hblank
    have hinside : ¬ EndsInsideBrackets text := fun h => not_trailsOff_of_endsInsideBrackets h hoff
    have hvoid : trim text ≠ "void".toList := by
      rw [(trim_eq_nil_iff text).2 hblank]
      decide
    have hcount : parameterCount text = filledParts parts := by
      rw [parameterCount_of_allBlank hblank, htrails hoff, outerCommas_of_allBlank hblank]
    exact ⟨iff_of_true hcount ⟨hvoid, hinside⟩, fun h => absurd h hinside⟩
  · rw [Bool.not_eq_true] at hblank
    have hends := endsWith_comma_iff hblank
    by_cases hvoid : trim text = "void".toList
    · -- the word is one part, and the count is none
      have hend : ¬ endsWith (trim text) "," = true := by
        rw [hvoid]
        decide
      obtain ⟨hon, hinside⟩ := not_or.1 (hends.not.1 hend)
      have hcount : parameterCount text = 0 := by
        rw [parameterCount, hvoid]
        decide
      refine ⟨iff_of_false ?_ fun h => h.1 hvoid, fun h => absurd h hinside⟩
      rw [hcount, hnot hon]
      exact (Nat.succ_ne_zero _).symm
    · have hcount := parameterCount_eq hblank hvoid
      by_cases hinside : EndsInsideBrackets text
      · have hon := not_trailsOff_of_endsInsideBrackets hinside
        rw [if_pos (hends.2 (.inr hinside))] at hcount
        have hfilled := hnot hon
        exact ⟨iff_of_false (by omega) fun h => h.2 hinside, fun _ => by omega⟩
      · refine ⟨iff_of_true ?_ ⟨hvoid, hinside⟩, fun h => absurd h hinside⟩
        by_cases hoff : TrailsOff text
        · rw [if_pos (hends.2 (.inl hoff))] at hcount
          have hfilled := htrails hoff
          omega
        · rw [if_neg fun h => (hends.1 h).elim hoff hinside] at hcount
          have hfilled := hnot hoff
          omega

/-- Two parameters, the first of them with a comma inside brackets and the last one behind a line
that was cut off. -/
theorem parameterCount_eq_iff_generic :
    let text := "Map<String, Integer> m, List<".toList
    let parts := ["Map<String, Integer> m".toList, " List<".toList]
    SplitsOutside text parts ∧ (∀ part ∈ parts.dropLast, allBlank part = false) ∧
      parameterCount text = filledParts parts ∧ filledParts parts = 2 := by
  intro text parts
  have hsplit : SplitsOutside text parts := by
    have hfirst : NoOuterComma "Map<String, Integer> m".toList := noOuterComma_iff.2 (by decide)
    have hlast : NoOuterComma " List<".toList := noOuterComma_iff.2 (by decide)
    exact .cons hfirst (by decide) (.last hlast)
  have hfilled : ∀ part ∈ parts.dropLast, allBlank part = false := by decide
  refine ⟨hsplit, hfilled, (parameterCount_eq_iff hsplit hfilled).1.2 ⟨by decide, ?_⟩, by decide⟩
  intro hinside
  have hend := (endsWith_comma_iff (by decide)).2 (.inr hinside)
  exact absurd hend (by decide)

/-- The first line of a longer signature: its only part is not blank, and none is counted. -/
theorem cutOff_list_counted_empty :
    NeverOvercloses "Map<String,".toList ∧
      SplitsOutside "Map<String,".toList ["Map<String,".toList] ∧
      filledParts ["Map<String,".toList] = 1 ∧ parameterCount "Map<String,".toList = 0 :=
  ⟨by decide, .last (noOuterComma_iff.2 (by decide)), by decide, by decide⟩

end Affinity
