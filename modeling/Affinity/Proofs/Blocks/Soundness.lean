import Affinity.Proofs.Blocks.Moments
import Affinity.Proofs.Blocks.Opening
import Affinity.Proofs.Comment.Scan

/-!
# The scan of blocks is sound

Whatever the rules and the text are, the scan never looks up a function or class that it has not
recorded, keeps its stack as high as the braces say, opens the block of a declaration in time and
leaves nothing open; what it records lies within the file.

* `braceDepth`, `Rules.length_stack_scanRows` — the height of the stack in a language with braces.
* `BlockScan.Sound` — what holds at a moment of the scan.
* `Rules.timely_scanRows`, `Rules.listed_scanRows` — what holds between the rows.
* `Rules.ScansSoundly`, `Rules.scan_sound` — what holds of the scan of a whole file.
-/

namespace Affinity

/-! ## Depth of braces -/

/-- The depth behind a character; a closing brace at depth zero closes nothing. -/
def braceStep (depth : Nat) (c : Char) : Nat :=
  if c = '\x7b' then depth + 1 else if c = '\x7d' then depth - 1 else depth

/-- The depth of the braces behind the code of some rows. -/
def braceDepth (rows : List Row) : Nat :=
  ((rows.filter Row.isCode).flatMap (·.code)).foldl braceStep 0

namespace BlockScan

variable {s t : BlockScan}

/-- Following the braces of a line moves the height of the stack as it moves their depth. -/
theorem length_followBraces (rules : Rules) (context : List Char) (line : Nat) (first : Bool)
    (s : BlockScan) (code : List Char) :
    (followBraces rules context line first s code).stack.length =
      code.foldl braceStep s.stack.length := by
  induction code generalizing first s with
  | nil => rfl
  | cons c rest ih =>
    rw [followBraces_cons, List.foldl_cons]
    by_cases hopening : c = '\x7b'
    · have hheight : (if first then s.openBlock rules context 0 else s.openInner).stack.length =
          s.stack.length + 1 := by
        split
        · rw [(opens_openBlock rules s context 0).stack, List.length_cons]
        · obtain ⟨frame, hopens⟩ := opens_openInner s
          rw [hopens.stack, List.length_cons]
      rw [if_pos hopening, ih, hheight, braceStep, if_pos hopening]
    · by_cases hclosing : c = '\x7d'
      · rw [if_neg hopening, if_pos hclosing, ih, stack_pop, List.length_tail, braceStep,
          if_neg hopening, if_pos hclosing]
      · rw [if_neg hopening, if_neg hclosing, ih, braceStep, if_neg hopening, if_neg hclosing]

theorem length_stack_step {rules : Rules} (hblocks : rules.blocks = .braces) (s : BlockScan)
    (last line : Nat) (row : Row) :
    (s.step rules last line row).stack.length = row.code.foldl braceStep s.stack.length := by
  have hregister : ((s.arrive rules last line row).register rules line row).stack = s.stack := by
    have harrive : s.arrive rules last line row = s.expire line := by
      unfold arrive
      rw [hblocks]
      rfl
    rw [harrive, register]
    split
    · rw [stack_declare, stack_expire]
    · rw [stack_observe, stack_expire]
  rw [(quiet_step rules s last line row).stack, followTo, hblocks]
  dsimp only
  rw [List.take_length, length_followBraces, hregister]

end BlockScan

/-- **In a language with braces the stack is as high as the braces are deep.** -/
theorem Rules.length_stack_scanRows {rules : Rules} (hblocks : rules.blocks = .braces)
    (rows : List Row) : (rules.scanRows rows).1.stack.length = braceDepth rows := by
  induction rows using List.reverseRecOn with
  | nil => rfl
  | append_singleton rows row ih =>
    rw [scanRows_concat, braceDepth, List.filter_append, List.flatMap_append, List.foldl_append,
      ← braceDepth, ← ih]
    by_cases hrow : row.isCode
    · rw [if_pos hrow, BlockScan.length_stack_step hblocks]
      simp [hrow]
    · rw [if_neg hrow]
      simp [hrow]

/-! ## One moment -/

/-- The lines are lines of a file that has `count` of them. -/
def Span.Within (count : Nat) (span : Span) : Prop :=
  1 ≤ span.line ∧ 1 ≤ span.lines ∧ span.last ≤ count

namespace BlockScan

variable {s : BlockScan} {now bound : Nat}

/-- A function or class is recorded under its index. -/
def Holds (s : BlockScan) : FrameKind → Prop
  | .function index => index < s.functions.length
  | .classLike index => index < s.classes.length
  | .loop | .control | .plain => True

theorem holds_of_isSome_span? {kind : FrameKind} (h : (s.span? kind).isSome) : s.Holds kind := by
  cases kind with
  | function index => simpa [span?, Holds] using h
  | classLike index => simpa [span?, Holds] using h
  | loop => trivial
  | control => trivial
  | plain => trivial

theorem holds_of_not_isDeclared {kind : FrameKind} (h : ¬ kind.isDeclared) : s.Holds kind := by
  cases kind with
  | function index => exact absurd rfl h
  | classLike index => exact absurd rfl h
  | loop => trivial
  | control => trivial
  | plain => trivial

/-- What holds at every moment of a scan. -/
structure Sound (s : BlockScan) : Prop where
  /-- Every function and class with an open block is recorded, … -/
  stack : ∀ kind ∈ s.openKinds, s.Holds kind
  /-- … and so is what waits for its block. -/
  pending : ∀ kind line, s.pending = some (kind, line) → s.Holds kind
  /-- Every declaration is a function or a class, … -/
  count : s.declarations.length = s.functions.length + s.classes.length
  /-- … and they come line by line. -/
  order : s.declarations.Pairwise fun a b => a.1 < b.1

theorem Timely.sound (h : Timely now s) (hlisted : s.roster.Listed bound) : s.Sound := by
  have hholds : ∀ kind, kind ∈ s.openKinds ∨ s.Waits kind → s.Holds kind := by
    intro kind hkind
    by_cases hdeclared : kind.isDeclared
    · exact holds_of_isSome_span? (h.recorded kind hdeclared hkind)
    · exact holds_of_not_isDeclared hdeclared
  exact {
    stack := fun kind hkind => hholds kind (.inl hkind)
    pending := fun kind line hpending => hholds kind (.inr ⟨line, hpending⟩)
    count := by simpa [roster] using hlisted.count
    order := hlisted.order }

end BlockScan

/-! ## Between the rows -/

namespace Rules

open BlockScan

variable {rules : Rules}

theorem timely_scanRows (rules : Rules) (rows : List Row) :
    Timely (rules.scanRows rows).2 (rules.scanRows rows).1 := by
  induction rows using List.reverseRecOn with
  | nil => exact timely_empty
  | append_singleton rows row ih =>
    rw [scanRows_concat]
    split
    · exact (Passes.left.onRow ih (rules.scanRows_snd_le rows)).toTimely
    · exact ih

theorem listed_scanRows (rules : Rules) (rows : List Row) :
    (rules.scanRows rows).1.roster.Listed rows.length := by
  induction rows using List.reverseRecOn with
  | nil => exact ⟨.nil, nofun, rfl⟩
  | append_singleton rows row ih =>
    rw [scanRows_concat, List.length_append, List.length_singleton]
    split
    · exact Passes.left.listed ih
    · exact ih.mono (Nat.le_succ _)

/-- The last code line is one of the rows. -/
theorem scanRows_snd_lt (rules : Rules) {rows : List Row} (h : rows ≠ []) :
    (rules.scanRows rows).2 < rows.length := by
  cases rows using List.reverseRecOn with
  | nil => exact absurd rfl h
  | append_singleton rows row =>
    have hbefore := rules.scanRows_snd_le rows
    rw [scanRows_concat, List.length_append, List.length_singleton]
    split
    · exact Nat.lt_succ_self _
    · exact Nat.lt_succ_of_le hbefore

/-! ## The end -/

theorem length_addReceivers (receivers : List (List Char)) (classes : List ClassFacts) :
    (receivers.foldl addReceiver classes).length = classes.length := by
  induction receivers generalizing classes with
  | nil => rfl
  | cons receiver others ih =>
    rw [List.foldl_cons, ih]
    unfold addReceiver
    split <;> simp

theorem timely_finished (rules : Rules) (rows : List Row) :
    Timely (rules.finished rows).1 (rules.finished rows).2 :=
  (rules.timely_scanRows rows).calms (calm_finish ..)

theorem sound_finished (rules : Rules) (rows : List Row) : (rules.finished rows).2.Sound := by
  have hlisted : (rules.finished rows).2.roster.Listed rows.length := by
    rw [finished, roster_finish]
    exact rules.listed_scanRows rows
  exact (rules.timely_finished rows).sound hlisted

theorem stack_scanBlocks (rules : Rules) (rows : List Row) : (rules.scanBlocks rows).stack = [] :=
  stack_finish _ _

theorem sound_scanBlocks (rules : Rules) (rows : List Row) : (rules.scanBlocks rows).Sound := by
  have hsound := rules.sound_finished rows
  have hclasses : (rules.scanBlocks rows).classes.length =
      (rules.finished rows).2.classes.length := length_addReceivers _ _
  refine { stack := ?_, pending := ?_, count := ?_, order := hsound.order }
  · intro kind hkind
    rw [openKinds, stack_scanBlocks] at hkind
    cases hkind
  · intro kind line hpending
    have hholds := hsound.pending kind line hpending
    cases kind with
    | classLike index => exact hholds.trans_eq hclasses.symm
    | function index => exact hholds
    | loop => trivial
    | control => trivial
    | plain => trivial
  · rw [hclasses]
    exact hsound.count

/-- What was recorded lies within the file. -/
theorem within_scanBlocks {rows : List Row} (hrows : rows ≠ []) {kind : FrameKind} {span : Span}
    (hspan : (rules.scanBlocks rows).span? kind = some span) : span.Within rows.length := by
  have hend := rules.timely_finished rows
  rw [span?_scanBlocks] at hspan
  obtain ⟨hline, hlines⟩ := hend.positive kind span hspan
  have hlast : span.last ≤ (rules.scanRows rows).2 + 1 := (hend.bounds kind span hspan).2
  exact ⟨hline, hlines, hlast.trans (rules.scanRows_snd_lt hrows)⟩

/-- The scan of the rows of a file is sound. -/
structure ScansSoundly (rules : Rules) (rows : List Row) : Prop where
  /-- So is every moment on a row of code, and a block of a declaration that opens on the row opens
  in time, as would one that the declaration still waits for. -/
  moments : ∀ before row after, rows = before ++ row :: after → row.isCode →
    ∀ t, Passes rules (rules.scanRows before).2 before.length row (rules.scanRows before).1 t →
      t.Sound ∧ ∀ kind, kind.isDeclared →
        (kind ∈ t.openKinds ∧ kind ∉ (rules.scanRows before).1.openKinds) ∨ t.Waits kind →
          t.InTime before.length kind
  /-- So is every moment at the end, where what is still open is closed, … -/
  closing : ∀ count, Sound ((pop · (rules.scanRows rows).2)^[count] (rules.scanRows rows).1)
  /-- … and then nothing is open. -/
  closed : (rules.scanBlocks rows).stack = []
  result : (rules.scanBlocks rows).Sound
  /-- In a language with braces the stack is as high behind each row as the braces are deep. -/
  height : rules.blocks = .braces →
    ∀ count, (rules.scanRows (rows.take count)).1.stack.length = braceDepth (rows.take count)
  functions : ∀ f ∈ (rules.scanBlocks rows).functions, f.span.Within rows.length
  classes : ∀ c ∈ (rules.scanBlocks rows).classes, c.span.Within rows.length

theorem scansSoundly (rules : Rules) (rows : List Row) : rules.ScansSoundly rows := by
  refine { moments := ?_, closing := ?_, closed := rules.stack_scanBlocks rows,
           result := rules.sound_scanBlocks rows, height := ?_, functions := ?_, classes := ?_ }
  · intro before row after _ _ t ht
    have hrow := ht.onRow (rules.timely_scanRows before) (rules.scanRows_snd_le before)
    refine ⟨hrow.toTimely.sound (ht.listed (rules.listed_scanRows before)), ?_⟩
    rintro kind hdeclared (⟨hkind, hbefore⟩ | hwaits)
    · exact (hrow.opened kind hkind hdeclared).resolve_left hbefore
    · exact hrow.inTime_of_waits hwaits
  · intro count
    have hlisted := rules.listed_scanRows rows
    rw [← roster_iterate _ (rules.scanRows rows).2 count] at hlisted
    exact ((rules.timely_scanRows rows).calms (calm_iterate ..)).sound hlisted
  · intro hblocks count
    exact length_stack_scanRows hblocks _
  · intro f hf
    obtain ⟨i, hi⟩ := List.mem_iff_getElem?.1 hf
    have hrows : rows ≠ [] := by
      rintro rfl
      cases hf
    have hspan : (rules.scanBlocks rows).span? (.function i) = some f.span := by
      simp [span?, hi]
    exact within_scanBlocks hrows hspan
  · intro c hc
    obtain ⟨i, hi⟩ := List.mem_iff_getElem?.1 hc
    have hrows : rows ≠ [] := by
      rintro rfl
      cases hc
    have hspan : (rules.scanBlocks rows).span? (.classLike i) = some c.span := by
      simp [span?, hi]
    exact within_scanBlocks hrows hspan

/-- **The scan of any text by any rules is sound**: it looks up nothing that it has not recorded,
lists what is declared in order, follows the braces, opens blocks in time, leaves nothing open, and
the lines that it records are lines of the text. -/
theorem scan_sound (rules : Rules) (content : List Char) :
    rules.ScansSoundly (classify rules.comments content) ∧
      (classify rules.comments content).length = lineCount content :=
  ⟨rules.scansSoundly _, length_classifyLines ..⟩

end Rules

end Affinity
