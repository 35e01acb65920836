import Affinity.Proofs.Blocks.Moves
import Affinity.Rules.Tables

/-!
# The block that a declaration leaves open

In a language with braces, a declaration takes the first block that opens on its line. If the braces
of the line leave one block open, that block is the one of the declaration exactly if the first one
stays open; a block in front of it, such as the braces around destructured parameters, takes its
place.

* `openBehind?` — how many blocks are open behind a text.
* `BlockScan.followBraces_of_pending_none` — if no declaration waits, only plain blocks open.
* `BlockScan.stack_followBraces` — which block a line leaves open.
* `BlockScan.step_opens_declared_iff` — when it is that of the declaration on the line.
* `BlockScan.destructured_parameters_take_block` — a function whose body is not its own.
-/

namespace Affinity

/-! ## Braces of a line -/

/-- The number of blocks open behind a text, if `depth` were open before it. None if it closes more
blocks than are open. -/
def openBehind? : Nat → List Char → Option Nat
  | depth, [] => some depth
  | depth, c :: rest =>
    if c = '\x7b' then openBehind? (depth + 1) rest
    else if c = '\x7d' then
      match depth with
      | 0 => none
      | depth + 1 => openBehind? depth rest
    else openBehind? depth rest

/-- The text behind the first opening brace. -/
def behindOpening : List Char → List Char
  | [] => []
  | c :: rest => if c = '\x7b' then rest else behindOpening rest

/-- The first block that the text opens is not closed in it: the braces behind are balanced. -/
def FirstStaysOpen (code : List Char) : Prop := openBehind? 0 (behindOpening code) = some 0

instance : DecidablePred FirstStaysOpen := fun _ => inferInstanceAs (Decidable (_ = _))

section Braces

variable {depth count : Nat} {c : Char} {rest : List Char}

theorem openBehind?_opening (depth : Nat) (rest : List Char) :
    openBehind? depth ('\x7b' :: rest) = openBehind? (depth + 1) rest := rfl

theorem openBehind?_closing (depth : Nat) (rest : List Char) :
    openBehind? (depth + 1) ('\x7d' :: rest) = openBehind? depth rest := rfl

theorem openBehind?_other (h : c ≠ '\x7b') (h' : c ≠ '\x7d') (depth : Nat) (rest : List Char) :
    openBehind? depth (c :: rest) = openBehind? depth rest :=
  (if_neg h).trans (if_neg h')

/-- One more block outside. -/
theorem openBehind?_succ {code : List Char} (h : openBehind? depth code = some count) :
    openBehind? (depth + 1) code = some (count + 1) := by
  induction code generalizing depth with
  | nil =>
    cases h
    rfl
  | cons c rest ih =>
    by_cases hopening : c = '\x7b'
    · subst hopening
      exact ih h
    by_cases hclosing : c = '\x7d'
    · subst hclosing
      cases depth with
      | zero => cases h
      | succ depth => exact ih h
    · rw [openBehind?_other hopening hclosing] at h ⊢
      exact ih h

end Braces

/-! ## Blocks of a line -/

namespace BlockScan

variable {rules : Rules} {context : List Char} {line depth count : Nat} {s : BlockScan}

/-- Blocks that belong to no declaration. -/
def plainFrames (count : Nat) : List Frame := List.replicate count { kind := .plain }

theorem openInner_of_pending_none (h : s.pending = none) :
    s.openInner.stack = { kind := .plain } :: s.stack ∧ s.openInner.pending = none := by
  have hopen : s.openInner = s.push { kind := .plain } := by
    rw [openInner, h]
  rw [hopen]
  exact ⟨stack_push _ _, (pending_push _ _).trans h⟩

/-- Without a declaration that waits, the blocks that stay open are plain, and those around them
stay as they were. -/
theorem followBraces_of_pending_none (hpending : s.pending = none) {code : List Char}
    (hcode : openBehind? depth code = some count) {outer : List Frame}
    (hstack : s.stack = plainFrames depth ++ outer) :
    (followBraces rules context line false s code).stack = plainFrames count ++ outer := by
  induction code generalizing s depth with
  | nil =>
    cases hcode
    exact hstack
  | cons c rest ih =>
    rw [followBraces_cons]
    by_cases hopening : c = '\x7b'
    · subst hopening
      rw [if_pos rfl, if_neg Bool.false_ne_true]
      rw [openBehind?_opening] at hcode
      obtain ⟨hinner, hnone⟩ := openInner_of_pending_none hpending
      exact ih hnone hcode (by rw [hinner, hstack]; rfl)
    by_cases hclosing : c = '\x7d'
    · subst hclosing
      rw [if_neg hopening, if_pos rfl]
      cases depth with
      | zero => cases hcode
      | succ depth =>
        rw [openBehind?_closing] at hcode
        exact ih ((pending_pop line).trans hpending) hcode (by rw [stack_pop, hstack]; rfl)
    · rw [if_neg hopening, if_neg hclosing]
      rw [openBehind?_other hopening hclosing] at hcode
      exact ih hpending hcode hstack

/-- If the text closes the frame `owner` and leaves blocks open, those are plain. -/
theorem followBraces_closes (hpending : s.pending = none) {code : List Char}
    (hcloses : openBehind? depth code = none) (hcode : openBehind? (depth + 1) code = some count)
    {owner : Frame} {outer : List Frame} (hstack : s.stack = plainFrames depth ++ owner :: outer) :
    (followBraces rules context line false s code).stack = plainFrames count ++ outer := by
  induction code generalizing s depth with
  | nil => cases hcloses
  | cons c rest ih =>
    rw [followBraces_cons]
    by_cases hopening : c = '\x7b'
    · subst hopening
      rw [if_pos rfl, if_neg Bool.false_ne_true]
      rw [openBehind?_opening] at hcloses hcode
      obtain ⟨hinner, hnone⟩ := openInner_of_pending_none hpending
      exact ih hnone hcloses hcode (by rw [hinner, hstack]; rfl)
    by_cases hclosing : c = '\x7d'
    · subst hclosing
      rw [if_neg hopening, if_pos rfl]
      rw [openBehind?_closing] at hcode
      have hnone : (s.pop line).pending = none := (pending_pop line).trans hpending
      cases depth with
      | zero =>
        -- here the owner is closed: from now on only plain blocks open
        exact followBraces_of_pending_none hnone hcode (by rw [stack_pop, hstack]; rfl)
      | succ depth =>
        rw [openBehind?_closing] at hcloses
        exact ih hnone hcloses hcode (by rw [stack_pop, hstack]; rfl)
    · rw [if_neg hopening, if_neg hclosing]
      rw [openBehind?_other hopening hclosing] at hcloses hcode
      exact ih hpending hcloses hcode hstack

theorem openBlock_of_pending (rules : Rules) (context : List Char) {kind : FrameKind}
    {declared : Nat} (h : s.pending = some (kind, declared)) :
    (s.openBlock rules context 0).stack = { kind } :: s.stack ∧
      (s.openBlock rules context 0).pending = none := by
  have hframe : s.frameFor rules context = { kind } := by
    rw [frameFor, h]
  unfold openBlock
  rw [hframe]
  exact ⟨stack_push _ _, pending_push _ _⟩

/-- A line that leaves one block open leaves open that of the declaration that waits, or else a
plain one. -/
theorem stack_followBraces {kind : FrameKind} {declared : Nat}
    (hpending : s.pending = some (kind, declared)) {code : List Char}
    (hcode : openBehind? 0 code = some 1) :
    (followBraces rules context line true s code).stack =
      { kind := if FirstStaysOpen code then kind else .plain } :: s.stack := by
  induction code with
  | nil => cases hcode
  | cons c rest ih =>
    rw [followBraces_cons]
    by_cases hopening : c = '\x7b'
    · subst hopening
      rw [if_pos rfl, if_pos rfl]
      obtain ⟨hstack, hnone⟩ := openBlock_of_pending rules context hpending
      have hbehind : FirstStaysOpen ('\x7b' :: rest) ↔ openBehind? 0 rest = some 0 := Iff.rfl
      rw [openBehind?_opening] at hcode
      cases hrest : openBehind? 0 rest with
      | some inner =>
        obtain rfl : inner = 0 :=
          Nat.succ_injective (Option.some.inj ((openBehind?_succ hrest).symm.trans hcode))
        rw [if_pos (hbehind.2 hrest)]
        exact followBraces_of_pending_none hnone hrest hstack
      | none =>
        rw [if_neg (mt hbehind.1 (by rw [hrest]; nofun))]
        exact followBraces_closes hnone hrest hcode hstack
    have hbehind : FirstStaysOpen (c :: rest) ↔ FirstStaysOpen rest := by
      rw [FirstStaysOpen, behindOpening, if_neg hopening]
      rfl
    by_cases hclosing : c = '\x7d'
    · subst hclosing
      cases hcode
    · rw [openBehind?_other hopening hclosing] at hcode
      rw [if_neg hopening, if_neg hclosing, ih hcode]
      simp only [hbehind]

theorem kindFor_expire (s : BlockScan) (line : Nat) (declaration : Declaration) :
    (s.expire line).kindFor declaration = s.kindFor declaration := by
  unfold expire
  split
  · split
    · cases declaration <;> rfl
    · rfl
  · rfl

theorem stack_expire (s : BlockScan) (line : Nat) : (s.expire line).stack = s.stack := by
  unfold expire
  split
  · split <;> rfl
  · rfl

/-- The blocks that stand open after a line with a declaration that leaves one block open. -/
theorem stack_step_of_declaration {last : Nat} {row : Row} {declaration : Declaration}
    (hblocks : rules.blocks = .braces)
    (hdeclaration : rules.declaration? row.code = some declaration)
    (hcode : openBehind? 0 row.code = some 1) :
    (s.step rules last line row).stack =
      { kind := if FirstStaysOpen row.code then s.kindFor declaration else .plain } ::
        s.stack := by
  have harrive : s.arrive rules last line row = s.expire line := by
    unfold arrive
    rw [hblocks]
    rfl
  have hregister : (s.arrive rules last line row).register rules line row =
      (s.expire line).declare line declaration := by
    rw [harrive, register, hdeclaration]
  have hpending : ((s.expire line).declare line declaration).pending =
      some (s.kindFor declaration, line) := by
    rw [pending_declare, kindFor_expire]
  rw [(quiet_step rules s last line row).stack, hregister, followTo, hblocks]
  dsimp only
  rw [List.take_length, stack_followBraces hpending hcode, stack_declare, stack_expire]

/-- A line with a declaration that leaves one block open adds one block to those around it, and that
is the block of the declaration exactly if it is the first that the line opens. -/
theorem step_opens_declared_iff {rules : Rules} (hblocks : rules.blocks = .braces) (s : BlockScan)
    (last line : Nat) {row : Row} {declaration : Declaration}
    (hdeclaration : rules.declaration? row.code = some declaration)
    (hcode : openBehind? 0 row.code = some 1) :
    ∃ frame, (s.step rules last line row).stack = frame :: s.stack ∧
      (frame.kind = s.kindFor declaration ↔ FirstStaysOpen row.code) := by
  refine ⟨_, stack_step_of_declaration hblocks hdeclaration hcode, ?_⟩
  split
  · next hfirst => exact iff_of_true rfl hfirst
  · next hfirst =>
    refine iff_of_false (fun hplain => ?_) hfirst
    have hdeclared := isDeclared_kindFor s declaration
    rw [← hplain] at hdeclared
    cases hdeclared

/-- A class inside a function whose line also holds a method as a whole. -/
theorem step_opens_declared_class :
    let code := "  class A \x7b m() \x7b return 1 \x7d".toList
    let row : Row := ⟨code, .code, code, []⟩
    let inside : BlockScan := {
      stack := [{ kind := .function 0 }]
      functions := [{ name := "f", line := 1, params := 0 }] }
    (Rules.javascript.blocks = .braces ∧
      Rules.javascript.declaration? row.code = some (.classLike "A".toList) ∧
      openBehind? 0 row.code = some 1) ∧
    ∃ frame, (inside.step Rules.javascript 0 1 row).stack = frame :: inside.stack ∧
      (frame.kind = .classLike 0 ↔ FirstStaysOpen row.code) := by
  intro code row inside
  have hdeclaration :
      Rules.javascript.declaration? row.code = some (.classLike "A".toList) := by
    decide +kernel
  have hcode : openBehind? 0 row.code = some 1 := by decide +kernel
  refine ⟨⟨rfl, hdeclaration, hcode⟩, ?_⟩
  exact step_opens_declared_iff rfl inside 0 1 hdeclaration hcode

/-- The braces around destructured parameters take the block of the function: the one that its line
leaves open is plain. -/
theorem destructured_parameters_take_block :
    let code := "function f(\x7ba, b\x7d) \x7b".toList
    let outside : BlockScan := {}
    Rules.javascript.declaration? code = some (.function "f".toList 1 none) ∧
      openBehind? 0 code = some 1 ∧
      (outside.step Rules.javascript 0 0 ⟨code, .code, code, []⟩).openKinds = [.plain] := by
  decide +kernel

end BlockScan

end Affinity
