import Mathlib.Data.List.TakeWhile
import Mathlib.Logic.Relation
import Mathlib.Tactic.SplitIfs
import Affinity.Rules.Blocks

/-!
# What the scan of blocks can do

The scan of the code lines does few things to its stack of open blocks, to the declaration that
waits for its block and to the lines that it records. Each of its operations is described here by
these three, and every line is taken apart into moves of two sorts.

* `BlockScan.span?` — the lines recorded for a declaration.
* `BlockScan.Calm`, `BlockScan.Opens` — moves by which no block opens, and those by which one does.
* `BlockScan.arrive`, `BlockScan.register`, `BlockScan.followTo` — the parts of a line: what ends
  before it, what it declares or counts, and the blocks that it opens and closes.
* `BlockScan.calm_arrive`, `BlockScan.calm_register`, `BlockScan.followTo_zero`,
  `BlockScan.followTo_succ`, `BlockScan.quiet_step` — a line is made up of moves.
-/

namespace Affinity

/-! ## Recorded lines -/

/-- The lines of a declaration: the number of its first line, from one, and how many there are. -/
structure Span where
  line : Nat
  lines : Nat
  deriving DecidableEq, Repr

namespace Span

/-- The number of the last line. -/
def last (span : Span) : Nat := span.line + span.lines - 1

/-- The span of a declaration whose block closes on the line with the index `stop`. -/
def closeAt (stop : Nat) (span : Span) : Span :=
  { span with lines := stop + 1 - span.line + 1 }

theorem last_closeAt {span : Span} {stop : Nat} (h : span.line ≤ stop + 1) :
    (span.closeAt stop).last = stop + 1 := by
  unfold last closeAt
  dsimp only
  omega

end Span

/-- The lines over which a function was found. -/
def FunctionFacts.span (f : FunctionFacts) : Span := ⟨f.line, f.lines⟩

/-- The lines over which a class was found. -/
def ClassFacts.span (c : ClassFacts) : Span := ⟨c.line, c.lines⟩

/-- The block is that of a function or a class. -/
def FrameKind.isDeclared : FrameKind → Bool
  | .function _ | .classLike _ => true
  | _ => false

namespace BlockScan

/-- The lines recorded for a function or a class. -/
def span? (s : BlockScan) : FrameKind → Option Span
  | .function index => s.functions[index]?.map FunctionFacts.span
  | .classLike index => s.classes[index]?.map ClassFacts.span
  | _ => none

/-- What the next declaration is going to be. -/
def kindFor (s : BlockScan) : Declaration → FrameKind
  | .function _ _ _ => .function s.functions.length
  | .classLike _ => .classLike s.classes.length

/-- The kinds of the open blocks, innermost first. -/
def openKinds (s : BlockScan) : List FrameKind := s.stack.map (·.kind)

theorem isDeclared_kindFor (s : BlockScan) (declaration : Declaration) :
    (s.kindFor declaration).isDeclared = true := by
  cases declaration <;> rfl

theorem span?_kindFor (s : BlockScan) (declaration : Declaration) :
    s.span? (s.kindFor declaration) = none := by
  cases declaration <;> simp [span?, kindFor]

/-! ## Operations -/

/-- A change that keeps what `view` shows of every entry. -/
theorem map_getElem?_modify {α β : Type} {change : α → α} {view : α → β}
    (h : ∀ a, view (change a) = view a) (l : List α) (index i : Nat) :
    (l.modify index change)[i]?.map view = l[i]?.map view := by
  rw [List.getElem?_modify]
  cases l[i]? with
  | none => rfl
  | some a => by_cases hi : index = i <;> simp [hi, h]

theorem getElem?_concat {α : Type} (l : List α) (a : α) (i : Nat) :
    (l ++ [a])[i]? = if i = l.length then some a else l[i]? := by
  grind

section Operations

variable {s t : BlockScan}

/-- The lines of functions and classes are the same. -/
theorem span?_congr
    (hfunctions : ∀ i : Nat,
      s.functions[i]?.map FunctionFacts.span = t.functions[i]?.map FunctionFacts.span)
    (hclasses : ∀ i : Nat, s.classes[i]?.map ClassFacts.span = t.classes[i]?.map ClassFacts.span) :
    s.span? = t.span? := by
  funext kind
  cases kind with
  | function index => exact hfunctions index
  | classLike index => exact hclasses index
  | loop => rfl
  | control => rfl
  | plain => rfl

theorem stack_push (s : BlockScan) (frame : Frame) : (s.push frame).stack = frame :: s.stack := by
  unfold push
  extract_lets stack
  split <;> rfl

theorem pending_push (s : BlockScan) (frame : Frame) : (s.push frame).pending = s.pending := by
  unfold push
  extract_lets stack
  split <;> rfl

theorem span?_push (s : BlockScan) (frame : Frame) : (s.push frame).span? = s.span? := by
  unfold push
  extract_lets stack
  split
  · apply span?_congr
    · intro i
      apply map_getElem?_modify
      exact fun _ => rfl
    · exact fun _ => rfl
  · rfl

theorem pop_of_nil (h : s.stack = []) (line : Nat) : s.pop line = s := by
  unfold pop
  rw [h]

theorem stack_pop (line : Nat) : (s.pop line).stack = s.stack.tail := by
  unfold pop
  split
  · next h => rw [h]; rfl
  · next frame outer h =>
    extract_lets popped
    rw [h]
    split <;> rfl

theorem pending_pop (line : Nat) : (s.pop line).pending = s.pending := by
  unfold pop
  split
  · rfl
  · extract_lets popped
    split <;> rfl

/-- Closing a block records its last line. -/
theorem span?_pop {frame : Frame} {outer : List Frame} (h : s.stack = frame :: outer)
    (line : Nat) (kind : FrameKind) :
    (s.pop line).span? kind =
      if kind = frame.kind then (s.span? kind).map (Span.closeAt line) else s.span? kind := by
  unfold pop
  rw [h]
  dsimp only
  cases hkind : frame.kind with
  | function index =>
    cases kind with
    | function i =>
      by_cases hi : index = i
      · simp [span?, hi, Function.comp_def, Span.closeAt, FunctionFacts.span]
      · simp [span?, hi, Ne.symm hi]
    | classLike i => rfl
    | loop => rfl
    | control => rfl
    | plain => rfl
  | classLike index =>
    cases kind with
    | classLike i =>
      by_cases hi : index = i
      · simp [span?, hi, Function.comp_def, Span.closeAt, ClassFacts.span]
      · simp [span?, hi, Ne.symm hi]
    | function i => rfl
    | loop => rfl
    | control => rfl
    | plain => rfl
  | loop => cases kind <;> rfl
  | control => cases kind <;> rfl
  | plain => cases kind <;> rfl

theorem stack_declare (line : Nat) (declaration : Declaration) :
    (s.declare line declaration).stack = s.stack := by
  cases declaration <;> rfl

theorem pending_declare (line : Nat) (declaration : Declaration) :
    (s.declare line declaration).pending = some (s.kindFor declaration, line) := by
  cases declaration <;> rfl

/-- A declaration is recorded with its line alone. -/
theorem span?_declare (line : Nat) (declaration : Declaration) (kind : FrameKind) :
    (s.declare line declaration).span? kind =
      if kind = s.kindFor declaration then some ⟨line + 1, 1⟩ else s.span? kind := by
  cases declaration with
  | function name params receiver =>
    cases kind with
    | function i =>
      simp only [span?, declare, kindFor, getElem?_concat, FrameKind.function.injEq]
      split <;> rfl
    | classLike i =>
      simp only [span?, declare, kindFor, reduceCtorEq, if_false]
      split
      · apply map_getElem?_modify
        exact fun _ => rfl
      · rfl
    | loop => rfl
    | control => rfl
    | plain => rfl
  | classLike name =>
    cases kind with
    | classLike i =>
      simp only [span?, declare, kindFor, getElem?_concat, FrameKind.classLike.injEq]
      split <;> rfl
    | function i => rfl
    | loop => rfl
    | control => rfl
    | plain => rfl

theorem stack_observe (rules : Rules) (code : List Char) :
    (s.observe rules code).stack = s.stack := by
  unfold observe
  extract_lets risk counted
  split <;> rfl

theorem pending_observe (rules : Rules) (code : List Char) :
    (s.observe rules code).pending = s.pending := by
  unfold observe
  extract_lets risk counted
  split <;> rfl

theorem span?_observe (rules : Rules) (code : List Char) :
    (s.observe rules code).span? = s.span? := by
  unfold observe
  extract_lets risk counted
  split
  · rfl
  · apply span?_congr
    · intro i
      apply map_getElem?_modify
      exact fun _ => rfl
    · exact fun _ => rfl

end Operations

/-! ## Moves -/

/-- A declaration stops waiting, or something is counted. -/
structure Quiet (s t : BlockScan) : Prop where
  stack : t.stack = s.stack
  pending : t.pending = s.pending ∨ t.pending = none
  spans : t.span? = s.span?

/-- A move on line `line` by which no block opens. -/
inductive Calm (line : Nat) (s t : BlockScan) : Prop
  | quiet (h : Quiet s t)
  /-- The innermost block closes. -/
  | closes (frame : Frame) (stack : s.stack = frame :: t.stack) (pending : t.pending = s.pending)
      (spans : ∀ kind, t.span? kind =
        if kind = frame.kind then (s.span? kind).map (Span.closeAt line) else s.span? kind)
  /-- A function or class is declared and waits for its block. -/
  | declares (declaration : Declaration) (stack : t.stack = s.stack)
      (pending : t.pending = some (s.kindFor declaration, line))
      (spans : ∀ kind, t.span? kind =
        if kind = s.kindFor declaration then some ⟨line + 1, 1⟩ else s.span? kind)

/-- A block opens. Only the declaration that waits makes it one of a function or class. -/
structure Opens (frame : Frame) (s t : BlockScan) : Prop where
  stack : t.stack = frame :: s.stack
  pending : t.pending = none
  spans : t.span? = s.span?
  waited : frame.kind.isDeclared = true → ∃ line, s.pending = some (frame.kind, line)

/-- Any move. -/
def Move (line : Nat) (s t : BlockScan) : Prop :=
  Calm line s t ∨ ∃ frame, Opens frame s t

section Moves

variable {s : BlockScan}

theorem Calm.refl (line : Nat) (s : BlockScan) : Calm line s s := .quiet ⟨rfl, .inl rfl, rfl⟩

theorem calm_pop (s : BlockScan) (line : Nat) : Calm line s (s.pop line) := by
  cases h : s.stack with
  | nil =>
    rw [pop_of_nil h]
    exact .refl line s
  | cons frame outer =>
    refine .closes frame ?_ (pending_pop line) (span?_pop h line)
    rw [stack_pop, h]
    rfl

theorem calm_expire (stop line : Nat) (s : BlockScan) : Calm stop s (s.expire line) := by
  unfold expire
  split
  · split
    · exact .quiet ⟨rfl, .inr rfl, rfl⟩
    · exact .refl stop s
  · exact .refl stop s

theorem calm_closings {α : Type} (line : Nat) (l : List α) (s : BlockScan) :
    Relation.ReflTransGen (Calm line) s (l.foldl (fun s _ => s.pop line) s) := by
  induction l generalizing s with
  | nil => exact .refl
  | cons _ rest ih => exact .head (calm_pop s line) (ih (s.pop line))

theorem stack_closings {α : Type} (line : Nat) (l : List α) (s : BlockScan) :
    (l.foldl (fun s _ => s.pop line) s).stack = s.stack.drop l.length := by
  induction l generalizing s with
  | nil => rfl
  | cons _ rest ih =>
    rw [List.foldl_cons, ih, stack_pop, List.length_cons, List.drop_tail]

theorem calm_finish (s : BlockScan) (line : Nat) :
    Relation.ReflTransGen (Calm line) s (s.finish line) :=
  calm_closings line _ s

/-- At the end every block is closed. -/
theorem stack_finish (s : BlockScan) (line : Nat) : (s.finish line).stack = [] := by
  have hall : s.stack.takeWhile (fun _ => true) = s.stack :=
    List.takeWhile_eq_self_iff.2 fun _ _ => rfl
  unfold finish popWhile
  rw [stack_closings, hall, List.drop_length]

/-- Only a pending declaration makes a block one of a function or class. -/
theorem pending_of_isDeclared {rules : Rules} {context : List Char}
    (h : (s.frameFor rules context).kind.isDeclared = true) :
    ∃ line, s.pending = some ((s.frameFor rules context).kind, line) := by
  unfold frameFor at h ⊢
  cases hpending : s.pending with
  | some waiting => exact ⟨waiting.2, rfl⟩
  | none =>
    rw [hpending] at h
    dsimp only at h
    split_ifs at h <;> cases h

theorem opens_openBlock (rules : Rules) (s : BlockScan) (context : List Char) (indent : Nat) :
    Opens { s.frameFor rules context with indent } s (s.openBlock rules context indent) where
  stack := stack_push _ _
  pending := pending_push _ _
  spans := span?_push _ _
  waited := pending_of_isDeclared

theorem opens_openInner (s : BlockScan) : ∃ frame, Opens frame s s.openInner := by
  unfold openInner
  split
  · next kind line hpending =>
    exact ⟨{ kind }, stack_push _ _, pending_push _ _, span?_push _ _, fun _ => ⟨line, hpending⟩⟩
  · next hpending =>
    refine ⟨{ kind := .plain }, stack_push _ _, ?_, span?_push _ _, nofun⟩
    rw [pending_push, hpending]

/-! ## The parts of a line -/

/-- The state in which a line is met: blocks that its indentation ends are closed. -/
def arrive (rules : Rules) (s : BlockScan) (last line : Nat) (row : Row) : BlockScan :=
  let s := s.expire line
  if rules.blocks == .indentation then
    s.popWhile (fun frame => indentation row.raw ≤ frame.indent) last
  else s

/-- The state after the line was searched for a declaration. -/
def register (rules : Rules) (s : BlockScan) (line : Nat) (row : Row) : BlockScan :=
  match rules.declaration? row.code with
  | some declaration => s.declare line declaration
  | none => s.observe rules row.code

/-- The state after the blocks of the first `column` characters. Only braces are followed one by
one; else a line opens one block at most. -/
def followTo (rules : Rules) (s : BlockScan) (line : Nat) (row : Row) (column : Nat) :
    BlockScan :=
  match rules.blocks with
  | .braces =>
    let context := if startsWith (trimStart row.code) "\x7b" then s.previous else row.code
    followBraces rules context line true s (row.code.take column)
  | .keywords => s.keywords rules line row.code
  | .indentation => s.indented rules row.code (indentation row.raw)
  | .flat => s

theorem calm_arrive (rules : Rules) (s : BlockScan) (last line : Nat) (row : Row) :
    Relation.ReflTransGen (Calm last) s (s.arrive rules last line row) := by
  refine .head (calm_expire last line s) ?_
  unfold arrive
  extract_lets expired
  split
  · exact calm_closings last _ _
  · exact .refl

theorem calm_register (rules : Rules) (s : BlockScan) (line : Nat) (row : Row) :
    Calm line s (s.register rules line row) := by
  unfold register
  split
  · next declaration _ =>
    exact .declares declaration (stack_declare line declaration)
      (pending_declare line declaration) (span?_declare line declaration)
  · exact .quiet ⟨stack_observe .., .inl (pending_observe ..), span?_observe ..⟩

/-- A line is taken in three parts: what was open before it, what it declares, and its blocks. -/
theorem step_eq (rules : Rules) (s : BlockScan) (last line : Nat) (row : Row) :
    s.step rules last line row =
      let taken := (s.arrive rules last line row).register rules line row
      { (match rules.blocks with
        | .braces => taken.braces rules line row.code
        | .keywords => taken.keywords rules line row.code
        | .indentation => taken.indented rules row.code (indentation row.raw)
        | .flat => taken) with previous := row.code } :=
  rfl

/-- A line is met, searched for a declaration and followed; then it is the code line before. -/
theorem quiet_step (rules : Rules) (s : BlockScan) (last line : Nat) (row : Row) :
    Quiet
      (((s.arrive rules last line row).register rules line row).followTo rules line row
        row.code.length)
      (s.step rules last line row) := by
  rw [step_eq]
  generalize (s.arrive rules last line row).register rules line row = taken
  unfold followTo
  cases rules.blocks with
  | braces =>
    dsimp only [braces]
    rw [List.take_length]
    generalize (if startsWith (trimStart row.code) "\x7b" then taken.previous
      else row.code) = context
    split
    · exact ⟨rfl, .inr rfl, rfl⟩
    · exact ⟨rfl, .inl rfl, rfl⟩
  | keywords => exact ⟨rfl, .inl rfl, rfl⟩
  | indentation => exact ⟨rfl, .inl rfl, rfl⟩
  | flat => exact ⟨rfl, .inl rfl, rfl⟩

theorem followBraces_cons (rules : Rules) (context : List Char) (line : Nat) (first : Bool)
    (s : BlockScan) (c : Char) (rest : List Char) :
    followBraces rules context line first s (c :: rest) =
      if c = '\x7b' then
        followBraces rules context line false
          (if first then s.openBlock rules context 0 else s.openInner) rest
      else if c = '\x7d' then followBraces rules context line first (s.pop line) rest
      else followBraces rules context line first s rest := rfl

theorem followBraces_append (rules : Rules) (context : List Char) (line : Nat) (first : Bool)
    (s : BlockScan) (a b : List Char) :
    ∃ first', followBraces rules context line first s (a ++ b) =
      followBraces rules context line first' (followBraces rules context line first s a) b := by
  induction a generalizing first s with
  | nil => exact ⟨first, rfl⟩
  | cons c rest ih =>
    rw [List.cons_append]
    simp only [followBraces_cons]
    split
    · exact ih _ _
    · split
      · exact ih _ _
      · exact ih _ _

/-- One character opens a block, closes one or does nothing. -/
theorem move_followBraces (rules : Rules) (context : List Char) (line : Nat) (first : Bool)
    (s : BlockScan) (c : Char) : Move line s (followBraces rules context line first s [c]) := by
  rw [followBraces_cons]
  split
  · split
    · exact .inr ⟨_, opens_openBlock rules s context 0⟩
    · exact .inr (opens_openInner s)
  · split
    · exact .inl (calm_pop s line)
    · exact .inl (.refl line s)

/-- Before the first character, only a language without braces may have opened a block. -/
theorem followTo_zero (rules : Rules) (s : BlockScan) (line : Nat) (row : Row) :
    ∃ t, Calm line s t ∧ Move line t (s.followTo rules line row 0) := by
  unfold followTo
  cases rules.blocks with
  | braces => exact ⟨s, .refl line s, .inl (.refl line s)⟩
  | keywords =>
    dsimp only [keywords]
    refine ⟨if rules.closers.isMatch row.code then s.pop line else s, ?_, ?_⟩
    · split
      · exact calm_pop s line
      · exact .refl line s
    · generalize (if rules.closers.isMatch row.code then s.pop line else s) = t
      split
      · split
        · exact .inl (.quiet ⟨rfl, .inr rfl, rfl⟩)
        · exact .inr ⟨_, opens_openBlock rules t row.code 0⟩
      · exact .inl (.refl line t)
  | indentation =>
    refine ⟨s, .refl line s, ?_⟩
    dsimp only [indented]
    split
    · exact .inr ⟨_, opens_openBlock rules s row.code _⟩
    · exact .inl (.refl line s)
  | flat => exact ⟨s, .refl line s, .inl (.refl line s)⟩

/-- One character further is one move further. -/
theorem followTo_succ (rules : Rules) (s : BlockScan) (line : Nat) (row : Row) (column : Nat) :
    Move line (s.followTo rules line row column) (s.followTo rules line row (column + 1)) := by
  unfold followTo
  cases rules.blocks with
  | braces =>
    dsimp only
    rw [List.take_add_one]
    cases row.code[column]? with
    | none =>
      rw [Option.toList_none, List.append_nil]
      exact .inl (.refl line _)
    | some c =>
      obtain ⟨first, hfirst⟩ := followBraces_append rules
        (if startsWith (trimStart row.code) "\x7b" then s.previous else row.code) line true s
        (row.code.take column) [c]
      rw [Option.toList_some, hfirst]
      exact move_followBraces ..
  | keywords => exact .inl (.refl line _)
  | indentation => exact .inl (.refl line _)
  | flat => exact .inl (.refl line _)

end Moves

end BlockScan

end Affinity
