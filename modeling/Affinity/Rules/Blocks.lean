import Affinity.Facts
import Affinity.Rules.Declaration

/-!
# Blocks

`Rules.scanBlocks` goes through the code lines of a file and keeps a stack of the open blocks, the
innermost first. It gives the functions and classes with their lengths, and charges branches, early
exits and costly statements to the innermost function around them.

A declaration waits for its block: the next block that opens belongs to it, provided it opens within
`BlockScan.patience` lines. Any other block is a loop, a control block or plain, as the line tells
on which it opens.
-/

namespace Affinity

/-- What a block is. Functions and classes are given by their index. -/
inductive FrameKind where
  | function (index : Nat)
  | classLike (index : Nat)
  | loop
  | control
  | plain
  deriving DecidableEq, Repr

/-- The block belongs to no declaration and repeats or guards its body. -/
def FrameKind.isControl : FrameKind → Bool
  | loop | control => true
  | _ => false

/-- An open block. -/
structure Frame where
  kind : FrameKind
  /-- The indentation of the line that opened it. -/
  indent : Nat := 0
  /-- Failures inside it are handled. -/
  guarding : Bool := false
  deriving DecidableEq, Repr

/-- The innermost function around a place and the frames inside it, innermost first. -/
def innermostFunction? : List Frame → Option (Nat × List Frame)
  | [] => none
  | frame :: outer =>
    match frame.kind with
    | .function index => some (index, [])
    | _ => (innermostFunction? outer).map fun (index, inner) => (index, frame :: inner)

/-- The class to which a function declared at a place belongs: the innermost frame of a declaration,
if it is a class. -/
def owner? : List Frame → Option Nat
  | [] => none
  | frame :: outer =>
    match frame.kind with
    | .function _ => none
    | .classLike index => some index
    | _ => owner? outer

/-- The number of control blocks among some blocks. -/
def controlDepth (frames : List Frame) : Nat := frames.countP (·.kind.isControl)

/-- The number of loops among some blocks. -/
def loopDepth (frames : List Frame) : Nat := frames.countP (·.kind == .loop)

/-- The state of the scan. -/
structure BlockScan where
  /-- The open blocks, innermost first. -/
  stack : List Frame := []
  /-- A declaration whose block has not opened yet, with the index of its line. -/
  pending : Option (FrameKind × Nat) := none
  /-- The code line before. -/
  previous : List Char := []
  functions : List FunctionFacts := []
  classes : List ClassFacts := []
  errors : ErrorFacts := {}
  /-- Declarations with the index of their line, in order. -/
  declarations : List (Nat × Declaration) := []
  deriving DecidableEq, Repr

namespace BlockScan

/-- The number of lines after its own in which the block of a declaration may open. -/
def patience : Nat := 4

/-- Records a declaration on line `line`. -/
def declare (s : BlockScan) (line : Nat) (declaration : Declaration) : BlockScan :=
  let s := { s with declarations := s.declarations ++ [(line, declaration)] }
  match declaration with
  | .function name params _ =>
    { s with
      classes :=
        match owner? s.stack with
        | some index => s.classes.modify index fun c => { c with methods := c.methods + 1 }
        | none => s.classes
      functions := s.functions ++ [{ name := String.ofList name, line := line + 1, params }]
      pending := some (.function s.functions.length, line) }
  | .classLike name =>
    { s with
      classes := s.classes ++ [{ name := String.ofList name, line := line + 1 }]
      pending := some (.classLike s.classes.length, line) }

/-- Opens a block. -/
def push (s : BlockScan) (frame : Frame) : BlockScan :=
  let stack := frame :: s.stack
  match innermostFunction? stack with
  | some (index, inner) =>
    { s with
      stack
      functions := s.functions.modify index fun f =>
        { f with
          maxNesting := max f.maxNesting (controlDepth inner)
          maxLoopDepth := max f.maxLoopDepth (loopDepth inner) } }
  | none => { s with stack }

/-- Closes the innermost block on line `line`. -/
def pop (s : BlockScan) (line : Nat) : BlockScan :=
  match s.stack with
  | [] => s
  | frame :: outer =>
    let s := { s with stack := outer }
    match frame.kind with
    | .function index =>
      { s with functions := s.functions.modify index fun f =>
          { f with lines := line + 1 - f.line + 1 } }
    | .classLike index =>
      { s with classes := s.classes.modify index fun c =>
          { c with lines := line + 1 - c.line + 1 } }
    | _ => s

/-- Closes the innermost blocks as long as they satisfy `p`. -/
def popWhile (p : Frame → Bool) (line : Nat) (s : BlockScan) : BlockScan :=
  (s.stack.takeWhile p).foldl (fun s _ => s.pop line) s

/-- Gives up waiting for a block that did not open in time. -/
def expire (s : BlockScan) (line : Nat) : BlockScan :=
  match s.pending with
  | some (_, declared) => if declared + patience < line then { s with pending := none } else s
  | none => s

/-- Counts what a line of code without a declaration holds. -/
def observe (rules : Rules) (s : BlockScan) (code : List Char) : BlockScan :=
  let risk := rules.risk.count code
  let s := { s with errors :=
    { risk := s.errors.risk + risk
      guarded := s.errors.guarded + if s.stack.any (·.guarding) then risk else 0
      checks := s.errors.checks + rules.checks.count code } }
  match innermostFunction? s.stack with
  | none => s
  | some (index, inner) =>
    let exits := 0 < controlDepth inner && rules.exits.isMatch code
    let inLoop := 0 < loopDepth inner
    { s with functions := s.functions.modify index fun f =>
        { f with
          branches := f.branches + rules.branch.count code
          earlyReturns := f.earlyReturns + if exits then 1 else 0
          ioInLoop := f.ioInLoop + if inLoop && rules.io.isMatch code then 1 else 0
          concatInLoop := f.concatInLoop + if inLoop && rules.concat.isMatch code then 1 else 0 } }

/-- The frame of a block that opens on a line with the text `context`. A pending declaration takes
it; `s.pending` has to be cleared then. -/
def frameFor (rules : Rules) (s : BlockScan) (context : List Char) : Frame :=
  match s.pending with
  | some (kind, _) => { kind }
  | none =>
    if rules.loops.isMatch context then { kind := .loop }
    else if rules.guard.isMatch context then { kind := .control, guarding := true }
    else if rules.control.isMatch context then { kind := .control }
    else { kind := .plain }

/-- Opens a block on a line with the text `context`. -/
def openBlock (rules : Rules) (s : BlockScan) (context : List Char) (indent : Nat) : BlockScan :=
  { s with pending := none }.push { s.frameFor rules context with indent }

/-- Opens a further block on a line: that of a pending declaration, else a plain one. -/
def openInner (s : BlockScan) : BlockScan :=
  match s.pending with
  | some (kind, _) => { s with pending := none }.push { kind }
  | none => s.push { kind := .plain }

/-- Follows the braces of line `line`. Only the first block that opens may be a loop or a control
block. -/
def followBraces (rules : Rules) (context : List Char) (line : Nat) :
    Bool → BlockScan → List Char → BlockScan
  | _, s, [] => s
  | first, s, c :: rest =>
    if c = '\x7b' then
      let s := if first then s.openBlock rules context 0 else s.openInner
      followBraces rules context line false s rest
    else if c = '\x7d' then followBraces rules context line first (s.pop line) rest
    else followBraces rules context line first s rest

/-- A line in a language with braces. A brace at the start of a line opens the block of the line
before. A declaration that ends with a semicolon has no block. -/
def braces (rules : Rules) (s : BlockScan) (line : Nat) (code : List Char) : BlockScan :=
  let context := if startsWith (trimStart code) "\x7b" then s.previous else code
  let s := followBraces rules context line true s code
  if endsWith (trimEnd code) ";" then { s with pending := none } else s

/-- A line in a language with words around its blocks. A block that closes on its own line opens
none. -/
def keywords (rules : Rules) (s : BlockScan) (line : Nat) (code : List Char) : BlockScan :=
  let s := if rules.closers.isMatch code then s.pop line else s
  if rules.openers.isMatch code || s.pending.any (·.2 == line) then
    let text := trimEnd code
    if endsWith text " end" || endsWith text ";end" then { s with pending := none }
    else s.openBlock rules code 0
  else s

/-- A line in a language whose blocks are told by indentation. -/
def indented (rules : Rules) (s : BlockScan) (code : List Char) (indent : Nat) : BlockScan :=
  if endsWith (trimEnd code) ":" then s.openBlock rules code indent else s

/-- Takes one line of code; `last` is the index of the code line before. -/
def step (rules : Rules) (s : BlockScan) (last line : Nat) (row : Row) : BlockScan :=
  let s := s.expire line
  let indent := indentation row.raw
  let s :=
    if rules.blocks == .indentation then s.popWhile (fun frame => indent ≤ frame.indent) last
    else s
  let s :=
    match rules.declaration? row.code with
    | some declaration => s.declare line declaration
    | none => s.observe rules row.code
  let s :=
    match rules.blocks with
    | .braces => s.braces rules line row.code
    | .keywords => s.keywords rules line row.code
    | .indentation => s.indented rules row.code indent
    | .flat => s
  { s with previous := row.code }

/-- Closes every block on line `line`. -/
def finish (s : BlockScan) (line : Nat) : BlockScan :=
  s.popWhile (fun _ => true) line

/-- Counts a method with a named receiver for the first class of that name. -/
def addReceiver (classes : List ClassFacts) (receiver : List Char) : List ClassFacts :=
  match classes.findIdx? (·.name == String.ofList receiver) with
  | some index => classes.modify index fun c => { c with methods := c.methods + 1 }
  | none => classes

end BlockScan

/-- The state after all rows, with the index of the last code line. -/
def Rules.scanRows (rules : Rules) (rows : List Row) : BlockScan × Nat :=
  rows.zipIdx.foldl (fun (s, last) (row, line) =>
    if row.isCode then (s.step rules last line row, line) else (s, last)) ({}, 0)

/-- The functions, classes and error handling of a file. -/
def Rules.scanBlocks (rules : Rules) (rows : List Row) : BlockScan :=
  let (s, last) := rules.scanRows rows
  let s := s.finish last
  { s with
    classes := (s.declarations.filterMap (·.2.receiver?)).foldl BlockScan.addReceiver s.classes }

end Affinity
