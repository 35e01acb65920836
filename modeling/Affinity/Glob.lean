import Affinity.Text.Utf8

/-!
# Globs

A glob describes whole paths. A path is read as its bytes, so that a part for one place stands for
one byte. The places of a path that can be reached are a list of flags, one for each place from its
beginning to its end; every part of a glob carries the flags on.

* `Glob.accepts` — the glob describes the path.
* `Glob.ofString` — the glob that a text describes, or what is wrong with the text.
-/

namespace Affinity

/-- A part of a glob. -/
inductive GlobPart where
  | byte (b : UInt8)
  /-- One byte in some ranges or, if `negated`, in none of them. -/
  | oneOf (negated : Bool) (ranges : List (UInt8 × UInt8))
  /-- Any one byte; a slash only if `slash`. -/
  | any (slash : Bool)
  /-- Any number of bytes; slashes only if `slash`. -/
  | many (slash : Bool)
  /-- Nothing, or anything that ends with a slash. -/
  | leadingFolders
  /-- A slash and anything. -/
  | trailingFolders
  /-- A slash, or anything between two slashes with them. -/
  | innerFolders
  /-- What one of the branches describes; those without parts do not count. -/
  | choice (branches : List (List GlobPart))
  deriving Repr

/-- For every place of a path whether it can be reached. -/
abbrev Reach := List Bool

namespace Reach

/-- Over one byte that satisfies `p`. -/
def across (p : UInt8 → Bool) (path : Bytes) (reach : Reach) : Reach :=
  false :: List.zipWith (fun r b => r && p b) reach path

/-- Over any number of bytes that satisfy `p`; the flag says whether the place before was reached.
-/
def along (p : UInt8 → Bool) : Bool → Bytes → Reach → Reach
  | before, b :: path, r :: reach => (before || r) :: along p ((before || r) && p b) path reach
  | before, [], r :: _ => [before || r]
  | _, _, [] => []

/-- Where one of the two is. -/
def either (a b : Reach) : Reach := List.zipWith (· || ·) a b

/-- The byte of a slash. -/
def isSlash (b : UInt8) : Bool := b = 47

/-- Over anything. -/
def onward (path : Bytes) (reach : Reach) : Reach := along (fun _ => true) false path reach

/-- Only the beginning of the path. -/
def start (path : Bytes) : Reach := true :: path.map fun _ => false

/-- Nothing. -/
def none (path : Bytes) : Reach := false :: path.map fun _ => false

end Reach

namespace GlobPart

/-- A byte is in one of the ranges. -/
def inRanges (ranges : List (UInt8 × UInt8)) (b : UInt8) : Bool :=
  ranges.any fun r => r.1 ≤ b && b ≤ r.2

mutual

/-- The part describes nothing but choices without branches. -/
def isVoid : GlobPart → Bool
  | choice branches => allVoid branches
  | _ => false

/-- No path is described by the parts, whatever stands around them. -/
def areVoid : List GlobPart → Bool
  | [] => true
  | part :: rest => part.isVoid && areVoid rest

/-- So it is for every branch of a choice. -/
def allVoid : List (List GlobPart) → Bool
  | [] => true
  | branch :: rest => areVoid branch && allVoid rest

end

open Reach in
mutual

/-- The places reached over the part. -/
def advance (path : Bytes) (reach : Reach) : GlobPart → Reach
  | byte b => across (· == b) path reach
  | oneOf negated ranges => across (fun b => inRanges ranges b != negated) path reach
  | any slash => across (fun b => slash || !isSlash b) path reach
  | many slash => along (fun b => slash || !isSlash b) false path reach
  | leadingFolders => either reach (across isSlash path (onward path reach))
  | trailingFolders => onward path (across isSlash path reach)
  | innerFolders =>
    let first := across isSlash path reach
    either first (across isSlash path (onward path first))
  | choice branches =>
    if allVoid branches then reach else advanceChoice path reach branches

/-- The places reached by several parts one after the other. -/
def advanceAll (path : Bytes) (reach : Reach) : List GlobPart → Reach
  | [] => reach
  | part :: rest => advanceAll path (advance path reach part) rest

/-- The places reached by some branch of a choice. -/
def advanceChoice (path : Bytes) (reach : Reach) : List (List GlobPart) → Reach
  | [] => Reach.none path
  | branch :: rest =>
    let others := advanceChoice path reach rest
    if areVoid branch then others else either (advanceAll path reach branch) others

end

end GlobPart

/-- A glob: its parts in order. -/
abbrev Glob := List GlobPart

namespace Glob

/-- The glob describes the whole path. -/
def accepts (glob : Glob) (path : Bytes) : Bool :=
  match glob with
  | [.leadingFolders] => true
  | _ => (GlobPart.advanceAll path (Reach.start path) glob).getLastD false

end Glob

/-!
## Reading globs

`?` stands for one byte and `*` for any number; two stars between slashes, before the first or after
the last one stand for folders. `[a-z]` is one byte of a range, `[!a-z]` one outside of it, and
`\x7ba,b\x7d` one of two globs; a backslash takes away the meaning of the character after it.
-/

/-- What is wrong with a glob. -/
inductive GlobError where
  | unclosedClass
  | invalidRange (first last : Char)
  | unclosedGroup
  | unopenedGroup
  | danglingEscape
  deriving DecidableEq, Repr

/-- The text of the error. -/
def GlobError.message : GlobError → String
  | unclosedClass => "unclosed character class; missing ']'"
  | invalidRange first last => s!"invalid range; '{first}' > '{last}'"
  | unclosedGroup =>
    "unclosed alternate group; missing '\x7d' (maybe escape '\x7b' with '[\x7b]'?)"
  | unopenedGroup =>
    "unopened alternate group; missing '\x7b' (maybe escape '\x7d' with '[\x7d]'?)"
  | danglingEscape => "dangling '\\'"

namespace Glob

/-- The bytes of a character. -/
def charBytes (c : Char) : Bytes := Utf8.encode (String.singleton c)

/-- The parts for a character that stands for itself. -/
def literal (c : Char) : List GlobPart := (charBytes c).map .byte

/-- The byte ranges of a character range: the bytes of both ends, and the bytes between the last one
of the first and the first one of the last. -/
def byteRanges (first last : Char) : List (UInt8 × UInt8) :=
  if first = last then (charBytes first).map fun b => (b, b)
  else
    let low := charBytes first
    let high := charBytes last
    (low.dropLast.map fun b => (b, b)) ++ [(low.getLastD 0, high.headD 0)] ++
      (high.drop 1).map fun b => (b, b)

/-! ### Classes -/

/-- A class under way. -/
structure ClassReader where
  /-- The ranges so far, the last one first. -/
  ranges : List (Char × Char) := []
  /-- A hyphen came after the last range. -/
  inRange : Bool := false

/-- Ends the last range at a character. -/
def ClassReader.close (r : ClassReader) (c : Char) : Except GlobError ClassReader :=
  match r.ranges with
  | (first, _) :: rest =>
    if c < first then .error (.invalidRange first c)
    else .ok { ranges := (first, c) :: rest }
  | [] => .ok { ranges := [(c, c)] }

/-- Adds a character to the class. -/
def ClassReader.add (r : ClassReader) (c : Char) : Except GlobError ClassReader :=
  if r.inRange then r.close c
  else if c = '-' && !r.ranges.isEmpty then .ok { r with inRange := true }
  else .ok { ranges := (c, c) :: r.ranges }

/-- The ranges of a class that is over. -/
def ClassReader.result (r : ClassReader) : List (UInt8 × UInt8) :=
  let ranges := if r.inRange then ('-', '-') :: r.ranges else r.ranges
  ranges.reverse.flatMap fun (first, last) => byteRanges first last

/-- Reads a class up to its closing bracket. A bracket at its very beginning is a member. -/
def readClass (r : ClassReader) : List Char → Except GlobError (ClassReader × List Char)
  | [] => .error .unclosedClass
  | c :: rest =>
    if c = ']' && !r.ranges.isEmpty then .ok (r, rest)
    else
      match r.add c with
      | .ok r => readClass r rest
      | .error e => .error e

/-! ### Parts -/

/-- A glob under way. -/
structure State where
  /-- The character before the next one. -/
  previous : Option Char := none
  /-- The parts of the innermost branch, the last one first. -/
  parts : List GlobPart := []
  /-- The open groups: finished branches, the last one first, and the parts before the group. -/
  groups : List (List (List GlobPart) × List GlobPart) := []

/-- Adds a part. -/
def State.push (s : State) (part : GlobPart) : State := { s with parts := part :: s.parts }

/-- The part for two or more stars between other parts: `last` says whether they end the branch. -/
def State.folders (s : State) (last : Bool) : State :=
  match s.parts with
  | .leadingFolders :: _ => s
  | .trailingFolders :: _ => s
  | _ :: rest => { s with parts := (if last then .trailingFolders else .innerFolders) :: rest }
  | [] => s

/-- Two stars that do not stand for folders. -/
def State.stars (s : State) (slash : Bool) : State := (s.push (.many slash)).push (.many slash)

/-- Reads what follows a second star. -/
def State.doubleStar (s : State) (slash : Bool) (rest : List Char) : State × List Char :=
  let s' := { s with previous := some '*' }
  if s.parts.isEmpty then
    match rest with
    | [] => (s'.push .leadingFolders, [])
    | c :: after =>
      if c = '/' then ({ s with previous := some '/' }.push .leadingFolders, after)
      else (s'.stars slash, rest)
  else
    let inGroup := !s.groups.isEmpty
    let afterBreak := s.previous = some '/' ||
      (inGroup && (s.previous = some ',' || s.previous = some '\x7b'))
    if !afterBreak then (s'.stars slash, rest)
    else
      match rest with
      | [] => (s'.folders true, [])
      | c :: after =>
        if inGroup && (c = ',' || c = '\x7d') then (s'.folders true, rest)
        else if c = '/' then ({ s' with previous := some '/' }.folders false, after)
        else (s'.stars slash, rest)

/-- Reads one part. `slash` says whether stars and question marks stand for slashes too. -/
def State.read (s : State) (slash : Bool) (c : Char) (rest : List Char) :
    Except GlobError (State × List Char) :=
  let next := { s with previous := some c }
  match c with
  | '?' => .ok (next.push (.any slash), rest)
  | '*' =>
    match rest with
    | '*' :: after => .ok (s.doubleStar slash after)
    | _ => .ok (next.push (.many slash), rest)
  | '[' =>
    let (negated, body) :=
      match rest with
      | '!' :: body => (true, body)
      | '^' :: body => (true, body)
      | _ => (false, rest)
    match readClass {} body with
    | .ok (r, after) => .ok ({ s with previous := some ']' }.push (.oneOf negated r.result), after)
    | .error e => .error e
  | '\x7b' => .ok ({ next with parts := [], groups := ([], s.parts) :: s.groups }, rest)
  | '\x7d' =>
    match s.groups with
    | [] => .error .unopenedGroup
    | (branches, before) :: groups =>
      let choice := .choice ((s.parts.reverse :: branches).reverse)
      .ok ({ next with parts := choice :: before, groups }, rest)
  | ',' =>
    match s.groups with
    | [] => .ok ({ next with parts := (literal ',').reverse ++ s.parts }, rest)
    | (branches, before) :: groups =>
      .ok ({ next with parts := [], groups := (s.parts.reverse :: branches, before) :: groups },
        rest)
  | '\\' =>
    match rest with
    | [] => .error .danglingEscape
    | escaped :: after =>
      .ok ({ s with previous := some escaped,
                    parts := (literal escaped).reverse ++ s.parts }, after)
  | _ => .ok ({ next with parts := (literal c).reverse ++ s.parts }, rest)

/-- Reads parts to the end of the text, at most `fuel` of them. -/
def readParts (slash : Bool) : Nat → State → List Char → Except GlobError State
  | _, s, [] => .ok s
  | 0, s, _ => .ok s
  | fuel + 1, s, c :: rest =>
    match s.read slash c rest with
    | .ok (s, rest) => readParts slash fuel s rest
    | .error e => .error e

/-- The glob that a text describes. `slash` says whether stars and question marks stand for slashes
too. -/
def ofChars (slash : Bool) (text : List Char) : Except GlobError Glob :=
  match readParts slash text.length {} text with
  | .ok s => if s.groups.isEmpty then .ok s.parts.reverse else .error .unclosedGroup
  | .error e => .error e

/-- The glob that a text describes; its stars stand for slashes too. -/
def ofString (text : String) : Except GlobError Glob := ofChars true text.toList

end Glob

end Affinity
