import Affinity.Comment.Scan
import Affinity.Pattern

/-!
# Classified lines

`classify` scans the lines of a text one after the other and tells for each what it is: code,
documentation, comment or blank. A line with code on it is code, whatever else stands there; then
documentation comes before comments. There is one entry for every line of the text.
-/

namespace Affinity

/-- What a line is. -/
inductive LineKind where
  | blank
  | code
  | comment
  | doc
  deriving DecidableEq, Repr

/-- A line of a text together with what stands on it. -/
structure Row where
  /-- The line as it was written. -/
  raw : List Char
  kind : LineKind
  /-- The code without comments and without the contents of strings. -/
  code : List Char
  /-- The text of the comments. -/
  comment : List Char
  deriving DecidableEq, Repr

/-- The kind of a line on which `found` was found. -/
def Finding.kind (found : Finding) : LineKind :=
  if found.hasCode then .code
  else if found.hasDoc then .doc
  else if found.hasComment then .comment
  else .blank

/-- The row of a line. -/
def Row.ofFinding (raw : List Char) (found : Finding) : Row where
  raw := raw
  kind := found.kind
  code := found.code
  comment := found.comment

/-- There is code on the line. -/
def Row.isCode (row : Row) : Bool := row.kind == .code

/-- There is nothing on the line. -/
def Row.isBlank (row : Row) : Bool := row.kind == .blank

/-- Scans lines one after the other, beginning in the given mode. -/
def classifyLines (style : CommentStyle) : ScanMode → List (List Char) → List Row
  | _, [] => []
  | mode, line :: others =>
    let (next, found) := scanRow style { mode } 0 line
    .ofFinding line found :: classifyLines style next others

/-- The mode in which a scan of the lines ends. -/
def modeAfter (style : CommentStyle) : ScanMode → List (List Char) → ScanMode
  | mode, [] => mode
  | mode, line :: others => modeAfter style (scanRow style { mode } 0 line).1 others

/-- The classified lines of a text. -/
def classify (style : CommentStyle) (content : List Char) : List Row :=
  classifyLines style .normal (lines content)

/-! ## Counts -/

/-- How many lines there are of each kind. -/
structure LineCounts where
  total : Nat := 0
  code : Nat := 0
  comment : Nat := 0
  doc : Nat := 0
  blank : Nat := 0
  deriving DecidableEq, Repr

/-- The lines of a file, counted by their kind. -/
def LineCounts.ofRows (rows : List Row) : LineCounts where
  total := rows.length
  code := rows.countP (·.kind == .code)
  comment := rows.countP (·.kind == .comment)
  doc := rows.countP (·.kind == .doc)
  blank := rows.countP (·.kind == .blank)

/-! ## Neighbours and headers -/

/-- The nearest line above that is not blank. Lines of code that satisfy `skip` are passed over. -/
def previousSignificant (skip : List Char → Bool) (rows : List Row) (index : Nat) : Option Nat :=
  ((rows.take index).zipIdx.reverse.find? fun (row, _) =>
    !row.isBlank && !(row.isCode && skip row.code)).map (·.2)

/-- The nearest line below that is not blank. -/
def nextSignificant (rows : List Row) (index : Nat) : Option Nat :=
  ((rows.drop (index + 1)).zipIdx (index + 1) |>.find? fun (row, _) => !row.isBlank).map (·.2)

/-- The first line that says something is documentation or, if `orComment`, a comment. The line that
names an interpreter is passed over. -/
def hasHeader (orComment : Bool) (rows : List Row) : Bool :=
  match rows.find? fun row => !row.isBlank && !startsWith (trimStart row.comment) "#!" with
  | some row => row.kind == .doc || (orComment && row.kind == .comment)
  | none => false

/-! ## Counts taken from comments and code -/

/-- The words that mark unfinished work. -/
def markerPattern : Pattern := .ofString r"\b(TODO|FIXME|HACK|XXX|BUG)\b"

/-- The markers in the comments of the lines, in order. -/
def markers (rows : List Row) : List String :=
  rows.flatMap fun row => (markerPattern.groups "1" row.comment).map String.ofList

/-- Lines that declare a constant. -/
def constantPattern : Pattern :=
  .ofString r"\b(?:const|final|static\s+readonly|define|enum)\b|^\s*[A-Z][A-Z0-9_]*\s*[:=]"

/-- A number that is no part of a name or of another number. -/
def numberPattern : Pattern := .ofString r"(?:^|[^\w.])(\d+(?:\.\d+)?)\b"

/-- Numbers that need no name. -/
def plainNumbers : List String := ["0", "1", "2", "0.0", "1.0"]

/-- The number of numeric literals that should have a name: those in code that declares no
constant, the plain numbers apart. -/
def magicNumberCount (rows : List Row) : Nat :=
  let literals := (rows.filter fun row => row.isCode && !constantPattern.isMatch row.code).flatMap
    fun row => numberPattern.groups "1" row.code
  literals.countP fun literal => !plainNumbers.contains (String.ofList literal)

/-- The code of each line with its blanks narrowed, in order. Two lines are copies of each other if
these texts are equal. Lines without a letter or digit say nothing and are left out. -/
def fingerprints (rows : List Row) : List String :=
  (rows.filter fun row => row.isCode && row.code.any isAlphanumeric).map fun row =>
    String.ofList (collapseBlanks row.code)

end Affinity
