import Affinity.Comment.Classified
import Affinity.Identifier
import Affinity.Path
import Affinity.Table
import Affinity.Text.Lines

/-!
# Facts about a file

`FileFacts` holds what is counted in one file: lines, names, documentation, functions, classes,
error handling, tests, dangerous constructs, layout, imports, markers, design patterns. Every score
of a repository is computed from such counts. `StyleFacts.ofRows` counts how a file is laid out.
-/

namespace Affinity

/-! ## Source files -/

/-- A decoded file. -/
structure SourceFile where
  path : Path
  language : Language
  content : String
  deriving DecidableEq, Repr

namespace SourceFile

/-- The name of the file in reports. -/
def key (file : SourceFile) : String := file.path.key

/-- The text of the file as a list of characters. -/
def text (file : SourceFile) : List Char := file.content.toList

/-- The number of lines. -/
def lineCount (file : SourceFile) : Nat := Affinity.lineCount file.text

/-- Nothing but blanks stands in the file. -/
def isBlank (file : SourceFile) : Bool := allBlank file.text

end SourceFile

/-! ## Counts -/

/-- Declared names held against the conventions of their language. -/
structure NamingFacts where
  total : Nat := 0
  conventional : Nat := 0
  short : Nat := 0
  deriving DecidableEq, Repr

/-- Records a name: `casings` are the conventions that fit it. -/
def NamingFacts.record (naming : NamingFacts) (casings : List Casing) (name : List Char) :
    NamingFacts where
  total := naming.total + 1
  conventional := naming.conventional + if Identifier.followsAny name casings then 1 else 0
  short := naming.short + if Identifier.isShort name then 1 else 0

/-- Symbols that others may use, and those of them that are documented. -/
structure DocFacts where
  publicSymbols : Nat := 0
  documentedSymbols : Nat := 0
  /-- The file opens with documentation. -/
  moduleDoc : Bool := false
  deriving DecidableEq, Repr

/-- What is counted of a function. -/
structure FunctionFacts where
  name : String
  /-- Number of the line on which the function is declared, from one. -/
  line : Nat
  lines : Nat := 1
  params : Nat := 0
  /-- Constructs that branch or loop. -/
  branches : Nat := 0
  /-- Greatest number of control blocks around a line of the body. -/
  maxNesting : Nat := 0
  /-- Returns and raised errors inside a control block. -/
  earlyReturns : Nat := 0
  /-- Greatest number of loops around a line of the body. -/
  maxLoopDepth : Nat := 0
  ioInLoop : Nat := 0
  concatInLoop : Nat := 0
  deriving DecidableEq, Repr, Inhabited

/-- The number of paths through the function, by its branching constructs. -/
def FunctionFacts.complexity (f : FunctionFacts) : Nat := f.branches + 1

/-- What is counted of a class. -/
structure ClassFacts where
  name : String
  line : Nat
  lines : Nat := 1
  methods : Nat := 0
  deriving DecidableEq, Repr, Inhabited

/-- What is counted of the handling of errors. -/
structure ErrorFacts where
  /-- Calls that can fail. -/
  risk : Nat := 0
  /-- Those of them inside a construct that handles the failure. -/
  guarded : Nat := 0
  /-- Explicit checks. -/
  checks : Nat := 0
  deriving DecidableEq, Repr

/-- What is counted of tests. -/
structure TestFacts where
  isTestFile : Bool := false
  testFunctions : Nat := 0
  assertions : Nat := 0
  deriving DecidableEq, Repr

/-- Habits of layout in a file. -/
structure StyleFacts where
  /-- The most frequent step of indentation, in columns. -/
  indentUnit : Option Nat := none
  tabLines : Nat := 0
  spaceLines : Nat := 0
  /-- Opening braces at the end of a line. -/
  braceSameLine : Nat := 0
  /-- Opening braces that stand alone. -/
  braceNextLine : Nat := 0
  crlf : Bool := false
  trailingWhitespace : Nat := 0
  deriving DecidableEq, Repr

/-- How many places could carry a type annotation, and how many do. -/
structure TypeFacts where
  annotatable : Nat := 0
  annotated : Nat := 0
  deriving DecidableEq, Repr

/-- Everything counted in one file. -/
structure FileFacts where
  path : String
  language : Language
  lines : LineCounts := {}
  naming : NamingFacts := {}
  docs : DocFacts := {}
  functions : List FunctionFacts := []
  classes : List ClassFacts := []
  errors : ErrorFacts := {}
  tests : TestFacts := {}
  /-- Dangerous constructs by kind. -/
  security : Table String Nat := {}
  style : StyleFacts := {}
  /-- Import targets as they are written. -/
  imports : List String := []
  markers : Table String Nat := {}
  /-- Signatures of design patterns by pattern. -/
  patterns : Table String Nat := {}
  magicNumbers : Nat := 0
  types : Option TypeFacts := none
  /-- The grammar did not accept the file, so pattern rules were used. -/
  fallback : Bool := false
  /-- Texts of the code lines with their blanks narrowed. -/
  fingerprints : List String := []
  deriving DecidableEq, Repr

namespace FileFacts

/-- Adds to the dangerous constructs of a kind; none of a kind leave no entry. -/
def addSecurity (facts : FileFacts) (kind : String) (n : Nat) : FileFacts :=
  if n = 0 then facts else { facts with security := facts.security.add kind n }

end FileFacts

/-!
## Habits of layout

Indentation, braces, line breaks and the blanks at the ends of lines. Indentation and braces are
looked at on lines of code only.
-/

/-- The steps by which the indentation grows from one line to the next, beginning at the margin. -/
def indentSteps (indents : List Nat) : List Nat :=
  ((0 :: indents).zip indents).filterMap fun (before, here) =>
    if before < here then some (here - before) else none

/-- The key with the greatest count; of several the first. -/
def mostFrequent? (counts : List (Nat × Nat)) : Option Nat :=
  (counts.foldl (fun best entry =>
    match best with
    | some (_, n) => if n < entry.2 then some entry else best
    | none => some entry) none).map (·.1)

/-- The layout of a file, from its text and its rows. -/
def StyleFacts.ofRows (content : List Char) (rows : List Row) : StyleFacts :=
  let code := rows.filter Row.isCode
  let opensAlone (row : Row) := trim row.code == ['\x7b']
  { indentUnit := mostFrequent? (Table.tally (indentSteps (code.map (indentation ·.raw)))).entries
    tabLines := code.countP fun row => row.raw.head? == some '\t'
    spaceLines := code.countP fun row => row.raw.head? == some ' '
    braceSameLine := code.countP fun row =>
      (trim row.code).getLast? == some '\x7b' && !opensAlone row
    braceNextLine := code.countP opensAlone
    crlf := contains content ['\r', '\n']
    trailingWhitespace := rows.countP fun row =>
      row.raw.getLast? == some ' ' || row.raw.getLast? == some '\t' }

end Affinity
