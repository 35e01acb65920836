import Affinity.Finding.DesignPatterns

/-!
# Costly functions

A function is flagged if its loops are nested more than two deep, or if a loop in it reads or
writes, or builds a text piece by piece. The score falls with the square of the share of functions
that are not flagged. Test files are left out.
-/

namespace Affinity

open Scalar

variable {K : Type} [Scalar K]

/-- A kind of costly operation. -/
inductive PerformanceIssue where
  | nestedLoops
  | ioInLoop
  | concatInLoop
  deriving DecidableEq, Repr

/-- The name in reports. -/
def PerformanceIssue.key : PerformanceIssue → String
  | nestedLoops => "nested_loops"
  | ioInLoop => "io_in_loop"
  | concatInLoop => "string_concat_in_loop"

/-- The costly operations of a function. -/
def FunctionFacts.issues (f : FunctionFacts) : List PerformanceIssue :=
  (if 2 < f.maxLoopDepth then [.nestedLoops] else []) ++
    (if 0 < f.ioInLoop then [.ioInLoop] else []) ++
    (if 0 < f.concatInLoop then [.concatInLoop] else [])

/-- There is an issue with the function. -/
def FunctionFacts.isFlagged (f : FunctionFacts) : Bool := !f.issues.isEmpty

/-- A place with a costly operation. -/
structure Hotspot where
  path : String
  function : String
  line : Nat
  /-- The name of the kind of operation. -/
  kind : String
  deriving DecidableEq, Repr

/-- The costly operations of a file in order. -/
def FileFacts.hotspots (file : FileFacts) : List Hotspot :=
  file.functions.flatMap fun f =>
    f.issues.map fun issue =>
      { path := file.path, function := f.name, line := f.line, kind := issue.key }

/-- The costly functions of a repository. -/
structure PerformanceReport (K : Type) where
  score : K
  /-- Functions outside of test files. -/
  functions : Nat := 0
  flaggedFunctions : Nat := 0
  /-- The share of the flagged functions. -/
  density : K
  /-- Operations of each kind. -/
  issues : Table String Nat := {}
  /-- The first places. -/
  hotspots : List Hotspot := []

namespace PerformanceReport

/-- The report where there is nothing to look at. -/
def empty : PerformanceReport K := { score := 0.0, density := 0.0 }

/-- The number of places that are listed. -/
def listedHotspots : Nat := 20

/-- The costly functions of some files. -/
def ofFiles (files : List FileFacts) : PerformanceReport K :=
  let production := files.filter (!·.tests.isTestFile)
  let functions := production.flatMap (·.functions)
  let hotspots := production.flatMap (·.hotspots)
  let flagged : Nat := functions.countP (·.isFlagged)
  let density : K := ratio flagged functions.length
  { score := clampScore (100.0 * square (1.0 - density))
    functions := functions.length
    flaggedFunctions := flagged
    density
    issues := .tally (hotspots.map (·.kind))
    hotspots := hotspots.take listedHotspots }

end PerformanceReport

end Affinity
