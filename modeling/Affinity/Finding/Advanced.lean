import Affinity.Facts
import Affinity.Finding.Duplication
import Affinity.Finding.ImportGraph
import Affinity.Finding.Performance
import Affinity.Score.Basic

/-!
# What shows only in a repository as a whole

Duplicates, the graph of imports, patterns, costly functions and comments are searched for in all
files at once. Three of the categories are scored by them.

* `CommentReport` — how much of the files is comments.
* `AdvancedMetrics` — all findings together.
-/

namespace Affinity

/-!
## Comments

Ten to thirty comment lines for a hundred lines of code score best; fewer and more score less. The
words that mark unfinished work are counted but do not change the score.
-/

open Scalar

variable {K : Type} [Scalar K]

/-- The score of a number of comment lines per line of code. -/
def bandScore (density : K) : K :=
  clampScore
    (if density < 0.10 then 40.0 + (100.0 - 40.0) * density / 0.10
     else if density ≤ 0.30 then 100.0
     else 100.0 * 0.30 / density)

/-- The comments of a repository. -/
structure CommentReport (K : Type) where
  score : K
  commentLines : Nat := 0
  codeLines : Nat := 0
  /-- Comment lines per line of code. -/
  ratio : K
  /-- Marks of unfinished work by their words. -/
  markers : Table String Nat := {}
  /-- Marks of unfinished work by file. -/
  filesWithMarkers : Table String Nat := {}

namespace CommentReport

/-- The report where there is nothing to look at. -/
def empty : CommentReport K := { score := 0.0, ratio := 0.0 }

/-- How often any marker word stands in a comment. -/
def markerCount (report : CommentReport K) : Nat := report.markers.total

/-- The comment lines for a hundred lines of code. -/
def percentage (report : CommentReport K) : K := report.ratio * 100.0

/-- The comments of some files. Comments without any code count like those of a single line. -/
def ofFiles (files : List FileFacts) : CommentReport K :=
  let comments : Nat := sumOf (files.map (·.lines.comment))
  let code : Nat := sumOf (files.map (·.lines.code))
  let density : K := (comments : K) / ((max code 1 : Nat) : K)
  { score := if code = 0 && comments = 0 then 0.0 else bandScore density
    commentLines := comments
    codeLines := code
    ratio := density
    markers := files.foldl (fun table f => table.addAll f.markers) {}
    filesWithMarkers := files.foldl (fun table f =>
      if 0 < f.markers.total then table.add f.path f.markers.total else table) {} }

end CommentReport

/-! ## All findings -/

/-- The findings about a repository. -/
structure AdvancedMetrics (K : Type) where
  /-- Scores of the categories that are scored once for a repository. -/
  scores : CategoryScores K
  duplication : DuplicationReport K
  dependencies : DependencyReport K
  patterns : PatternReport K
  performance : PerformanceReport K
  comments : CommentReport K

namespace AdvancedMetrics

/-- The findings where there is nothing to look at. -/
def empty : AdvancedMetrics K where
  scores := .zeros Category.advanced
  duplication := .empty
  dependencies := .empty
  patterns := .empty
  performance := .empty
  comments := .empty

/-- The score for patterns, with the patterns found. -/
def patternScore (report : PatternReport K) : CategoryScore K :=
  .withEvidence .patterns report.score [
    ("design_patterns", (report.designPatterns.size : Nat)),
    ("anti_patterns", (report.antiPatternCount : Nat))]

/-- The score for performance, with the costly functions found. -/
def performanceScore (report : PerformanceReport K) : CategoryScore K :=
  .withEvidence .performance report.score [
    ("functions", (report.functions : Nat)),
    ("flagged_functions", (report.flaggedFunctions : Nat))]

/-- The score for comments, with the share of comments and the markers found. -/
def commentScore (report : CommentReport K) : CategoryScore K :=
  .withEvidence .comments report.score [
    ("comment_ratio", report.ratio),
    ("markers", (report.markerCount : Nat))]

/-- The findings about some files. -/
def ofFiles (thresholds : Thresholds K) (files : List FileFacts) : AdvancedMetrics K :=
  if files.isEmpty then empty
  else
    let patterns := PatternReport.ofFiles thresholds files
    let performance := PerformanceReport.ofFiles files
    let comments := CommentReport.ofFiles files
    { scores := .ofList [patternScore patterns, performanceScore performance, commentScore comments]
      duplication := .ofFiles (windowSize thresholds.duplicationWindow) files
      dependencies := .ofFiles files
      patterns
      performance
      comments }

end AdvancedMetrics

end Affinity
