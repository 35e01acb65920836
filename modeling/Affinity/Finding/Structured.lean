import Affinity.Finding.Advanced
import Affinity.Json
import Affinity.Score.Formula

/-!
# Scores and findings as structured values

Each report is an object with a field for each of its parts. Reports are written by `toJson` and
read by `ofJson?`; the scores of the categories are written only.
-/

namespace Affinity

/-!
## Scores as structured values

A set of scores is an object with a field for each category. Evidence is left out where there is
none.
-/

open Json (ofNat)

/-- A score with its evidence as a structured value. -/
def CategoryScore.toJson (score : CategoryScore Float) : Json :=
  .obj ([("category", .str score.category.key), ("value", .float score.value)] ++
    if score.evidence.isEmpty then [] else [("evidence", Json.ofTable .float score.evidence)])

/-- A set of scores as a structured value. -/
def CategoryScores.toJson (scores : CategoryScores Float) : Json :=
  .obj (scores.toList.map fun s => (s.category.key, s.toJson))

/-- The metrics of a language as a structured value. -/
def LanguageMetrics.toJson (m : LanguageMetrics Float) : Json := .obj [
  ("language", .str m.language.key), ("file_count", ofNat m.fileCount),
  ("line_count", ofNat m.lineCount), ("scores", m.scores.toJson)]

/-! ## Findings as structured values -/

/-! ### Duplication -/

/-- The level with exactly the given label. -/
def DuplicationLevel.ofJson? (v : Json) : Option DuplicationLevel :=
  v.str?.bind fun label => DuplicationLevel.all.find? fun level => level.label == label

/-- The most duplicated file as a structured value. -/
def FileDuplication.toJson (f : FileDuplication Float) : Json := .obj [
  ("path", .str f.path), ("duplicated_lines", ofNat f.duplicatedLines),
  ("percentage", .float f.percentage)]

/-- The most duplicated file, read from a structured value. -/
def FileDuplication.ofJson? (v : Json) : Option (FileDuplication Float) := do
  return {
    path := ← v.get? "path" Json.str?
    duplicatedLines := ← v.get? "duplicated_lines" Json.nat?
    percentage := ← v.get? "percentage" Json.float? }

/-- The report on duplicates as a structured value. -/
def DuplicationReport.toJson (r : DuplicationReport Float) : Json := .obj [
  ("score", .float r.score), ("window", ofNat r.window), ("lines", ofNat r.lines),
  ("duplicated_lines", ofNat r.duplicatedLines), ("percentage", .float r.percentage),
  ("duplicated_blocks", ofNat r.duplicatedBlocks),
  ("files_with_duplicates", ofNat r.filesWithDuplicates), ("level", .str r.level.label),
  ("most_duplicated", Json.ofOption FileDuplication.toJson r.mostDuplicated)]

/-- The report on duplicates, read from a structured value. -/
def DuplicationReport.ofJson? (v : Json) : Option (DuplicationReport Float) := do
  return {
    score := ← v.get? "score" Json.float?
    window := ← v.get? "window" Json.nat?
    lines := ← v.get? "lines" Json.nat?
    duplicatedLines := ← v.get? "duplicated_lines" Json.nat?
    percentage := ← v.get? "percentage" Json.float?
    duplicatedBlocks := ← v.get? "duplicated_blocks" Json.nat?
    filesWithDuplicates := ← v.get? "files_with_duplicates" Json.nat?
    level := ← v.get? "level" DuplicationLevel.ofJson?
    mostDuplicated := ← v.getOption? "most_duplicated" FileDuplication.ofJson? }

/-! ### Dependencies -/

/-- The report on imports as a structured value. -/
def DependencyReport.toJson (r : DependencyReport Float) : Json := .obj [
  ("score", .float r.score), ("nodes", ofNat r.nodes), ("edges", ofNat r.edges),
  ("average_fan_out", .float r.averageFanOut), ("max_fan_out", ofNat r.maxFanOut),
  ("internal_imports", ofNat r.internalImports), ("external_imports", ofNat r.externalImports),
  ("cycles", .arr (r.cycles.map .strings))]

/-- The report on imports, read from a structured value. -/
def DependencyReport.ofJson? (v : Json) : Option (DependencyReport Float) := do
  return {
    score := ← v.get? "score" Json.float?
    nodes := ← v.get? "nodes" Json.nat?
    edges := ← v.get? "edges" Json.nat?
    averageFanOut := ← v.get? "average_fan_out" Json.float?
    maxFanOut := ← v.get? "max_fan_out" Json.nat?
    internalImports := ← v.get? "internal_imports" Json.nat?
    externalImports := ← v.get? "external_imports" Json.nat?
    cycles := ← v.get? "cycles" (Json.list? (Json.list? Json.str?)) }

/-! ### Patterns -/

/-- The report on patterns as a structured value. -/
def PatternReport.toJson (r : PatternReport Float) : Json := .obj [
  ("score", .float r.score), ("design_patterns", Json.ofTable ofNat r.designPatterns),
  ("anti_patterns", Json.ofTable ofNat r.antiPatterns), ("god_classes", .strings r.godClasses),
  ("penalty", .float r.penalty)]

/-- The report on patterns, read from a structured value. -/
def PatternReport.ofJson? (v : Json) : Option (PatternReport Float) := do
  return {
    score := ← v.get? "score" Json.float?
    designPatterns := ← v.get? "design_patterns" (Json.table? Json.nat?)
    antiPatterns := ← v.get? "anti_patterns" (Json.table? Json.nat?)
    godClasses := ← v.get? "god_classes" (Json.list? Json.str?)
    penalty := ← v.get? "penalty" Json.float? }

/-! ### Performance -/

/-- A costly function as a structured value. -/
def Hotspot.toJson (h : Hotspot) : Json := .obj [
  ("path", .str h.path), ("function", .str h.function), ("line", ofNat h.line),
  ("kind", .str h.kind)]

/-- A costly function, read from a structured value. -/
def Hotspot.ofJson? (v : Json) : Option Hotspot := do
  return {
    path := ← v.get? "path" Json.str?
    function := ← v.get? "function" Json.str?
    line := ← v.get? "line" Json.nat?
    kind := ← v.get? "kind" Json.str? }

/-- The report on costly functions as a structured value. -/
def PerformanceReport.toJson (r : PerformanceReport Float) : Json := .obj [
  ("score", .float r.score), ("functions", ofNat r.functions),
  ("flagged_functions", ofNat r.flaggedFunctions), ("density", .float r.density),
  ("issues", Json.ofTable ofNat r.issues), ("hotspots", .arr (r.hotspots.map (·.toJson)))]

/-- The report on costly functions, read from a structured value. -/
def PerformanceReport.ofJson? (v : Json) : Option (PerformanceReport Float) := do
  return {
    score := ← v.get? "score" Json.float?
    functions := ← v.get? "functions" Json.nat?
    flaggedFunctions := ← v.get? "flagged_functions" Json.nat?
    density := ← v.get? "density" Json.float?
    issues := ← v.get? "issues" (Json.table? Json.nat?)
    hotspots := ← v.get? "hotspots" (Json.list? Hotspot.ofJson?) }

/-! ### Comments -/

/-- The report on comments as a structured value. -/
def CommentReport.toJson (r : CommentReport Float) : Json := .obj [
  ("score", .float r.score), ("comment_lines", ofNat r.commentLines),
  ("code_lines", ofNat r.codeLines), ("ratio", .float r.ratio),
  ("markers", Json.ofTable ofNat r.markers),
  ("files_with_markers", Json.ofTable ofNat r.filesWithMarkers)]

/-- The report on comments, read from a structured value. -/
def CommentReport.ofJson? (v : Json) : Option (CommentReport Float) := do
  return {
    score := ← v.get? "score" Json.float?
    commentLines := ← v.get? "comment_lines" Json.nat?
    codeLines := ← v.get? "code_lines" Json.nat?
    ratio := ← v.get? "ratio" Json.float?
    markers := ← v.get? "markers" (Json.table? Json.nat?)
    filesWithMarkers := ← v.get? "files_with_markers" (Json.table? Json.nat?) }

/-! ### All findings -/

namespace AdvancedMetrics

/-- All findings as a structured value. -/
def toJson (m : AdvancedMetrics Float) : Json := .obj [
  ("scores", m.scores.toJson), ("duplication", m.duplication.toJson),
  ("dependencies", m.dependencies.toJson), ("patterns", m.patterns.toJson),
  ("performance", m.performance.toJson), ("comments", m.comments.toJson)]

/-- The findings in a value, with scores that are given. -/
def ofJson? (scores : CategoryScores Float) (v : Json) : Option (AdvancedMetrics Float) := do
  return {
    scores
    duplication := ← v.get? "duplication" DuplicationReport.ofJson?
    dependencies := ← v.get? "dependencies" DependencyReport.ofJson?
    patterns := ← v.get? "patterns" PatternReport.ofJson?
    performance := ← v.get? "performance" PerformanceReport.ofJson?
    comments := ← v.get? "comments" CommentReport.ofJson? }

end AdvancedMetrics

end Affinity
