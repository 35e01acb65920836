import Affinity.Comparison.Basic
import Affinity.Comparison.Structured
import Affinity.Decimal

/-!
# Reports

Profiles, comparisons and the table of languages in each of the formats. The structured format holds
everything, the other two are summaries for people.

* `Plain` — reports for a terminal, with colours if wanted.
* `Markdown` — reports with headings and tables.
* `Report.profile`, `Report.comparison`, `Report.languages` — the reports in any format.
-/

namespace Affinity

/-! ## Phrases shared by the reports for people -/

/-- A difference with its sign. -/
def signed (delta : Float) : String :=
  if 0 < delta then "+" ++ fixed 1 delta else fixed 1 delta

/-- A count without a point, any other number with two places. -/
def compact (x : Float) : String :=
  if x.isFinite && x.floor == x then toString x.toInt64.toInt else fixed 2 x

/-- Names one after the other; a hyphen if there are none. -/
def nameList (names : List String) : String :=
  if names.isEmpty then "-" else String.intercalate ", " names

/-- The names of some languages. -/
def languageList (languages : List Language) : String := nameList (languages.map (·.displayName))

/-- The names of some categories. -/
def categoryList (categories : List Category) : String :=
  nameList (categories.map (·.displayName))

/-- The extensions of a language, each after a dot. -/
def dottedExtensions (language : Language) : String :=
  String.intercalate " " (language.extensions.map ("." ++ ·))

/-- What became of the files, in one line. -/
def Coverage.phrase (c : Coverage) : String :=
  s!"{c.filesAnalyzed} analyzed, {c.unsupported} unsupported, {c.excluded} excluded, " ++
    s!"{c.skipped} skipped" ++
    (if 0 < c.fallbacks then s!", {c.fallbacks} parsed by pattern fallback" else "") ++
    (if c.isPartial then s!" (partial: {c.timedOut} files timed out)" else "")

/-- Lines, each with a line break. -/
def unlines (lines : List String) : String := String.join (lines.map (· ++ "\n"))

/-!
## Colours and columns

Text for a terminal is painted by codes that stand before it and taken back by one that stands after
it. Columns are padded with spaces.
-/

/-- A colour or style of text. -/
inductive Ink where
  | bold
  | italic
  | red
  | green
  | yellow
  | cyan
  | brightRed
  | brightGreen
  deriving DecidableEq, Repr

/-- The code of a colour or style. -/
def Ink.code : Ink → Nat
  | bold => 1
  | italic => 3
  | red => 31
  | green => 32
  | yellow => 33
  | cyan => 36
  | brightRed => 91
  | brightGreen => 92

/-- A text in some colours and styles; without any, or if there is no colour, the text itself. -/
def paint (color : Bool) (inks : List Ink) (text : String) : String :=
  if !color || inks.isEmpty then text
  else
    "\x1b[" ++ String.intercalate ";" (inks.map fun ink => toString ink.code) ++ "m" ++ text ++
      "\x1b[0m"

/-- The text at the left of a column. -/
def padRight (width : Nat) (text : String) : String := text.pushn ' ' (width - text.length)

/-- The text at the right of a column. -/
def padLeft (width : Nat) (text : String) : String :=
  "".pushn ' ' (width - text.length) ++ text

end Affinity

namespace Affinity.Plain

/-!
## Reports for a terminal

The first argument of each report says whether there is colour.
-/

/-- The colour of a band. -/
def levelInk : Level → Ink
  | .excellent => .green
  | .good => .brightGreen
  | .acceptable => .yellow
  | .fair => .brightRed
  | .poor => .red

/-- A score in the colour of how good it is. -/
def score (color : Bool) (x : Float) : String :=
  paint color [if 80.0 ≤ x then .green else if 60.0 ≤ x then .yellow else .red]
    (padLeft 5 (fixed 1 x))

/-- A difference, in colour if it is at least five points. -/
def delta (color : Bool) (x : Float) : String :=
  paint color (if 5.0 ≤ x then [.red] else if x ≤ -5.0 then [.cyan] else [])
    (padLeft 6 (signed x))

/-- The score and its band. -/
def headline (color : Bool) (c : Comparison Float) : List String :=
  [s!"Empathy: {paint color [.bold] (fixed 1 c.score)} / 100  " ++
      paint color [.bold, levelInk c.level] c.level.label,
    c.level.description,
    paint color [.italic] c.level.verdict]

/-- The line about a category. -/
def categoryLine (color : Bool) (c : CategoryComparison Float) : String :=
  "  " ++ padRight 20 c.category.displayName ++ " " ++ padLeft 5 (fixed 1 c.reference) ++ " " ++
    score color c.candidate ++ " " ++ delta color c.delta

/-- A recommendation with its number. -/
def recommendation (number : Nat) (r : Recommendation Float) : List String :=
  s!"  {number}. {r.advice.title} [{r.priority.label}, gap {fixed 1 r.gap}]" ::
    r.advice.tips.map ("     - " ++ ·)

/-- All recommendations, numbered. -/
def recommendations (color : Bool) (items : List (Recommendation Float)) : List String :=
  if items.isEmpty then []
  else
    ["", paint color [.bold] "Recommendations"] ++
      items.zipIdx.flatMap fun (r, i) => recommendation (i + 1) r

/-- The report on a comparison. -/
def comparison (color : Bool) (reference candidate : Profile Float) (c : Comparison Float) :
    String :=
  unlines (
    [paint color [.bold] "Reference:" ++ " " ++ reference.name,
      paint color [.bold] "Candidate:" ++ " " ++ candidate.name,
      ""] ++
    headline color c ++
    ["",
      "  " ++ padRight 20 "Category" ++ " " ++ padLeft 5 "Ref" ++ " " ++ padLeft 5 "Cand" ++ " " ++
        padLeft 6 "Delta"] ++
    c.categories.map (categoryLine color) ++
    ["",
      s!"Language match: {fixed 0 c.languageOverlap.percentage}% " ++
        s!"(shared: {languageList c.languageOverlap.shared}; " ++
        s!"missing: {languageList c.languageOverlap.missing})",
      s!"Base {fixed 1 c.baseScore} x language {fixed 2 c.languageOverlap.factor} " ++
        s!"x factors {fixed 3 c.factors.product}",
      s!"Strengths:  {categoryList c.strengths}",
      s!"Weaknesses: {categoryList c.weaknesses}"] ++
    recommendations color c.recommendations ++
    ["",
      s!"Reference coverage: {reference.coverage.phrase}",
      s!"Candidate coverage: {candidate.coverage.phrase}"])

/-- The report on a profile. -/
def profile (color : Bool) (p : Profile Float) : String :=
  unlines (
    [paint color [.bold] "Profile:" ++ " " ++ p.name,
      s!"Overall: {fixed 1 p.overall} / 100",
      ""] ++
    p.scores.toList.map (fun s =>
      "  " ++ padRight 20 s.category.displayName ++ " " ++ score color s.value) ++
    [""] ++
    p.languages.entries.map (fun (l, s) =>
      "  " ++ padRight 12 l.displayName ++ " " ++ padLeft 5 (toString s.files) ++ " files " ++
        padLeft 7 (toString s.lines) ++ " lines " ++
        padLeft 5 (fixed 1 (s.share * 100.0)) ++ "%") ++
    ["", s!"Coverage: {p.coverage.phrase}"])

/-- The table of languages. -/
def languages : String :=
  unlines (Language.all.map fun l => padRight 12 l.displayName ++ " " ++ dottedExtensions l)

end Affinity.Plain

namespace Affinity.Markdown

/-! ## Reports with headings and tables -/

/-- A row of a table. -/
def row (cells : List String) : String :=
  "|" ++ String.join (cells.map fun cell => " " ++ cell ++ " |")

/-- A table with an empty line after it. -/
def table (headers : List String) (rows : List (List String)) : List String :=
  row headers :: row (headers.map fun _ => "---") :: rows.map row ++ [""]

/-- A line with an empty one after it. -/
def paragraph (line : String) : List String := [line, ""]

/-- The base score and what it is multiplied by. -/
def factorRows (c : Comparison Float) : List (List String) :=
  let f := c.factors
  [["Weighted base", fixed 2 c.baseScore],
    ["Language match", fixed 3 c.languageOverlap.factor],
    ["Complexity", fixed 3 f.complexity],
    ["Consistency", fixed 3 f.consistency],
    ["Excellence", fixed 3 f.excellence],
    ["Anti-patterns", fixed 3 f.antiPatterns],
    ["Design patterns", fixed 3 f.patterns],
    ["Balance", fixed 3 f.balance]]

/-- A recommendation under its own heading. -/
def recommendation (r : Recommendation Float) : List String :=
  paragraph s!"### {r.advice.title} ({r.priority.label} priority, gap {fixed 1 r.gap})" ++
    paragraph r.advice.description ++ r.advice.tips.map ("- " ++ ·) ++ [""]

/-- The report on a comparison. -/
def comparison (reference candidate : Profile Float) (c : Comparison Float) : String :=
  unlines (
    paragraph "# Code Empathy Report" ++
    paragraph s!"**Reference**: {reference.name}" ++
    paragraph s!"**Candidate**: {candidate.name}" ++
    paragraph
      s!"**Empathy score**: {fixed 1 c.score} / 100 ({c.level.label}, {c.level.range})" ++
    paragraph c.level.description ++
    paragraph ("> " ++ c.level.verdict) ++
    paragraph "## Categories" ++
    table ["Category", "Reference", "Candidate", "Delta", "Similarity", "Weight"]
      (c.categories.map fun x => [x.category.displayName, fixed 1 x.reference,
        fixed 1 x.candidate, signed x.delta, fixed 1 x.similarity, fixed 2 x.weight]) ++
    paragraph "## Factors" ++
    table ["Factor", "Value"] (factorRows c) ++
    paragraph "## Languages" ++
    [s!"- Shared: {languageList c.languageOverlap.shared}",
      s!"- Missing from candidate: {languageList c.languageOverlap.missing}"] ++
    paragraph s!"- Candidate only: {languageList c.languageOverlap.extra}" ++
    paragraph "## Strengths and weaknesses" ++
    [s!"- Strengths: {categoryList c.strengths}"] ++
    paragraph s!"- Weaknesses: {categoryList c.weaknesses}" ++
    paragraph "## Recommendations" ++
    (if c.recommendations.isEmpty then paragraph "_No items_" else []) ++
    c.recommendations.flatMap recommendation ++
    paragraph "## Coverage" ++
    [s!"- Reference: {reference.coverage.phrase}",
      s!"- Candidate: {candidate.coverage.phrase}"])

/-- The evidence of a score on one line. -/
def evidence (score : CategoryScore Float) : String :=
  String.intercalate ", " (score.evidence.entries.map fun (key, x) => key ++ "=" ++ compact x)

/-- What was found in the repository as a whole. -/
def findings (a : AdvancedMetrics Float) : List String :=
  [s!"- Duplication: {fixed 1 a.duplication.percentage}% ({a.duplication.level.description})",
    s!"- Dependencies: {a.dependencies.nodes} modules, {a.dependencies.edges} edges, " ++
      s!"{a.dependencies.cycles.length} cycles",
    s!"- Anti-patterns: {a.patterns.antiPatternCount}, " ++
      s!"design patterns: {a.patterns.designPatterns.size}",
    s!"- Performance issues: {a.performance.flaggedFunctions} in " ++
      s!"{a.performance.functions} functions"] ++
    paragraph (s!"- Comment ratio: {fixed 1 a.comments.percentage}%, " ++
      s!"markers: {a.comments.markerCount}")

/-- The report on a profile. -/
def profile (p : Profile Float) : String :=
  unlines (
    paragraph s!"# Profile: {p.name}" ++
    paragraph s!"**Overall**: {fixed 1 p.overall} / 100" ++
    paragraph "## Categories" ++
    table ["Category", "Score", "Evidence"]
      (p.scores.toList.map fun s => [s.category.displayName, fixed 1 s.value, evidence s]) ++
    paragraph "## Languages" ++
    table ["Language", "Files", "Lines", "Share"]
      (p.languages.entries.map fun (l, s) => [l.displayName, toString s.files, toString s.lines,
        fixed 1 (s.share * 100.0) ++ "%"]) ++
    paragraph "## Repository analysis" ++
    findings p.advanced ++
    paragraph "## Coverage" ++
    [p.coverage.phrase])

/-- The table of languages. -/
def languages : String :=
  unlines (table ["Language", "Key", "Extensions"]
    (Language.all.map fun l => [l.displayName, l.key, dottedExtensions l]))

end Affinity.Markdown

namespace Affinity.Report

/-! ## All formats -/

/-- A structured value as a report. -/
def structured (value : Json) : String := value.renderIndented ++ "\n"

/-- The report on a comparison. -/
def comparison (format : Format) (color : Bool) (reference candidate : Profile Float)
    (result : Comparison Float) : String :=
  match format with
  | .json =>
    structured (.obj [("reference", reference.toJson), ("candidate", candidate.toJson),
      ("result", result.toJson)])
  | .markdown => Markdown.comparison reference candidate result
  | .text => Plain.comparison color reference candidate result

/-- The report on a profile. -/
def profile (format : Format) (color : Bool) (p : Profile Float) : String :=
  match format with
  | .json => structured p.toJson
  | .markdown => Markdown.profile p
  | .text => Plain.profile color p

/-- The languages with their keys and extensions. -/
def languages (format : Format) : String :=
  match format with
  | .json =>
    structured (.arr (Language.all.map fun l => .obj [("language", .str l.displayName),
      ("key", .str l.key), ("extensions", .strings l.extensions)]))
  | .markdown => Markdown.languages
  | .text => Plain.languages

end Affinity.Report
