import Affinity.Facts
import Affinity.Score.Basic
import Affinity.Settings.Basic

/-!
# The scores of a language

Eight formulas turn the facts about the files of one language into a score. Each comes in two parts:
the value (`namingValue`, …) and the score with the counts behind it (`namingScore`, …).
`LanguageMetrics.ofFacts` gives the scores with the facts that all languages share.
-/

namespace Affinity

open Scalar

variable {K : Type} [Scalar K]

/-- The score where there is no evidence either way. -/
def neutralScore : K := 50.0

/-- The sum of a count over some files. -/
def totalOf (f : FileFacts → Nat) (files : List FileFacts) : Nat := sumOf (files.map f)

/-- One at zero and below, falling towards zero; one half where the excess equals the scale. -/
def inverseDecay (excess scale : K) : K :=
  1.0 / (1.0 + square (greatest excess 0.0 / scale))

/-! ## Naming -/

/-- The share of conventional names, lowered by the share of short ones. -/
def namingValue (files : List FileFacts) : K :=
  let total := totalOf (·.naming.total) files
  if total = 0 then neutralScore
  else
    100.0 * ratio (totalOf (·.naming.conventional) files) total *
      (1.0 - 0.5 * ratio (totalOf (·.naming.short) files) total)

/-- The score for names, with the names that were counted. -/
def namingScore (files : List FileFacts) : CategoryScore K :=
  .withEvidence .naming (namingValue files) [
    ("identifiers", (totalOf (·.naming.total) files : Nat)),
    ("conventional", (totalOf (·.naming.conventional) files : Nat)),
    ("short", (totalOf (·.naming.short) files : Nat))]

/-! ## Documentation -/

/-- Files that open with documentation. -/
def moduleDocCount (files : List FileFacts) : Nat := files.countP (·.docs.moduleDoc)

/-- Mostly the share of documented symbols, and for the rest the share of files that open with
documentation. -/
def documentationValue (files : List FileFacts) : K :=
  let symbols := totalOf (·.docs.publicSymbols) files
  let modules : K := ratio (moduleDocCount files) files.length
  if symbols = 0 then 100.0 * modules
  else 85.0 * ratio (totalOf (·.docs.documentedSymbols) files) symbols + 15.0 * modules

/-- The score for documentation, with the symbols that were counted. -/
def documentationScore (files : List FileFacts) : CategoryScore K :=
  .withEvidence .documentation (documentationValue files) [
    ("public_symbols", (totalOf (·.docs.publicSymbols) files : Nat)),
    ("documented_symbols", (totalOf (·.docs.documentedSymbols) files : Nat)),
    ("module_docs", (moduleDocCount files : Nat))]

/-! ## Modularity -/

/-- Files with more lines than the limit. -/
def monolithicCount (limit : Nat) (files : List FileFacts) : Nat :=
  files.countP fun f => limit < f.lines.total

/-- One as long as the average of a count over the files is comfortable. -/
def comfort (total files : Nat) (comfortable : K) : K :=
  let average : K := (total : K) / (files : K)
  if average ≤ comfortable then 1.0 else comfortable / average

/-- Files that are not too long and hold neither too many functions nor too many classes. -/
def modularityValue (thresholds : Thresholds K) (files : List FileFacts) : K :=
  100.0 *
    (0.4 * (1.0 - ratio (monolithicCount thresholds.monolithicFileLines files) files.length) +
      0.3 * comfort (totalOf (·.lines.total) files) files.length 300.0 +
      0.2 * comfort (totalOf (·.functions.length) files) files.length 20.0 +
      0.1 * comfort (totalOf (·.classes.length) files) files.length 3.0)

/-- The score for modularity, with the averages over the files. -/
def modularityScore (thresholds : Thresholds K) (files : List FileFacts) : CategoryScore K :=
  if files.isEmpty then .zero .modularity
  else
    let count : K := (files.length : Nat)
    .withEvidence .modularity (modularityValue thresholds files) [
      ("files", count),
      ("avg_file_lines", (totalOf (·.lines.total) files : Nat) / count),
      ("functions_per_file", (totalOf (·.functions.length) files : Nat) / count),
      ("monolithic_files", (monolithicCount thresholds.monolithicFileLines files : Nat))]

/-! ## Complexity -/

/-- The mean of a count over some functions. -/
def meanOf (f : FunctionFacts → Nat) (functions : List FunctionFacts) : K :=
  sum (functions.map fun x => ((f x : Nat) : K)) / (functions.length : K)

/-- Paths per function, and nesting beyond two levels, against the threshold. -/
def complexityValue (thresholds : Thresholds K) (functions : List FunctionFacts) : K :=
  if functions.isEmpty then 100.0
  else
    let effective := meanOf (·.complexity) functions +
      2.0 * greatest (meanOf (·.maxNesting) functions - 2.0) 0.0
    100.0 * inverseDecay (effective - 1.0) thresholds.complexityPerFunction

/-- The score for complexity, with the averages over the functions. -/
def complexityScore (thresholds : Thresholds K) (files : List FileFacts) : CategoryScore K :=
  let functions := files.flatMap (·.functions)
  .withEvidence .complexity (complexityValue thresholds functions)
    (if functions.isEmpty then [("functions", 0.0)]
     else [
      ("functions", (functions.length : Nat)),
      ("avg_complexity", meanOf (·.complexity) functions),
      ("avg_nesting", meanOf (·.maxNesting) functions)])

/-! ## Error handling -/

/-- The share of risky constructs that are guarded or checked. -/
def errorHandlingValue (files : List FileFacts) : K :=
  let risk := totalOf (·.errors.risk) files
  let checks := totalOf (·.errors.checks) files
  if risk = 0 then (if checks = 0 then 70.0 else 100.0)
  else 100.0 * least (ratio (totalOf (·.errors.guarded) files + checks) risk) 1.0

/-- The score for error handling, with the constructs that were counted. -/
def errorHandlingScore (files : List FileFacts) : CategoryScore K :=
  .withEvidence .errorHandling (errorHandlingValue files) [
    ("risk_constructs", (totalOf (·.errors.risk) files : Nat)),
    ("guarded", (totalOf (·.errors.guarded) files : Nat)),
    ("checks", (totalOf (·.errors.checks) files : Nat))]

/-! ## Testing -/

/-- Files that are tests. -/
def testFileCount (files : List FileFacts) : Nat := files.countP (·.tests.isTestFile)

/-- The share of test files, against a quarter. -/
def testPresence (files : List FileFacts) : K :=
  least (ratio (testFileCount files) files.length / 0.25) 1.0

/-- Test functions, against half the number of functions outside tests. -/
def testCoverage (files : List FileFacts) : K :=
  let tests := totalOf (·.tests.testFunctions) files
  let functions := totalOf (·.functions.length) (files.filter (!·.tests.isTestFile))
  if tests = 0 then 0.0
  else least ((tests : K) / greatest ((functions : K) * 0.5) 1.0) 1.0

/-- Assertions per test function, against one. -/
def assertionDensity (files : List FileFacts) : K :=
  least (ratio (totalOf (·.tests.assertions) files) (totalOf (·.tests.testFunctions) files)) 1.0

/-- How far there are test files, tests and assertions. -/
def testingValue (files : List FileFacts) : K :=
  100.0 * (0.4 * testPresence files + 0.35 * testCoverage files + 0.25 * assertionDensity files)

/-- The score for testing, with the tests that were counted. -/
def testingScore (files : List FileFacts) : CategoryScore K :=
  .withEvidence .testing (testingValue files) [
    ("test_files", (testFileCount files : Nat)),
    ("test_functions", (totalOf (·.tests.testFunctions) files : Nat)),
    ("assertions", (totalOf (·.tests.assertions) files : Nat))]

/-! ## Security -/

/-- Dangerous constructs of all files, by kind. -/
def dangersByKind (files : List FileFacts) : Table String Nat :=
  files.foldl (fun table f => table.addAll f.security) {}

/-- Falls with the number of dangerous constructs per file. -/
def securityValue (files : List FileFacts) : K :=
  if files.isEmpty then 0.0
  else 100.0 / (1.0 + 2.0 * ratio (dangersByKind files).total files.length)

/-- The score for security, with the dangerous constructs by kind. -/
def securityScore (files : List FileFacts) : CategoryScore K :=
  let kinds := dangersByKind files
  .withEvidence .security (securityValue files)
    (("dangerous_constructs", (kinds.total : Nat)) ::
      kinds.entries.map fun (kind, n) => (kind, (n : Nat)))

/-! ## Consistency of style -/

/-- The share of the more frequent of two habits; one if there is neither. -/
def habitShare (a b : Nat) : K :=
  if a + b = 0 then 1.0 else (max a b : Nat) / (a + b : Nat)

/-- How little the steps of indentation differ between files. -/
def indentConsistency (files : List FileFacts) : K :=
  let units : List K := (files.filterMap (·.style.indentUnit)).map fun n => (n : K)
  if units.isEmpty then 1.0
  else
    let count : K := (units.length : Nat)
    let mean := sum units / count
    let variance := sum (units.map fun u => square (u - mean)) / count
    1.0 / (1.0 + variance / 4.0)

/-- How far lines are indented by tabs only, or by spaces only. -/
def whitespaceConsistency (files : List FileFacts) : K :=
  habitShare (totalOf (·.style.tabLines) files) (totalOf (·.style.spaceLines) files)

/-- How far opening braces stand at the end of a line only, or on one of their own only. -/
def braceConsistency (files : List FileFacts) : K :=
  habitShare (totalOf (·.style.braceSameLine) files) (totalOf (·.style.braceNextLine) files)

/-- How far all files have the same kind of line breaks. -/
def lineEndingConsistency (files : List FileFacts) : K :=
  habitShare (files.countP (·.style.crlf)) (files.countP (!·.style.crlf))

/-- The share of lines that do not end in a blank. -/
def cleanShare (files : List FileFacts) : K :=
  1.0 - least (ratio (totalOf (·.style.trailingWhitespace) files)
    (max (totalOf (·.lines.code) files) 1)) 1.0

/-- The five habits of layout, weighted. -/
def styleConsistencyValue (files : List FileFacts) : K :=
  100.0 *
    (0.35 * indentConsistency files + 0.2 * whitespaceConsistency files +
      0.25 * braceConsistency files + 0.1 * lineEndingConsistency files + 0.1 * cleanShare files)

/-- The score for consistency of style, with the habits that it is made of. -/
def styleConsistencyScore (files : List FileFacts) : CategoryScore K :=
  if files.isEmpty then .zero .styleConsistency
  else
    .withEvidence .styleConsistency (styleConsistencyValue files) [
      ("indent_consistency", indentConsistency files),
      ("whitespace_consistency", whitespaceConsistency files),
      ("brace_consistency", braceConsistency files),
      ("line_ending_consistency", lineEndingConsistency files)]

/-!
## Metrics of a language

In TypeScript explicit types count as documentation and as a safeguard; markup has no tests, so
testing is scored neutral there.
-/

/-- The scores of one language of a repository. -/
structure LanguageMetrics (K : Type) where
  language : Language
  fileCount : Nat := 0
  lineCount : Nat := 0
  scores : CategoryScores K := {}

/-- The share of places with an annotation, at most one. -/
def TypeFacts.coverage (types : TypeFacts) : K :=
  if types.annotatable = 0 then 0.0
  else least ((types.annotated : K) / (types.annotatable : K)) 1.0

/-- The share of annotated places over some files. -/
def typeCoverage (files : List FileFacts) : K :=
  let types := files.filterMap (·.types)
  TypeFacts.coverage ⟨sumOf (types.map (·.annotatable)), sumOf (types.map (·.annotated))⟩

/-- Documentation where types are part of it. -/
def typedDocumentationScore (files : List FileFacts) : CategoryScore K :=
  let base := (documentationScore files : CategoryScore K).value
  let coverage : K := typeCoverage files
  .withEvidence .documentation (base + if 0.7 < coverage then 20.0 else 0.0) [
    ("type_coverage", coverage), ("base", base)]

/-- Security where types are a safeguard. -/
def typedSecurityScore (files : List FileFacts) : CategoryScore K :=
  let base : CategoryScore K := securityScore files
  let coverage : K := typeCoverage files
  let score := CategoryScore.withEvidence .security (base.value + coverage * 20.0) [
    ("type_coverage", coverage)]
  { score with evidence := score.evidence.extend base.evidence }

namespace LanguageMetrics

/-- The score of a base category for the files of a language. -/
def score (language : Language) (thresholds : Thresholds K) (files : List FileFacts) :
    Category → CategoryScore K
  | .naming => namingScore files
  | .documentation =>
    if language = .typescript then typedDocumentationScore files else documentationScore files
  | .modularity => modularityScore thresholds files
  | .complexity => complexityScore thresholds files
  | .errorHandling => errorHandlingScore files
  | .testing => if language.isMarkup then .of .testing neutralScore else testingScore files
  | .security =>
    if language = .typescript then typedSecurityScore files else securityScore files
  | .styleConsistency => styleConsistencyScore files
  | category => .zero category

/-- The metrics of the files of a language. -/
def ofFacts (language : Language) (thresholds : Thresholds K) (files : List FileFacts) :
    LanguageMetrics K where
  language := language
  fileCount := files.length
  lineCount := totalOf (·.lines.total) files
  scores := .ofList (Category.base.map (score language thresholds files))

end LanguageMetrics

end Affinity
