import Affinity.Category
import Affinity.Scalar

/-!
# Recommendations

Where the candidate falls short of the reference by at least five points there is advice for the
category. The largest gaps come first, those of one size in the order of the categories.
-/

namespace Affinity

variable {K : Type} [Scalar K]

/-- How urgent a recommendation is. -/
inductive Priority where
  | high
  | medium
  | low
  deriving DecidableEq, Repr, Inhabited

namespace Priority

/-- The urgency of a gap. -/
def ofGap (gap : K) : Priority :=
  if (25.0 : K) ≤ gap then high else if (10.0 : K) ≤ gap then medium else low

/-- The name of a priority in reports. -/
def label : Priority → String
  | high => "high"
  | medium => "medium"
  | low => "low"

end Priority

/-- What helps in a category. -/
structure Advice where
  title : String
  description : String
  tips : List String
  deriving DecidableEq, Repr

/-- What helps in each category. -/
def Category.advice : Category → Advice
  | .naming => {
    title := "Adopt the team's naming conventions"
    description :=
      "Identifiers do not follow the casing and length habits of the reference codebase."
    tips := [
      "Use the language's idiomatic casing for functions, types and variables",
      "Prefer descriptive names over abbreviations and one-letter names"] }
  | .documentation => {
    title := "Document public interfaces"
    description :=
      "Fewer public functions, classes and modules carry documentation than in the reference."
    tips := [
      "Add a doc comment or docstring to every public symbol",
      "Start each module with a short summary of its purpose"] }
  | .modularity => {
    title := "Split large files and repeated code"
    description := "Files are larger, more duplicated or more entangled than in the reference."
    tips := [
      "Keep files focused on one responsibility",
      "Extract repeated blocks into shared functions",
      "Break dependency cycles between modules"] }
  | .complexity => {
    title := "Reduce function complexity"
    description := "Functions branch and nest more deeply than the reference team's code."
    tips := [
      "Use early returns to flatten nested conditionals",
      "Extract helper functions from long branches"] }
  | .errorHandling => {
    title := "Handle failures explicitly"
    description := "Calls that can fail are checked or wrapped less often than in the reference."
    tips := [
      "Wrap I/O, parsing and network calls in the language's error handling construct",
      "Validate inputs before using them"] }
  | .testing => {
    title := "Write more tests"
    description := "The test suite is thinner than the reference team's."
    tips := [
      "Add a test file next to each module",
      "Assert on behavior, not only on absence of errors"] }
  | .security => {
    title := "Remove dangerous constructs"
    description :=
      "Dynamic evaluation, unsafe deserialization, string-built queries or hardcoded secrets " ++
        "appear more often."
    tips := [
      "Use parameterized queries",
      "Load secrets from the environment or a secret store",
      "Avoid eval and unsafe deserialization"] }
  | .styleConsistency => {
    title := "Keep formatting consistent"
    description := "Indentation, brace placement or line endings vary more than in the reference."
    tips := [
      "Run the language's standard formatter",
      "Commit an editor configuration with the team's settings"] }
  | .patterns => {
    title := "Avoid structural anti-patterns"
    description := "The code shows more god classes, spaghetti functions or long parameter lists."
    tips := [
      "Split classes with many methods by responsibility",
      "Group related parameters into a type",
      "Replace magic numbers with named constants"] }
  | .performance => {
    title := "Watch for costly loops"
    description :=
      "More functions nest loops deeply, do I/O inside loops or build strings in loops."
    tips := [
      "Batch I/O outside of loops",
      "Collect string parts and join them once"] }
  | .comments => {
    title := "Comment like the team does"
    description := "The ratio of comments to code is outside the range the reference keeps."
    tips := [
      "Explain intent where the code is not self-explanatory",
      "Remove commented-out code and stale notes"] }

/-- Advice for a category in which the candidate falls short. -/
structure Recommendation (K : Type) where
  category : Category
  /-- By how much the candidate falls short. -/
  gap : K
  priority : Priority
  advice : Advice

namespace Recommendation

/-- The smallest gap for which there is advice. -/
def minGap : K := 5.0

/-- The order of gaps: larger ones first, those of one size by category. -/
def before (a b : Category × K) : Bool :=
  b.2 < a.2 || (!(a.2 < b.2) && (compare a.1 b.1).isLE)

/-- The gaps for which there is advice, in order. -/
def rankedGaps (gaps : List (Category × K)) : List (Category × K) :=
  (gaps.filter fun g => minGap ≤ g.2).mergeSort before

/-- Advice for the first gaps, at most `limit` of them. -/
def ofGaps (gaps : List (Category × K)) (limit : Nat) : List (Recommendation K) :=
  ((rankedGaps gaps).take limit).map fun (category, gap) =>
    { category, gap, priority := .ofGap gap, advice := category.advice }

end Recommendation

end Affinity
