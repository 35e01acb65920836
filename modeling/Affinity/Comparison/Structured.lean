import Affinity.Comparison.Basic
import Affinity.Finding.Structured
import Affinity.Profile.Basic
import Affinity.Settings.Structured

/-!
# Profiles and comparisons as structured values

`Profile.toJson` and `Comparison.toJson` write everything that a profile and a comparison hold;
`Coverage.ofJson?` reads what became of the files of a repository.
-/

namespace Affinity

/-! ## Profiles as structured values -/

open Json (ofNat)

/-- An object of entries with languages as names. -/
def Json.ofLanguages {α : Type} (write : α → Json) (t : Table Language α) : Json :=
  .obj (t.entries.map fun (l, value) => (l.key, write value))

/-- The entries of an object with languages as names. -/
def Json.languages? {α : Type} (read : Json → Option α) : Json → Option (Table Language α)
  | .obj fields =>
    (fields.mapM fun (name, value) => do
      return (← Language.ofKey? name, ← read value)).map Table.ofList
  | _ => none

/-- A warning as a structured value. -/
def FileWarning.toJson (w : FileWarning) : Json :=
  .obj [("path", .str w.path), ("reason", .str w.reason)]

/-- A warning, read from a structured value. -/
def FileWarning.ofJson? (v : Json) : Option FileWarning := do
  return ⟨← v.get? "path" Json.str?, ← v.get? "reason" Json.str?⟩

/-- What became of the files of a repository as a structured value. -/
def Coverage.toJson (c : Coverage) : Json := .obj [
  ("files_seen", ofNat c.filesSeen), ("files_analyzed", ofNat c.filesAnalyzed),
  ("excluded", ofNat c.excluded), ("unsupported", ofNat c.unsupported),
  ("unsupported_extensions", Json.ofTable ofNat c.unsupportedExtensions),
  ("truncated", Json.ofLanguages ofNat c.truncated), ("timed_out", ofNat c.timedOut),
  ("fallbacks", ofNat c.fallbacks), ("warnings", .arr (c.warnings.map (·.toJson)))]

/-- What became of the files of a repository, read from a structured value. -/
def Coverage.ofJson? (v : Json) : Option Coverage := do
  return {
    filesSeen := ← v.get? "files_seen" Json.nat?
    filesAnalyzed := ← v.get? "files_analyzed" Json.nat?
    excluded := ← v.get? "excluded" Json.nat?
    unsupported := ← v.get? "unsupported" Json.nat?
    unsupportedExtensions := ← v.get? "unsupported_extensions" (Json.table? Json.nat?)
    truncated := ← v.get? "truncated" (Json.languages? Json.nat?)
    timedOut := ← v.get? "timed_out" Json.nat?
    fallbacks := ← v.get? "fallbacks" Json.nat?
    warnings := ← v.get? "warnings" (Json.list? FileWarning.ofJson?) }

/-- The share of a language as a structured value. -/
def LanguageShare.toJson (s : LanguageShare Float) : Json := .obj [
  ("files", ofNat s.files), ("lines", ofNat s.lines), ("share", .float s.share)]

/-- A profile as a structured value. -/
def Profile.toJson (p : Profile Float) : Json := .obj [
  ("name", .str p.name), ("scores", p.scores.toJson), ("weights", p.weights.toJson),
  ("languages", Json.ofLanguages LanguageShare.toJson p.languages),
  ("language_metrics", .arr (p.languageMetrics.map (·.toJson))),
  ("advanced", p.advanced.toJson), ("coverage", p.coverage.toJson)]

/-! ## Comparisons as structured values -/

/-- Names of languages. -/
def Json.languageKeys (languages : List Language) : Json := .strings (languages.map (·.key))

/-- Names of categories. -/
def Json.categoryKeys (categories : List Category) : Json := .strings (categories.map (·.key))

/-- The overlap of the languages as a structured value. -/
def LanguageOverlap.toJson (o : LanguageOverlap Float) : Json := .obj [
  ("factor", .float o.factor), ("shared", .languageKeys o.shared),
  ("missing", .languageKeys o.missing), ("extra", .languageKeys o.extra)]

/-- The six factors as a structured value. -/
def Factors.toJson (f : Factors Float) : Json := .obj [
  ("complexity", .float f.complexity), ("consistency", .float f.consistency),
  ("excellence", .float f.excellence), ("anti_patterns", .float f.antiPatterns),
  ("patterns", .float f.patterns), ("balance", .float f.balance)]

/-- The comparison in one category as a structured value. -/
def CategoryComparison.toJson (c : CategoryComparison Float) : Json := .obj [
  ("category", .str c.category.key), ("reference", .float c.reference),
  ("candidate", .float c.candidate), ("delta", .float c.delta),
  ("similarity", .float c.similarity), ("correlation", .float c.correlation),
  ("weight", .float c.weight)]

/-- A recommendation as a structured value. -/
def Recommendation.toJson (r : Recommendation Float) : Json := .obj [
  ("category", .str r.category.key), ("gap", .float r.gap),
  ("priority", .str r.priority.label), ("title", .str r.advice.title),
  ("description", .str r.advice.description), ("tips", .strings r.advice.tips)]

/-- A comparison as a structured value. -/
def Comparison.toJson (c : Comparison Float) : Json := .obj [
  ("score", .float c.score), ("level", .str c.level.label),
  ("description", .str c.level.description), ("verdict", .str c.level.verdict),
  ("base_score", .float c.baseScore), ("language_overlap", c.languageOverlap.toJson),
  ("factors", c.factors.toJson), ("categories", .arr (c.categories.map (·.toJson))),
  ("strengths", .categoryKeys c.strengths), ("weaknesses", .categoryKeys c.weaknesses),
  ("recommendations", .arr (c.recommendations.map (·.toJson)))]

end Affinity
