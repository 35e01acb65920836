import Affinity.Finding.Advanced
import Affinity.Score.Formula
import Affinity.Source.FileSet

/-!
# Profiles

A profile holds the eleven scores of a repository with everything they were computed from. The base
categories are averaged over the languages by their share of the files; the modularity that comes of
this is mixed with the scores of duplication and dependencies.

* `Profile.ofMetrics` — the profile of the metrics of the languages and the findings.
-/

namespace Affinity

open Scalar

variable {K : Type} [Scalar K]

/-- How much of a repository is written in a language. -/
structure LanguageShare (K : Type) where
  files : Nat
  lines : Nat
  /-- The fraction of the files. -/
  share : K

/-- The scores of a repository. -/
structure Profile (K : Type) where
  name : String
  scores : CategoryScores K
  weights : Weights K
  languages : Table Language (LanguageShare K)
  /-- The metrics of each language, in the order of the languages. -/
  languageMetrics : List (LanguageMetrics K)
  advanced : AdvancedMetrics K
  coverage : Coverage

namespace Profile

/-- The profile of a repository in which nothing was analyzed. -/
def empty (name : String) (weights : Weights K) (coverage : Coverage) : Profile K where
  name := name
  scores := .zeros Category.all
  weights := weights
  languages := {}
  languageMetrics := []
  advanced := .empty
  coverage := coverage

/-- Nothing was analyzed. -/
def isEmpty (profile : Profile K) : Bool := profile.languages.isEmpty

/-- The number of files of all languages. -/
def totalFiles (profile : Profile K) : Nat := sumOf (profile.languages.values.map (·.files))

/-- The number of lines of all languages. -/
def totalLines (profile : Profile K) : Nat := sumOf (profile.languages.values.map (·.lines))

/-- The language with the most files, the first of several. -/
def primaryLanguage? (profile : Profile K) : Option Language :=
  Table.greatest? (⟨profile.languages.entries.map fun (l, s) => (l, s.files)⟩ : Table Language Nat)

/-- The weighted sum of the scores. -/
def overall (profile : Profile K) : K :=
  sum (Category.all.map fun c => profile.scores.value c * profile.weights.of c)

/-- The fraction of the files in a language. -/
def share (profile : Profile K) (language : Language) : K :=
  match profile.languages.get? language with
  | some s => s.share
  | none => 0.0

/-! ## From metrics to profiles -/

/-- The metrics of the languages with files, in the order of the languages. -/
def ranked (metrics : List (LanguageMetrics K)) : List (LanguageMetrics K) :=
  (metrics.filter fun m => 0 < m.fileCount).mergeSort fun a b =>
    (compare a.language b.language).isLE

/-- The shares of the languages. -/
def sharesOf (metrics : List (LanguageMetrics K)) : Table Language (LanguageShare K) :=
  let total : Nat := sumOf (metrics.map (·.fileCount))
  .ofList (metrics.map fun m => (m.language,
    { files := m.fileCount
      lines := m.lineCount
      share := ((m.fileCount : Nat) : K) / ((total : Nat) : K) }))

/-- The evidence of a category, by language if there are several. -/
def mergedEvidence (category : Category) (metrics : List (LanguageMetrics K)) :
    List (String × K) :=
  metrics.flatMap fun m =>
    match m.scores.get? category with
    | none => []
    | some score => score.evidence.entries.map fun (key, value) =>
      (if 1 < metrics.length then m.language.key ++ "." ++ key else key, value)

/-- The mean of a base category over the languages, weighted by their shares. -/
def mergedValue (category : Category) (metrics : List (LanguageMetrics K)) : K :=
  let shares := sharesOf metrics
  sum (metrics.map fun m => m.scores.value category *
    (match shares.get? m.language with
     | some s => s.share
     | none => 0.0))

/-- The score of a category over all languages, with its evidence. -/
def mergedScore (category : Category) (metrics : List (LanguageMetrics K)) : CategoryScore K :=
  .withEvidence category (mergedValue category metrics) (mergedEvidence category metrics)

/-- Modularity: mostly that of the languages, and for the rest duplication and dependencies. -/
def blendedModularity (base : CategoryScore K) (advanced : AdvancedMetrics K) : CategoryScore K :=
  .withEvidence .modularity
    (0.7 * base.value + 0.15 * advanced.duplication.score + 0.15 * advanced.dependencies.score)
    ([("structure_score", base.value),
      ("duplication_score", advanced.duplication.score),
      ("duplication_percentage", advanced.duplication.percentage),
      ("dependency_score", advanced.dependencies.score),
      ("dependency_cycles", (advanced.dependencies.cycles.length : Nat))] ++
      base.evidence.entries)

/-- The score of a category of a repository. -/
def scoreOf (metrics : List (LanguageMetrics K)) (advanced : AdvancedMetrics K)
    (category : Category) : CategoryScore K :=
  if category = .modularity then blendedModularity (mergedScore .modularity metrics) advanced
  else if category.isBase then mergedScore category metrics
  else (advanced.scores.get? category).getD (.zero category)

/-- The profile of the metrics of the languages and the findings. -/
def ofMetrics (name : String) (metrics : List (LanguageMetrics K)) (advanced : AdvancedMetrics K)
    (coverage : Coverage) (weights : Weights K) : Profile K :=
  let metrics := ranked metrics
  if metrics.isEmpty then empty name weights coverage
  else
    { name
      scores := .ofList (Category.all.map (scoreOf metrics advanced))
      weights
      languages := sharesOf metrics
      languageMetrics := metrics
      advanced
      coverage }

end Profile

end Affinity
