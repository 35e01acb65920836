import Affinity.Comparison.Factors
import Affinity.Comparison.Recommendation
import Affinity.Error
import Affinity.Scalar

/-!
# Comparisons

How close a candidate repository is to a reference. Each category contributes its similarity, with
its bonus and its weight; what the categories lack is taken from a hundred. The result is multiplied
by the overlap of the languages and by the six factors, and falls into one of five bands.

* `Level` — the bands.
* `Comparison.ofProfiles` — the comparison of two profiles.
-/

namespace Affinity

/-! ## Levels -/

/-- A band of scores, the best one first. -/
inductive Level where
  | excellent
  | good
  | acceptable
  | fair
  | poor
  deriving DecidableEq, Repr, Inhabited

namespace Level

/-- The bands, the closest first. -/
def all : List Level := [excellent, good, acceptable, fair, poor]

/-- The band of a score. -/
def ofScore {K : Type} [Scalar K] (score : K) : Level :=
  if (90.0 : K) ≤ score then excellent
  else if (75.0 : K) ≤ score then good
  else if (60.0 : K) ≤ score then acceptable
  else if (45.0 : K) ≤ score then fair
  else poor

/-- The name of a band in reports. -/
def label : Level → String
  | excellent => "Excelente"
  | good => "Bueno"
  | acceptable => "Aceptable"
  | fair => "Regular"
  | poor => "Deficiente"

/-- The scores of the band as reports show them. -/
def range : Level → String
  | excellent => "90-100"
  | good => "75-89"
  | acceptable => "60-74"
  | fair => "45-59"
  | poor => "0-44"

/-- What a band says about the candidate. -/
def description : Level → String
  | excellent => "The candidate writes code almost exactly the way the reference team does."
  | good => "The candidate's style is closely aligned, with a few visible differences."
  | acceptable => "The candidate shares the fundamentals but diverges in several areas."
  | fair => "The candidate's habits differ noticeably from the reference codebase."
  | poor => "The candidate's code has little in common with the reference style."

/-- What the level means for working together. -/
def verdict : Level → String
  | excellent => "Strong fit: can contribute to the codebase immediately."
  | good => "Good fit: a short onboarding on team conventions is enough."
  | acceptable => "Possible fit: plan mentoring on the weaker categories."
  | fair => "Weak fit: significant adaptation would be required."
  | poor => "Poor fit: style and practices differ at a fundamental level."

end Level

/-! ## Comparisons -/

open Scalar

variable {K : Type} [Scalar K]

/-- One category of a comparison. -/
structure CategoryComparison (K : Type) where
  category : Category
  reference : K
  candidate : K
  /-- How much the candidate falls short of the reference. -/
  delta : K
  /-- The similarity with its bonus, at most a hundred. -/
  similarity : K
  correlation : K
  weight : K

namespace CategoryComparison

/-- The comparison of two scores. -/
def ofScores (category : Category) (weight reference candidate : K) : CategoryComparison K where
  category := category
  reference := reference
  candidate := candidate
  delta := reference - candidate
  similarity :=
    least (Affinity.similarity reference candidate * Affinity.correlation reference candidate) 100.0
  correlation := Affinity.correlation reference candidate
  weight := weight

/-- The part of the base that the category contributes. -/
def contribution (c : CategoryComparison K) : K := c.similarity * c.weight

/-- What the category lacks of its weight. -/
def shortfall (c : CategoryComparison K) : K := (100.0 - c.similarity) * c.weight

end CategoryComparison

/-- The result of comparing two profiles. -/
structure Comparison (K : Type) where
  score : K
  level : Level
  /-- The score before the overlap and the factors. -/
  baseScore : K
  languageOverlap : LanguageOverlap K
  factors : Factors K
  /-- All categories in order. -/
  categories : List (CategoryComparison K)
  /-- Categories in which the candidate has at least 80. -/
  strengths : List Category
  /-- Categories in which the candidate has less than 60. -/
  weaknesses : List Category
  recommendations : List (Recommendation K)

namespace Comparison

/-- By how much the candidate falls short in a category. -/
def delta (comparison : Comparison K) (category : Category) : K :=
  match comparison.categories.find? fun c => c.category == category with
  | some c => c.delta
  | none => 0.0

/-- The categories of two profiles. -/
def categoriesOf (weights : Weights K) (reference candidate : Profile K) :
    List (CategoryComparison K) :=
  Category.all.map fun c =>
    .ofScores c (weights.of c) (reference.scores.value c) (candidate.scores.value c)

/-- A hundred less what the categories lack. -/
def baseOf (categories : List (CategoryComparison K)) : K :=
  clampScore (100.0 - sum (categories.map (·.shortfall)))

/-- The comparison of two profiles. -/
def compute (settings : Settings K) (reference candidate : Profile K) : Comparison K :=
  let categories := categoriesOf settings.weights reference candidate
  let base := baseOf categories
  let overlap := LanguageOverlap.ofProfiles settings.importanceOf reference candidate
  let factors := Factors.ofProfiles reference candidate
  let score := clampScore (base * overlap.factor * factors.product)
  { score
    level := .ofScore score
    baseScore := base
    languageOverlap := overlap
    factors
    categories
    strengths := (categories.filter fun c => (80.0 : K) ≤ c.candidate).map (·.category)
    weaknesses := (categories.filter fun c => c.candidate < (60.0 : K)).map (·.category)
    recommendations := Recommendation.ofGaps (categories.map fun c => (c.category, c.delta))
      settings.thresholds.maxRecommendations }

/-- The comparison of two profiles; there is none if nothing was analyzed on either side. -/
def ofProfiles (settings : Settings K) (reference candidate : Profile K) :
    Except Error (Comparison K) :=
  if reference.isEmpty && candidate.isEmpty then .error .noAnalyzableInput
  else .ok (compute settings reference candidate)

end Comparison

end Affinity
