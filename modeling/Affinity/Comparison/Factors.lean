import Affinity.Profile.Basic

/-!
# Similarity, overlap and factors

Two scores of a category are compared by their distance, with a bonus where both sides are strong or
both are weak. Languages are compared by their shares of the files. Six factors near one adjust the
result; those that are penalties never exceed one, those that are bonuses never fall below it.
-/

namespace Affinity

open Scalar

variable {K : Type} [Scalar K]

/-! ## Categories -/

/-- The bonus for two scores: both high, or both low and close to each other. -/
def correlation (reference candidate : K) : K :=
  let low := least reference candidate
  let high := greatest reference candidate
  if 85.0 ≤ low then 1.05
  else if 70.0 ≤ low then 1.03
  else if high ≤ 30.0 ∧ high - low ≤ 10.0 then 1.02
  else 1.0

/-- A hundred less the distance of two scores. -/
def similarity (reference candidate : K) : K :=
  clamp 0.0 100.0 (100.0 - magnitude (reference - candidate))

/-! ## Languages -/

/-- The languages of two repositories. -/
structure LanguageOverlap (K : Type) where
  /-- From one tenth to one. -/
  factor : K
  /-- Languages of both. -/
  shared : List Language
  /-- Languages of the reference only. -/
  missing : List Language
  /-- Languages of the candidate only. -/
  extra : List Language

namespace LanguageOverlap

/-- The factor as a percentage. -/
def percentage (overlap : LanguageOverlap K) : K := overlap.factor * 100.0

/-- The smallest factor. -/
def floor : K := 0.1

/-- The languages of one side or the other. -/
def languagesOf (reference candidate : Profile K) : List Language :=
  Language.all.filter fun l =>
    (reference.languages.get? l).isSome || (candidate.languages.get? l).isSome

/-- The sum of the lesser shares, each times the importance of its language. -/
def intersection (importance : Language → K) (reference candidate : Profile K) : K :=
  (languagesOf reference candidate).foldl (fun total l =>
    total + importance l * least (reference.share l) (candidate.share l)) 0.0

/-- The sum of the greater shares, each times the importance of its language. -/
def union (importance : Language → K) (reference candidate : Profile K) : K :=
  (languagesOf reference candidate).foldl (fun total l =>
    total + importance l * greatest (reference.share l) (candidate.share l)) 0.0

/-- The overlap of two repositories: what both have of a language, against what either has. -/
def ofProfiles (importance : Language → K) (reference candidate : Profile K) :
    LanguageOverlap K :=
  let languages := languagesOf reference candidate
  let common := intersection importance reference candidate
  let whole := union importance reference candidate
  let has (profile : Profile K) (l : Language) : Bool := 0.0 < profile.share l
  { factor := if 0.0 < whole then clamp floor 1.0 (common / whole) else floor
    shared := languages.filter fun l => has reference l && has candidate l
    missing := languages.filter fun l => has reference l && !has candidate l
    extra := languages.filter fun l => !has reference l && has candidate l }

end LanguageOverlap

/-! ## Factors -/

/-- The six factors. -/
structure Factors (K : Type) where
  complexity : K
  consistency : K
  excellence : K
  antiPatterns : K
  patterns : K
  balance : K

namespace Factors

/-- Falls as the scores of complexity drift apart by more than ten points. -/
def complexityFactor (reference candidate : K) : K :=
  greatest (1.0 - greatest (magnitude (reference - candidate) - 10.0) 0.0 / 300.0) 0.85

/-- A bonus if the candidate's base scores are close to each other and not too low. -/
def consistencyFactor (candidate : CategoryScores K) : K :=
  if candidate.deviation Category.base ≤ 10.0 ∧ 50.0 ≤ candidate.mean Category.base then 1.02
  else 1.0

/-- Every critical category is above 85. -/
def excels (scores : CategoryScores K) : Bool :=
  Category.critical.all fun c => (85.0 : K) < scores.value c

/-- A bonus if both sides excel. -/
def excellenceFactor (reference candidate : CategoryScores K) : K :=
  if excels reference && excels candidate then 1.03 else 1.0

/-- Anti-patterns for ten files. -/
def antiPatternDensity (profile : Profile K) : K :=
  ((profile.advanced.patterns.antiPatternCount : Nat) : K) /
    greatest (((profile.totalFiles : Nat) : K) / 10.0) 1.0

/-- Falls as the candidate has more anti-patterns than the reference. -/
def antiPatternFactor (reference candidate : Profile K) : K :=
  let excess := greatest (antiPatternDensity candidate - antiPatternDensity reference) 0.0
  greatest (1.0 - 0.02 * excess) 0.85

/-- A bonus for each design pattern. -/
def patternFactor (distinct : Nat) : K := 1.0 + least (0.01 * (distinct : K)) 0.05

/-- A bonus if all of the candidate's scores are close to each other and not too low. -/
def balanceFactor (candidate : CategoryScores K) : K :=
  let mean := candidate.mean Category.all
  if mean < 50.0 then 1.0
  else if candidate.deviation Category.all / mean ≤ 0.15 then 1.02
  else 1.0

/-- The factors of two repositories. -/
def ofProfiles (reference candidate : Profile K) : Factors K where
  complexity :=
    complexityFactor (reference.scores.value .complexity) (candidate.scores.value .complexity)
  consistency := consistencyFactor candidate.scores
  excellence := excellenceFactor reference.scores candidate.scores
  antiPatterns := antiPatternFactor reference candidate
  patterns := patternFactor candidate.advanced.patterns.designPatterns.size
  balance := balanceFactor candidate.scores

/-- All factors multiplied. -/
def product (f : Factors K) : K :=
  f.complexity * f.consistency * f.excellence * f.antiPatterns * f.patterns * f.balance

end Factors

end Affinity
