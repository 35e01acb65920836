import Affinity.Category
import Affinity.Scalar
import Affinity.Table

/-!
# Scores

A score lies between 0 and 100 and carries the counts from which it was computed as evidence. A set
of scores holds at most one for each category; a category without one counts as zero.
-/

namespace Affinity

open Scalar

variable {K : Type} [Scalar K]

/-- The score nearest to a value; zero for what is no number. -/
def clampScore (x : K) : K :=
  if isNumber x then clamp 0.0 100.0 x else 0.0

/-- The score of a category. -/
structure CategoryScore (K : Type) where
  category : Category
  value : K
  /-- The counts and ratios behind the value. -/
  evidence : Table String K := {}

namespace CategoryScore

/-- The score nearest to a value, without evidence. -/
def of (category : Category) (value : K) : CategoryScore K where
  category := category
  value := clampScore value

/-- The score of a category of which nothing is known. -/
def zero (category : Category) : CategoryScore K := of category 0.0

/-- Adds a piece of evidence. What is not finite is recorded as zero. -/
def addEvidence (score : CategoryScore K) (key : String) (value : K) : CategoryScore K :=
  { score with evidence := score.evidence.insert key (if isFinite value then value else 0.0) }

/-- Adds several pieces of evidence. -/
def addAllEvidence (score : CategoryScore K) (entries : List (String × K)) : CategoryScore K :=
  entries.foldl (fun score entry => score.addEvidence entry.1 entry.2) score

/-- The score nearest to a value, with evidence. -/
def withEvidence (category : Category) (value : K) (entries : List (String × K)) :
    CategoryScore K :=
  (of category value).addAllEvidence entries

end CategoryScore

/-- A set of scores. -/
structure CategoryScores (K : Type) where
  table : Table Category (CategoryScore K) := {}

namespace CategoryScores

/-- Puts a score in place of the one of its category. -/
def insert (scores : CategoryScores K) (score : CategoryScore K) : CategoryScores K :=
  ⟨scores.table.insert score.category score⟩

/-- The set of some scores; of several for one category the last counts. -/
def ofList (scores : List (CategoryScore K)) : CategoryScores K :=
  scores.foldl insert {}

/-- Zero in each of the categories. -/
def zeros (categories : List Category) : CategoryScores K :=
  ofList (categories.map CategoryScore.zero)

/-- The score of a category, if there is one. -/
def get? (scores : CategoryScores K) (category : Category) : Option (CategoryScore K) :=
  scores.table.get? category

/-- The score of a category; zero if there is none. -/
def value (scores : CategoryScores K) (category : Category) : K :=
  match scores.get? category with
  | some score => score.value
  | none => 0.0

/-- The scores in the order of their categories. -/
def toList (scores : CategoryScores K) : List (CategoryScore K) := scores.table.values

/-- The mean over some categories. -/
def mean (scores : CategoryScores K) (categories : List Category) : K :=
  if categories.isEmpty then 0.0
  else sum (categories.map scores.value) / (categories.length : K)

/-- The standard deviation over some categories. -/
def deviation (scores : CategoryScores K) (categories : List Category) : K :=
  if categories.isEmpty then 0.0
  else
    let mean := scores.mean categories
    sqrt (sum (categories.map fun c => square (scores.value c - mean)) / (categories.length : K))

end CategoryScores

end Affinity
