import Affinity.Category
import Affinity.Error
import Affinity.Language
import Affinity.Scalar
import Affinity.Table

/-!
# Settings

* `Settings` — everything that can be set: files to leave out, weights of the categories, importance
  of the languages, limits, thresholds and the output. Each field has a default.
* `Settings.problem?` — the first value that makes no sense.
-/

namespace Affinity

variable {K : Type} [Scalar K]

/-- A way to write reports. -/
inductive Format where
  | text
  | json
  | markdown
  deriving DecidableEq, Repr, Inhabited

namespace Format

/-- The formats in their order. -/
def all : List Format := [text, json, markdown]

/-- The name used in settings. -/
def key : Format → String
  | text => "text"
  | json => "json"
  | markdown => "markdown"

/-- The names by which a format can be asked for, in any letter case. -/
def names : Format → List String
  | text => ["text", "txt"]
  | json => ["json"]
  | markdown => ["md", "markdown"]

/-- The format with a given name, in any letter case. -/
def ofName? (name : String) : Option Format :=
  all.find? fun format => format.names.contains (lowercase name)

/-- What is said about a name that no format has. -/
def unknownMessage (name : String) : String :=
  s!"Unknown format: {name}. Use 'text', 'json', or 'md'"

/-- The format with exactly this key. -/
def ofKey? (key : String) : Option Format :=
  all.find? fun format => format.key == key

end Format

/-- The weight of each category. -/
structure Weights (K : Type) where
  of : Category → K

/-- The weights if nothing is set. -/
def Weights.standard : Weights K where
  of
    | .naming => 0.12
    | .documentation => 0.12
    | .modularity => 0.10
    | .complexity => 0.12
    | .errorHandling => 0.10
    | .testing => 0.09
    | .security => 0.09
    | .styleConsistency => 0.08
    | .patterns => 0.06
    | .performance => 0.06
    | .comments => 0.06

/-- The sum of the weights. -/
def Weights.sum (weights : Weights K) : K := Scalar.sum (Category.all.map weights.of)

/-- How much of a repository is looked at. -/
structure Limits where
  /-- Files kept of each language, the first ones by path. -/
  maxFilesPerLanguage : Nat := 500
  /-- Larger files are left out with a warning. -/
  maxFileBytes : Nat := 1048576
  deriving DecidableEq, Repr

/-- How the program runs. -/
structure Runtime where
  /-- Threads that work at once; zero stands for one per processor. -/
  workers : Nat := 0
  /-- Seconds after which no further file is begun; zero stands for no limit. -/
  timeoutSecs : Nat := 300
  deriving DecidableEq, Repr

/-- What counts as too much. -/
structure Thresholds (K : Type) where
  /-- Lines in a window of the search for duplicates. -/
  duplicationWindow : Nat := 5
  /-- A class with more methods is a god class. -/
  godClassMethods : Nat := 20
  /-- A class with more lines is a god class. -/
  godClassLines : Nat := 500
  /-- A function with more lines and no early return is tangled. -/
  spaghettiLines : Nat := 50
  /-- A function with deeper nesting and no early return is tangled. -/
  spaghettiNesting : Nat := 4
  /-- A longer list of parameters is too long. -/
  longParameterList : Nat := 6
  /-- A file with more lines is monolithic. -/
  monolithicFileLines : Nat := 500
  /-- Branches per function at which the score of complexity falls to one half. -/
  complexityPerFunction : K
  maxRecommendations : Nat := 5

/-- The thresholds if nothing is set. -/
def Thresholds.standard : Thresholds K := { complexityPerFunction := 10.0 }

/-- How reports are written. -/
structure OutputSettings where
  format : Format := .text
  color : Bool := true
  deriving DecidableEq, Repr

/-- All settings. -/
structure Settings (K : Type) where
  /-- Patterns of paths to leave out. -/
  exclude : List String := []
  weights : Weights K
  /-- How much alignment in a language counts, by its name; one if it is not listed. -/
  importance : Table String K := {}
  limits : Limits := {}
  runtime : Runtime := {}
  thresholds : Thresholds K
  output : OutputSettings := {}

/-- The settings if nothing is set. -/
def Settings.standard : Settings K := { weights := .standard, thresholds := .standard }

/-- How much alignment in a language counts: the multiplier of its first name in the list. -/
def Settings.importanceOf (settings : Settings K) (language : Language) : K :=
  match settings.importance.entries.find? fun e => Language.ofName? e.1 == some language with
  | some (_, multiplier) => multiplier
  | none => 1.0

/-!
## Settings that make sense

What makes no sense: weights that are not numbers or do not sum to one, an importance for an unknown
language or one that is not positive, limits and thresholds that are too small, and patterns that
cannot be read.
-/

open Scalar

/-- The weights may miss their sum by this much. -/
def weightTolerance : K := 0.000001

/-- What is wrong with the weights. -/
def Weights.problem? (weights : Weights K) : Option (SettingsProblem K) :=
  match Category.all.find? fun c => !isFinite (weights.of c) || weights.of c < 0.0 with
  | some category => some (.weight category (weights.of category))
  | none =>
    if weightTolerance < magnitude (weights.sum - 1.0) then some (.weightSum weights.sum) else none

/-- What is wrong with the importance of a language. -/
def importanceProblem? (name : String) (value : K) : Option (SettingsProblem K) :=
  if (Language.ofName? name).isNone then some (.unknownLanguage name)
  else if !isFinite value || value ≤ 0.0 then some (.importance name value)
  else none

/-- What is wrong with the limits. -/
def Limits.problem? (limits : Limits) : Option (SettingsProblem K) :=
  if limits.maxFilesPerLanguage = 0 then some .noFilesPerLanguage else none

/-- What is wrong with the thresholds. -/
def Thresholds.problem? (thresholds : Thresholds K) : Option (SettingsProblem K) :=
  if thresholds.duplicationWindow < 2 then some .shortWindow
  else if thresholds.godClassMethods = 0 || thresholds.spaghettiLines = 0 then
    some .antiPatternThreshold
  else if 0.0 < thresholds.complexityPerFunction then none
  else some .complexityThreshold

/-- What is wrong with a pattern of paths to leave out. -/
def excludeProblem? (pattern : String) : Option (SettingsProblem K) :=
  match Glob.ofString pattern with
  | .ok _ => none
  | .error cause => some (.exclude pattern cause)

/-- What is wrong with the settings. -/
def Settings.problem? (settings : Settings K) : Option (SettingsProblem K) :=
  settings.weights.problem? <|>
    settings.importance.entries.findSome? (fun e => importanceProblem? e.1 e.2) <|>
    settings.limits.problem? <|>
    settings.thresholds.problem? <|>
    settings.exclude.findSome? excludeProblem?

/-- The settings make sense. -/
def Settings.isValid (settings : Settings K) : Bool := settings.problem?.isNone

end Affinity
