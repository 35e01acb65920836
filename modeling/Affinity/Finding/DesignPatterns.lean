import Affinity.Facts
import Affinity.Score.Basic
import Affinity.Settings.Basic

/-!
# Design patterns and anti-patterns

Every design pattern that a repository shows earns a bonus; every anti-pattern costs a penalty,
which is spread over blocks of ten production files. Test files are searched for design patterns
only.
-/

namespace Affinity

open Scalar

variable {K : Type} [Scalar K]

/-- A habit that costs points. -/
inductive AntiPattern where
  | godClass
  | tangledFunction
  | longParameterList
  | magicNumbers
  deriving DecidableEq, Repr

/-- The name in reports. -/
def AntiPattern.key : AntiPattern → String
  | godClass => "god_class"
  | tangledFunction => "spaghetti_code"
  | longParameterList => "long_parameter_list"
  | magicNumbers => "magic_numbers"

/-- An instance of an anti-pattern, and what it costs before it is spread. -/
structure AntiPatternInstance (K : Type) where
  kind : AntiPattern
  penalty : K
  /-- The class, where the instance is one. -/
  className : Option String := none

/-! ## Instances -/

/-- The class has too many methods or lines. -/
def ClassFacts.isGodClass (thresholds : Thresholds K) (c : ClassFacts) : Bool :=
  thresholds.godClassMethods < c.methods || thresholds.godClassLines < c.lines

/-- Ten points, and half a point for each method and for every fifty lines too many. -/
def godClassPenalty (thresholds : Thresholds K) (c : ClassFacts) : K :=
  10.0 + 0.5 * (((c.methods - thresholds.godClassMethods : Nat) : K) +
    ((c.lines - thresholds.godClassLines : Nat) : K) / 50.0)

/-- The function is too long or nested too deeply, and is never left early. -/
def FunctionFacts.isTangled (thresholds : Thresholds K) (f : FunctionFacts) : Bool :=
  (thresholds.spaghettiLines < f.lines || thresholds.spaghettiNesting < f.maxNesting) &&
    f.earlyReturns = 0

/-- The function has too many parameters. -/
def FunctionFacts.hasLongParameterList (thresholds : Thresholds K) (f : FunctionFacts) : Bool :=
  thresholds.longParameterList < f.params

/-- The anti-pattern that a class is, if it is one. -/
def classInstances (thresholds : Thresholds K) (c : ClassFacts) : List (AntiPatternInstance K) :=
  if c.isGodClass thresholds then
    [{ kind := .godClass, penalty := godClassPenalty thresholds c, className := some c.name }]
  else []

/-- The anti-patterns that a function is; it may be both of them. -/
def functionInstances (thresholds : Thresholds K) (f : FunctionFacts) :
    List (AntiPatternInstance K) :=
  (if f.isTangled thresholds then [{ kind := .tangledFunction, penalty := 6.0 }] else []) ++
    (if f.hasLongParameterList thresholds then [{ kind := .longParameterList, penalty := 3.0 }]
     else [])

/-- Numbers without a name that a file may hold. -/
def magicNumberAllowance : Nat := 5

/-- The anti-patterns of a file. -/
def fileInstances (thresholds : Thresholds K) (file : FileFacts) : List (AntiPatternInstance K) :=
  if file.tests.isTestFile then []
  else
    file.classes.flatMap (classInstances thresholds) ++
      file.functions.flatMap (functionInstances thresholds) ++
      (if magicNumberAllowance < file.magicNumbers then [{ kind := .magicNumbers, penalty := 2.0 }]
       else [])

/-- The number of files that are not test files. -/
def productionFiles (files : List FileFacts) : Nat := files.countP (!·.tests.isTestFile)

/-! ## The report -/

/-- The patterns of a repository. -/
structure PatternReport (K : Type) where
  score : K
  /-- Signatures of each design pattern. -/
  designPatterns : Table String Nat := {}
  /-- Instances of each anti-pattern. -/
  antiPatterns : Table String Nat := {}
  /-- Path and name of every god class. -/
  godClasses : List String := []
  /-- The penalty after it is spread. -/
  penalty : K

namespace PatternReport

/-- The report where there is nothing to look at. -/
def empty : PatternReport K := { score := 0.0, penalty := 0.0 }

/-- The number of anti-patterns of all kinds. -/
def antiPatternCount (report : PatternReport K) : Nat := report.antiPatterns.total

/-- Five points for each design pattern, twenty at most. -/
def bonus (distinct : Nat) : K := least (5.0 * (distinct : K)) 20.0

/-- The number of blocks over which a penalty is spread: one for ten production files, and at least
one. -/
def penaltyBlocks (production : Nat) : K := greatest ((production : K) / 10.0) 1.0

/-- The patterns of some files. -/
def ofFiles (thresholds : Thresholds K) (files : List FileFacts) : PatternReport K :=
  let found : List (AntiPatternInstance K) := files.flatMap (fileInstances thresholds)
  let designPatterns : Table String Nat := files.foldl (fun table f => table.addAll f.patterns) {}
  let penalty : K :=
    found.foldl (fun sum i => sum + i.penalty) 0.0 / penaltyBlocks (productionFiles files)
  { score := clampScore (100.0 + bonus designPatterns.size - penalty)
    designPatterns
    antiPatterns := .tally (found.map (·.kind.key))
    godClasses := files.flatMap fun file =>
      ((fileInstances thresholds file).filterMap (·.className)).map fun name =>
        file.path ++ "::" ++ name
    penalty }

end PatternReport

end Affinity
