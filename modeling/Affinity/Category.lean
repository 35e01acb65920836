/-!
# Categories

The eleven dimensions in which a repository is scored. Eight of them are scored for every language
on its own, the other three for the repository as a whole.
-/

namespace Affinity

/-- A dimension of style and quality. The order of the constructors is the order of reports. -/
inductive Category where
  | naming
  | documentation
  | modularity
  | complexity
  | errorHandling
  | testing
  | security
  | styleConsistency
  | patterns
  | performance
  | comments
  deriving DecidableEq, Repr, Inhabited

namespace Category

/-- The categories that are scored for every language. -/
def base : List Category :=
  [naming, documentation, modularity, complexity, errorHandling, testing, security,
    styleConsistency]

/-- The categories that are scored once for a repository. -/
def advanced : List Category := [patterns, performance, comments]

/-- All categories in their order. -/
def all : List Category := base ++ advanced

/-- The categories in which both sides have to excel for a bonus. -/
def critical : List Category := [naming, documentation, errorHandling]

/-- The position in the order of reports. -/
def rank : Category → Nat
  | naming => 0
  | documentation => 1
  | modularity => 2
  | complexity => 3
  | errorHandling => 4
  | testing => 5
  | security => 6
  | styleConsistency => 7
  | patterns => 8
  | performance => 9
  | comments => 10

instance : Ord Category := ⟨fun a b => compare a.rank b.rank⟩

/-- The name used in settings and in structured reports. -/
def key : Category → String
  | naming => "naming"
  | documentation => "documentation"
  | modularity => "modularity"
  | complexity => "complexity"
  | errorHandling => "error_handling"
  | testing => "testing"
  | security => "security"
  | styleConsistency => "style_consistency"
  | patterns => "patterns"
  | performance => "performance"
  | comments => "comments"

/-- The name shown to people. -/
def displayName : Category → String
  | naming => "Naming"
  | documentation => "Documentation"
  | modularity => "Modularity"
  | complexity => "Complexity"
  | errorHandling => "Error handling"
  | testing => "Testing"
  | security => "Security"
  | styleConsistency => "Style consistency"
  | patterns => "Design patterns"
  | performance => "Performance"
  | comments => "Comments"

/-- The category is scored for each language. -/
def isBase (category : Category) : Bool := base.contains category

/-- The category with exactly this key. -/
def ofKey? (key : String) : Option Category :=
  all.find? fun category => category.key == key

end Category

end Affinity
