import Affinity.Text.Lines

/-!
# Identifiers

The casing conventions that a name may follow, and names too short to describe anything. Sigils and
underscores in front, and underscores, question and exclamation marks at the end, are no part of the
word that is judged.
-/

namespace Affinity

/-- A casing convention. -/
inductive Casing where
  /-- Words in lower case joined by underscores. -/
  | snake
  /-- Words joined by capitals, the first in lower case. -/
  | camel
  /-- Words joined by capitals, the first capitalized too. -/
  | pascal
  /-- Words in capitals joined by underscores. -/
  | screamingSnake
  /-- Words in lower case joined by hyphens. -/
  | kebab
  deriving DecidableEq, Repr

namespace Identifier

/-- The name without its sigils, outer underscores and closing marks. -/
def core (name : List Char) : List Char :=
  dropWhileEnd (fun c => c = '_' || c = '?' || c = '!')
    (name.dropWhile fun c => c = '_' || c = '$' || c = '@')

/-- The name follows the convention. -/
def follows (name : List Char) (casing : Casing) : Bool :=
  let word := core name
  match word with
  | [] => false
  | first :: _ =>
    match casing with
    | .snake =>
      first.isLower && word.all (fun c => c.isLower || c.isDigit || c = '_') &&
        !contains word ['_', '_']
    | .camel => first.isLower && word.all Char.isAlphanum
    | .pascal => first.isUpper && word.all Char.isAlphanum
    | .screamingSnake =>
      first.isUpper && word.all fun c => c.isUpper || c.isDigit || c = '_'
    | .kebab =>
      first.isLower && word.all (fun c => c.isLower || c.isDigit || c = '-' || c = '_') &&
        !contains word ['-', '-', '-']

/-- The name follows one of the conventions. -/
def followsAny (name : List Char) (casings : List Casing) : Bool :=
  casings.any (follows name)

/-- Short names that everybody understands. -/
def shortAllowed : List String :=
  ["i", "j", "k", "n", "x", "y", "z", "e", "_", "id", "db", "io", "ok", "fn", "el", "ui", "os"]

/-- The name is too short to describe anything. -/
def isShort (name : List Char) : Bool :=
  let word := core name
  word.length < 3 && !shortAllowed.contains (String.ofList (word.map Char.toLower))

end Identifier

end Affinity
