import Affinity.Language

/-!
# Paths

A path is read as a sequence of components, separated by slashes. Repeated slashes and inner `.`
components do not count, so `a//b` and `a/./b` have the same components as `a/b`; a leading `.` does
count. Paths are ordered component by component: `a/b.py` comes before `a.py`.
-/

namespace Affinity

/-- One component of a path. -/
inductive PathComponent where
  | root
  | here
  | parent
  | name (text : List Char)
  deriving DecidableEq, Repr

namespace PathComponent

/-- The kinds of components in ascending order. -/
def rank : PathComponent → Nat
  | root => 0
  | here => 1
  | parent => 2
  | name _ => 3

/-- The text of a named component; empty for the others. -/
def text : PathComponent → List Char
  | name text => text
  | _ => []

instance : Ord PathComponent :=
  ⟨fun a b => (compare a.rank b.rank).then (compare a.text b.text)⟩

end PathComponent

/-- A path as it was given. -/
structure Path where
  text : String
  deriving DecidableEq, Repr, Inhabited

namespace Path

/-- The components of a path. -/
def components (path : Path) : List PathComponent :=
  let parts := pieces (· = '/') path.text.toList
  let named := (parts.filter fun part => !part.isEmpty && part != ['.']).map fun part =>
    if part = ['.', '.'] then .parent else .name part
  if startsWith path.text.toList "/" then .root :: named
  else if parts.head? = some ['.'] then .here :: named
  else named

/-- The order of paths, component by component. -/
instance : Ord Path := ⟨fun a b => compare a.components b.components⟩

/-- The last component, if it is a name. -/
def fileName? (path : Path) : Option (List Char) :=
  match path.components.getLast? with
  | some (.name text) => some text
  | _ => none

/-- What follows the last dot of the file name. A dot at its very beginning starts no extension. -/
def extension? (path : Path) : Option String :=
  match path.fileName? with
  | none => none
  | some name =>
    let reversed := name.reverse
    let after := reversed.takeWhile (· != '.')
    match reversed.drop after.length with
    | '.' :: _ :: _ => some (String.ofList after.reverse)
    | _ => none

/-- The path with forward slashes only, which names a file in reports. -/
def key (path : Path) : String :=
  String.ofList (replaceChar '\\' ['/'] path.text.toList)

end Path

/-- The language that a path's extension tells. -/
def Language.detect? (path : Path) : Option Language :=
  path.extension?.bind Language.ofExtension?

end Affinity
