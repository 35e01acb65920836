import Affinity.Facts
import Affinity.Score.Basic

/-!
# The graph of imports

An import is resolved against the files of the repository by the end of their paths: `app.models`
finds `src/app/models.py`. Where no file fits, a directory with that name stands for its first file.
What resolves to nothing is an import from outside.

A cycle is a set of at least two files each of which can be reached from the others.
-/

namespace Affinity

open Scalar

variable {K : Type} [Scalar K]

/-! ## Keys of files and imports -/

/-- The path without its extension. A dot at the start of the file name begins none. -/
def stripExtension (path : List Char) : List Char :=
  let name := (path.reverse.takeWhile (· != '/')).reverse
  let directory := path.take (path.length - name.length)
  let extension := (name.reverse.takeWhile (· != '.')).length
  if extension + 1 < name.length then directory ++ name.take (name.length - (extension + 1))
  else path

/-- Texts made of the last parts of a list, joined by slashes, the longest first. -/
def joinedTails : List (List Char) → List (List Char)
  | [] => []
  | part :: rest => ((part :: rest).intersperse ['/']).flatten :: joinedTails rest

/-- The keys under which a file can be imported. -/
def moduleKeys (path : String) : List (List Char) :=
  joinedTails (pieces (· = '/') (stripExtension path.toList))

/-- The keys under which the directory of a file can be imported. -/
def directoryKeys (path : String) : List (List Char) :=
  joinedTails (pieces (· = '/') (stripExtension path.toList)).dropLast

/-- The text without parts of it at the beginning, as long as it begins with one of them. -/
def dropStarts (starts : List (List Char)) : Nat → List Char → List Char
  | 0, s => s
  | n + 1, s =>
    match starts.find? (·.isPrefixOf s) with
    | some start => dropStarts starts n (s.drop start.length)
    | none => s

/-- Two colons replaced by a slash. -/
def joinScopes : List Char → List Char
  | ':' :: ':' :: rest => '/' :: joinScopes rest
  | c :: rest => c :: joinScopes rest
  | [] => []

/-- A text without the characters at its margins that satisfy a test. -/
def trimMatches (p : Char → Bool) (s : List Char) : List Char :=
  dropWhileEnd p (s.dropWhile p)

/-- The import of a path. -/
def pathKey (target : List Char) : List Char :=
  let path := replaceChar '\\' ['/'] target
  stripExtension (dropStarts ["./".toList, "../".toList] path.length path)

/-- The import of a name with dots. -/
def dottedKey (target : List Char) : List Char :=
  let dotted := target.dropWhile (· = '.')
  let extension := (dotted.reverse.takeWhile (· != '.')).reverse
  let isFile := dotted.contains '.' &&
    (Language.ofExtension? (String.ofList extension)).isSome
  if isFile then stripExtension dotted
  else replaceChar '.' ['/'] (joinScopes dotted)

/-- The key that an import asks for; none for addresses and for nothing. -/
def importKey? (target : String) : Option (List Char) :=
  let bare := trimMatches (fun c => c = '"' || c = '\'' || c = '<' || c = '>') (trim target.toList)
  if contains bare "://".toList then none
  else
    let local' := (dropStarts ["@/".toList] bare.length bare).dropWhile (· = '~')
    let key := trimMatches (· = '/')
      (if local'.contains '/' || local'.contains '\\' then pathKey local' else dottedKey local')
    if key.isEmpty then none else some key

/-! ## Resolution -/

/-- The files of a repository by the keys under which they can be imported. Of several files under
one key the first counts. -/
structure SuffixIndex where
  modules : Table (List Char) Nat := {}
  directories : Table (List Char) Nat := {}

namespace SuffixIndex

/-- Adds an entry unless there is one with the same key. -/
def addFirst (table : Table (List Char) Nat) (file : Nat) (keys : List (List Char)) :
    Table (List Char) Nat :=
  keys.foldl (fun table key => if (table.get? key).isSome then table else table.insert key file)
    table

/-- The index of some paths. -/
def ofPaths (paths : List String) : SuffixIndex :=
  paths.zipIdx.foldl (fun index (path, i) =>
    { modules := addFirst index.modules i (moduleKeys path)
      directories := addFirst index.directories i (directoryKeys path) }) {}

/-- The file under a key, else the first file of the directory under it. -/
def lookup (index : SuffixIndex) (key : List Char) : Option Nat :=
  (index.modules.get? key) <|> (index.directories.get? key)

/-- The file under the longest tail of a key after one of its slashes. -/
def lookupTails (index : SuffixIndex) : List Char → Option Nat
  | [] => none
  | c :: rest =>
    if c = '/' then (index.lookup rest) <|> (index.lookupTails rest) else index.lookupTails rest

/-- The file that an import means. The first part of a package path may name a host; what follows is
then tried as well. -/
def resolve (index : SuffixIndex) (target : String) : Option Nat :=
  match importKey? target with
  | none => none
  | some key =>
    match index.lookup key with
    | some file => some file
    | none =>
      if (key.takeWhile (· != '/')).contains '.' then index.lookupTails key else none

end SuffixIndex

/-! ## Reachability and cycles -/

/-- A graph: the successors of each node. -/
abbrev Graph := Array (List Nat)

/-- Adds to `reached` the nodes that can be reached from those in `open'`, using at most `fuel`
steps. -/
def Graph.reach (g : Graph) : Nat → List Nat → Array Bool → Array Bool
  | 0, _, reached => reached
  | _ + 1, [], reached => reached
  | fuel + 1, node :: rest, reached =>
    let fresh := (g.getD node []).filter fun next => !(reached.getD next true)
    let fresh := fresh.eraseDups
    g.reach fuel (fresh ++ rest) (fresh.foldl (fun r next => r.setIfInBounds next true) reached)

/-- The nodes that can be reached from a node by at least one step. -/
def Graph.reachable (g : Graph) (node : Nat) : Array Bool :=
  let first := ((g.getD node []).filter (· < g.size)).eraseDups
  g.reach (g.size + 1) first
    (first.foldl (fun r next => r.setIfInBounds next true) (Array.replicate g.size false))

/-- The sets of at least two nodes each of which can be reached from the others, in the order of
their first nodes. -/
def Graph.cycles (g : Graph) : List (List Nat) :=
  let reachable := (Array.range g.size).map g.reachable
  let connected (i j : Nat) : Bool :=
    (reachable.getD i #[]).getD j false && (reachable.getD j #[]).getD i false
  (List.range g.size).filterMap fun i =>
    let members := (List.range g.size).filter fun j => i = j || connected i j
    if members.head? = some i && 2 ≤ members.length then some members else none

/-! ## The report -/

/-- What the graph of imports shows. -/
structure DependencyReport (K : Type) where
  score : K
  nodes : Nat := 0
  edges : Nat := 0
  averageFanOut : K
  maxFanOut : Nat := 0
  /-- Imports of files of the repository. -/
  internalImports : Nat := 0
  /-- Imports from outside. -/
  externalImports : Nat := 0
  /-- The paths on each cycle in ascending order; the cycles in ascending order too. -/
  cycles : List (List String) := []

namespace DependencyReport

/-- The report where there is nothing to look at. -/
def empty : DependencyReport K := { score := 0.0, averageFanOut := 0.0 }

/-- The files that each file imports; nothing for an import from outside. -/
def resolvedImports (files : List FileFacts) : List (List (Option Nat)) :=
  let index := SuffixIndex.ofPaths (files.map (·.path))
  files.map fun f => f.imports.map index.resolve

/-- The other files that a file imports, each once. -/
def successors (file : Nat) (imports : List (Option Nat)) : List Nat :=
  ((imports.filterMap id).filter (· != file)).eraseDups

/-- The graph with a node for each file and an edge to each other file that it imports. -/
def graphOf (files : List FileFacts) : Graph :=
  ((resolvedImports files).zipIdx.map fun (imports, i) => successors i imports).toArray

/-- Ascending order of paths. -/
def pathsAscending (paths : List String) : List String :=
  paths.mergeSort fun a b => (compare a b).isLE

/-- The paths on the cycles of the graph. -/
def cyclePaths (files : List FileFacts) : List (List String) :=
  let paths := (files.map (·.path)).toArray
  let cycles := (graphOf files).cycles.map fun members =>
    pathsAscending (members.map fun i => paths.getD i "")
  cycles.mergeSort fun a b => (compare a b).isLE

/-- One up to five imports per file, then falling. -/
def fanFactor (average : K) : K := if average ≤ 5.0 then 1.0 else 5.0 / average

/-- The graph of the files' imports. -/
def ofFiles (files : List FileFacts) : DependencyReport K :=
  let imports := (resolvedImports files).flatten
  let fanOuts := (graphOf files).toList.map (·.length)
  let cycles := cyclePaths files
  let average : K := ratio (sumOf fanOuts) files.length
  let penalty : K := least (10.0 * ((cycles.length : Nat) : K)) 50.0
  { score := clampScore (100.0 * fanFactor average - penalty)
    nodes := files.length
    edges := sumOf fanOuts
    averageFanOut := average
    maxFanOut := maxOf fanOuts
    internalImports := imports.countP Option.isSome
    externalImports := imports.countP Option.isNone
    cycles }

end DependencyReport

end Affinity
