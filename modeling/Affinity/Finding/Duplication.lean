import Affinity.Facts
import Affinity.Score.Basic
import Std.Data.HashMap

/-!
# Duplicated lines

A window is a run of consecutive fingerprints of one file. A window that occurs at least twice in
the repository is repeated; all of its occurrences are clones, and all but the first are copies. The
more lines are covered by copies, the lower the score.
-/

namespace Affinity

open Scalar

variable {K : Type} [Scalar K]

/-! ## Levels -/

/-- How much of a repository is duplicated. -/
inductive DuplicationLevel where
  | excellent
  | good
  | moderate
  | high
  deriving DecidableEq, Repr, Inhabited

namespace DuplicationLevel

/-- The level of a percentage of duplicated lines. -/
def ofPercentage (percentage : K) : DuplicationLevel :=
  if percentage < 5.0 then excellent
  else if percentage < 15.0 then good
  else if percentage < 25.0 then moderate
  else high

/-- The bands, the least duplication first. -/
def all : List DuplicationLevel := [excellent, good, moderate, high]

/-- The name of a band in reports. -/
def label : DuplicationLevel → String
  | excellent => "Excelente"
  | good => "Bueno"
  | moderate => "Moderado"
  | high => "Alto"

/-- What a band says about a repository. -/
def description : DuplicationLevel → String
  | excellent => "very little duplication"
  | good => "duplication within acceptable limits"
  | moderate => "moderate duplication, consider refactoring"
  | high => "high duplication, refactoring recommended"

end DuplicationLevel

/-! ## Windows -/

/-- A run of fingerprints. -/
abbrev Window := List String

/-- The windows of a file, one for each place where one begins. -/
def windowsOf (size : Nat) : List String → List Window
  | [] => []
  | line :: rest =>
    let window := (line :: rest).take size
    if window.length = size then window :: windowsOf size rest else []

/-- How often each window occurs. -/
def countWindows (windows : List Window) : Std.HashMap Window Nat :=
  windows.foldl (fun counts w => counts.insert w (counts.getD w 0 + 1)) {}

/-- A repeated window: where it begins in its file, and whether it occurred before. -/
structure Occurrence where
  start : Nat
  isCopy : Bool
  deriving DecidableEq, Repr

/-- The repeated windows of a file, given those that were seen in files and places before. -/
def occurrences (counts : Std.HashMap Window Nat) :
    Std.HashMap Window Unit → List (Window × Nat) → Std.HashMap Window Unit × List Occurrence
  | seen, [] => (seen, [])
  | seen, (window, start) :: rest =>
    if counts.getD window 0 < 2 then occurrences counts seen rest
    else
      let (after, found) := occurrences counts (seen.insert window ()) rest
      (after, ⟨start, seen.contains window⟩ :: found)

/-- The number of places below `lines` that are covered by windows of the given size beginning at
one of the ascending places. -/
def coveredPlaces (size : Nat) : Nat → List Nat → Nat
  | _, [] => 0
  | reached, start :: rest =>
    let first := max reached start
    let stop := start + size
    (stop - first) + coveredPlaces size (max reached stop) rest

/-! ## The report -/

/-- The most duplicated file. -/
structure FileDuplication (K : Type) where
  path : String
  /-- Lines of the file inside a repeated window. -/
  duplicatedLines : Nat
  percentage : K

/-- What was found in a repository. -/
structure DuplicationReport (K : Type) where
  score : K
  window : Nat := 0
  /-- Lines that can be part of a window. -/
  lines : Nat := 0
  /-- Lines covered by copies. -/
  duplicatedLines : Nat := 0
  percentage : K
  /-- Distinct repeated windows. -/
  duplicatedBlocks : Nat := 0
  filesWithDuplicates : Nat := 0
  level : DuplicationLevel := .excellent
  mostDuplicated : Option (FileDuplication K) := none

namespace DuplicationReport

/-- The report where there is nothing to look at. -/
def empty : DuplicationReport K := { score := 0.0, percentage := 0.0 }

/-- Clones and copies in each file: path, lines, and the places covered by either. -/
structure Coverage where
  path : String
  lines : Nat
  cloned : Nat
  copied : Nat
  deriving Repr

/-- The covered places of the files one after the other. -/
def coverages (size : Nat) (counts : Std.HashMap Window Nat) :
    Std.HashMap Window Unit → List FileFacts → List Coverage
  | _, [] => []
  | seen, file :: rest =>
    let (seen, found) := occurrences counts seen (windowsOf size file.fingerprints).zipIdx
    { path := file.path
      lines := file.fingerprints.length
      cloned := coveredPlaces size 0 (found.map (·.start))
      copied := coveredPlaces size 0 ((found.filter (·.isCopy)).map (·.start)) } ::
      coverages size counts seen rest

/-- The file with the most cloned lines, the first by path of several. Of two files with one path
the last counts. -/
def mostDuplicatedOf (files : List Coverage) : Option Coverage :=
  let byPath : Table String Coverage :=
    .ofList ((files.filter fun f => 0 < f.cloned).map fun f => (f.path, f))
  byPath.values.foldl (fun best f =>
    match best with
    | some b => if b.cloned < f.cloned then some f else best
    | none => some f) none

/-- The duplicates among the files, with windows of `size` lines. -/
def ofFiles (size : Nat) (files : List FileFacts) : DuplicationReport K :=
  let counts := countWindows (files.flatMap fun f => windowsOf size f.fingerprints)
  let found := coverages size counts {} files
  let lines : Nat := sumOf (found.map (·.lines))
  let copied : Nat := sumOf (found.map (·.copied))
  let percentage : K := if lines = 0 then 0.0 else 100.0 * (copied : K) / (lines : K)
  { score := clampScore (100.0 - percentage * 2.0)
    window := size
    lines
    duplicatedLines := copied
    percentage
    duplicatedBlocks := counts.toList.countP fun (_, n) => 2 ≤ n
    filesWithDuplicates := found.countP fun f => 0 < f.cloned
    level := .ofPercentage percentage
    mostDuplicated := (mostDuplicatedOf found).map fun f =>
      { path := f.path
        duplicatedLines := f.cloned
        percentage := 100.0 * (f.cloned : K) / (f.lines : K) } }

/-- What is reported while the covered places of the files are found: after each file, the number of
files that are done and the number of all. -/
def progress (size : Nat) (files : List FileFacts) : List (Nat × Nat) :=
  let counts := countWindows (files.flatMap fun f => windowsOf size f.fingerprints)
  (coverages size counts {} files).zipIdx.map fun (_, done) => (done + 1, files.length)

end DuplicationReport

/-- The size of windows that a wish for one gives: at least two lines. -/
def windowSize (wish : Nat) : Nat := max wish 2

end Affinity
