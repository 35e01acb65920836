import Affinity.Profile.Basic
import Affinity.Python.Survey
import Affinity.Rules.Extract
import Affinity.Rules.Tables

/-!
# From files to profiles

The facts about the files of a set are gathered in a batch. A file that is not begun in time is only
counted. Batches of consecutive files can be merged, so that a set can be worked on in parts.

* `Batch.ofFiles` — the batch of some files, each with a mark that says whether time was over.
* `Profile.ofBatch` — the profile of a batch.
-/

namespace Affinity

/-- The facts about a file. -/
def SourceFile.facts [Python.Grammar] (file : SourceFile) : FileFacts :=
  match file.language with
  | .python => Python.facts file
  | _ => file.ruleFacts

/-- The facts about some files. -/
structure Batch where
  files : List FileFacts := []
  /-- Files that were not begun in time. -/
  timedOut : Nat := 0
  /-- Files that the grammar of their language did not accept. -/
  fallbacks : Nat := 0
  deriving DecidableEq, Repr

namespace Batch

/-- Adds the facts about a file. -/
def add (batch : Batch) (facts : FileFacts) : Batch :=
  { batch with
    files := batch.files ++ [facts]
    fallbacks := batch.fallbacks + if facts.fallback then 1 else 0 }

/-- Counts a file that is not begun. -/
def skip (batch : Batch) : Batch := { batch with timedOut := batch.timedOut + 1 }

/-- Takes in the next file; `expired` says that time is over. -/
def next [Python.Grammar] (batch : Batch) (file : SourceFile) (expired : Bool) : Batch :=
  if expired then batch.skip else batch.add file.facts

/-- Puts the batch of later files behind that of earlier ones. -/
def merge (earlier later : Batch) : Batch where
  files := earlier.files ++ later.files
  timedOut := earlier.timedOut + later.timedOut
  fallbacks := earlier.fallbacks + later.fallbacks

/-- The batch of some files, taken in one after the other. -/
def ofFiles [Python.Grammar] (files : List (SourceFile × Bool)) : Batch :=
  files.foldl (fun batch (file, expired) => batch.next file expired) {}

/-- The files in the order of their paths as texts. -/
def inOrder (batch : Batch) : Batch :=
  { batch with files := batch.files.mergeSort fun a b => (compare a.path b.path).isLE }

end Batch

namespace Profile

variable {K : Type} [Scalar K]

/-- The metrics of each language that occurs. -/
def metricsOf (thresholds : Thresholds K) (files : List FileFacts) : List (LanguageMetrics K) :=
  (Language.all.map fun l => (l, files.filter fun f => f.language = l)).filterMap
    fun (l, group) => if group.isEmpty then none else some (.ofFacts l thresholds group)

/-- The profile of a batch; `coverage` says what became of the files before. -/
def ofBatch (settings : Settings K) (name : String) (coverage : Coverage) (batch : Batch) :
    Profile K :=
  let batch := batch.inOrder
  .ofMetrics name (metricsOf settings.thresholds batch.files)
    (.ofFiles settings.thresholds batch.files)
    { coverage with
      filesAnalyzed := batch.files.length
      timedOut := batch.timedOut
      fallbacks := batch.fallbacks }
    settings.weights

/-- The profile of a file set; `expired` says of each place in the set whether time was over. -/
def ofFileSet [Python.Grammar] (settings : Settings K) (name : String) (expired : Nat → Bool)
    (set : FileSet) : Profile K :=
  .ofBatch settings name set.coverage
    (.ofFiles (set.files.zipIdx.map fun (file, i) => (file, expired i)))

end Profile

end Affinity
