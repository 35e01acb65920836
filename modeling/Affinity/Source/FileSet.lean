import Affinity.Path
import Affinity.Settings.Basic
import Affinity.Source.Delivery
import Affinity.Table

/-!
# File sets

The files of a repository that are analyzed: in a known language, not left out by the settings, not
too large, and texts. Of several files with one path the first by content is kept, and of each
language only as many as the settings allow, the first by path. What became of the others is
recorded.

* `Coverage` — which of the delivered files were analyzed, and what became of the others.
* `FileSet.ofDeliveries` — the files chosen from what was delivered.
* `FileSet.ofFiles` — given files, none of them left out.
-/

namespace Affinity

/-- A file that was left out, and why. -/
structure FileWarning where
  path : String
  reason : String
  deriving DecidableEq, Repr

namespace FileWarning

/-- A warning about the file at a path. -/
def about (path : Path) (reason : String) : FileWarning := ⟨path.key, reason⟩

/-- The order of warnings: by path, then by reason. -/
instance : Ord FileWarning :=
  ⟨fun a b => (compare a.path b.path).then (compare a.reason b.reason)⟩

/-- Ascending order. -/
def ascending (warnings : List FileWarning) : List FileWarning :=
  warnings.mergeSort fun a b => (compare a b).isLE

end FileWarning

/-- What became of the files of a repository. -/
structure Coverage where
  /-- Files that were delivered, also those that could not be read. -/
  filesSeen : Nat := 0
  filesAnalyzed : Nat := 0
  /-- Files left out by the settings. -/
  excluded : Nat := 0
  /-- Files in no known language. -/
  unsupported : Nat := 0
  /-- Those files by extension, in small letters; the empty text stands for none. -/
  unsupportedExtensions : Table String Nat := {}
  /-- Files beyond the limit for their language. -/
  truncated : Table Language Nat := {}
  /-- Files that were not begun in time. -/
  timedOut : Nat := 0
  /-- Files that the grammar of their language did not accept. -/
  fallbacks : Nat := 0
  warnings : List FileWarning := []
  deriving DecidableEq, Repr

namespace Coverage

/-- Not every file was begun in time. -/
def isPartial (coverage : Coverage) : Bool := 0 < coverage.timedOut

/-- Files left out for another reason than the settings and the language. -/
def skipped (coverage : Coverage) : Nat :=
  coverage.warnings.length + coverage.timedOut + coverage.truncated.total

end Coverage

/-- The files of a repository in the order of their paths. -/
structure FileSet where
  files : List SourceFile := []
  coverage : Coverage := {}
  deriving Repr

/-! ## Single files -/

/-- What becomes of a delivered file that is looked at on its own. -/
inductive Fate where
  | warned (warning : FileWarning)
  | excluded
  /-- The language is not known; the extension in small letters. -/
  | unsupported (extension : String)
  | kept (file : SourceFile)
  deriving Repr

namespace Fate

/-- The warning about a file that was left out with one. -/
def warning? : Fate → Option FileWarning
  | warned w => some w
  | _ => none

/-- The file was left out by the settings. -/
def isExcluded : Fate → Bool
  | excluded => true
  | _ => false

/-- The extension of a file in no known language. -/
def unsupported? : Fate → Option String
  | unsupported extension => some extension
  | _ => none

/-- The file, if it may be chosen. -/
def kept? : Fate → Option SourceFile
  | kept file => some file
  | _ => none

end Fate

/-- One of the globs describes the path. -/
def isExcluded (globs : List Glob) (path : Path) : Bool :=
  globs.any fun glob => glob.accepts (Utf8.encode path.key)

/-- What becomes of a file that was read. -/
def RawFile.fate (globs : List Glob) (limits : Limits) (file : RawFile) : Fate :=
  if isExcluded globs file.path then .excluded
  else if (Language.detect? file.path).isNone then
    .unsupported (lowercase (file.path.extension?.getD ""))
  else if limits.maxFileBytes < file.size then
    .warned (.about file.path s!"{file.size} bytes exceeds limit of {limits.maxFileBytes}")
  else
    match file.decode with
    | .ok decoded => .kept decoded
    | .error e => .warned (.about file.path e.message)

/-- What becomes of a delivery. -/
def Delivery.fate (globs : List Glob) (limits : Limits) : Delivery → Fate
  | fetched file => file.fate globs limits
  | failed path reason => .warned (.about path s!"fetch failed: {reason}")

/-! ## Files of one language -/

/-- The order in which files with one path compete: by path, then by content. -/
def byPathAndContent (a b : SourceFile) : Ordering :=
  (compare a.path b.path).then (compare a.content b.content)

/-- The files that are the first with their path, and the others. The first argument is the path of
the last file that was kept. -/
def splitRepeats : Option Path → List SourceFile → List SourceFile × List SourceFile
  | _, [] => ([], [])
  | last, file :: rest =>
    if last.any fun p => compare p file.path == .eq then
      let (kept, repeated) := splitRepeats last rest
      (kept, file :: repeated)
    else
      let (kept, repeated) := splitRepeats (some file.path) rest
      (file :: kept, repeated)

/-- The files of one language that are kept, and what is recorded about the others. -/
structure Selection where
  files : List SourceFile
  repeated : List SourceFile
  truncated : Nat
  deriving Repr

/-- Chooses among the files of one language; at most `cap` are kept. -/
def Selection.ofFiles (cap : Nat) (files : List SourceFile) : Selection :=
  let (unique, repeated) :=
    splitRepeats none (files.mergeSort fun a b => (byPathAndContent a b).isLE)
  { files := unique.take cap, repeated, truncated := unique.length - cap }

namespace FileSet

/-- Ascending order of paths; files with one path keep their order. -/
def inOrder (files : List SourceFile) : List SourceFile :=
  files.mergeSort fun a b => (compare a.path b.path).isLE

/-- The selections of the languages that occur. -/
def selections (cap : Nat) (files : List SourceFile) : List (Language × Selection) :=
  Language.all.map fun l => (l, Selection.ofFiles cap (files.filter fun f => f.language = l))

/-- The file set that comes of the fates of the delivered files. -/
def ofFates (cap : Nat) (fates : List Fate) : FileSet :=
  let chosen := selections cap (fates.filterMap Fate.kept?)
  let unsupported := fates.filterMap Fate.unsupported?
  let repeats := chosen.flatMap fun (_, s) =>
    s.repeated.map fun f => FileWarning.about f.path "duplicate path"
  { files := inOrder (chosen.flatMap fun (_, s) => s.files)
    coverage :=
      { filesSeen := fates.length
        excluded := fates.countP Fate.isExcluded
        unsupported := unsupported.length
        unsupportedExtensions := .tally unsupported
        truncated := .ofList ((chosen.filter fun (_, s) => 0 < s.truncated).map fun (l, s) =>
          (l, s.truncated))
        warnings := FileWarning.ascending (fates.filterMap Fate.warning? ++ repeats) } }

variable {K : Type}

/-- The globs of the patterns, or what is wrong with the first pattern that cannot be read. -/
def globsOf (patterns : List String) : Except Error (List Glob) :=
  patterns.mapM fun pattern =>
    match Glob.ofString pattern with
    | .ok glob => .ok glob
    | .error cause => .error (.settings (.invalid (.exclude pattern cause)))

/-- The files chosen from what was delivered. -/
def ofDeliveries (settings : Settings K) (deliveries : List Delivery) : Except Error FileSet :=
  (globsOf settings.exclude).map fun globs =>
    ofFates settings.limits.maxFilesPerLanguage
      (deliveries.map (Delivery.fate globs settings.limits))

/-- The given files. -/
def ofFiles (files : List SourceFile) : FileSet where
  files := inOrder files
  coverage := { filesSeen := files.length }

/-! ## Languages -/

/-- The files of one language. -/
def ofLanguage (set : FileSet) (language : Language) : List SourceFile :=
  set.files.filter fun f => f.language = language

/-- The files of each language that occurs, put into their groups one after the other. -/
def groups (set : FileSet) : Table Language (List SourceFile) :=
  set.files.foldl (fun groups file =>
    groups.insert file.language ((groups.get? file.language).getD [] ++ [file])) {}

/-- The number of files of each language that occurs. -/
def languageCounts (set : FileSet) : Table Language Nat := .tally (set.files.map (·.language))

end FileSet

/-- The key with the greatest count, the first of several. -/
def Table.greatest? {κ : Type} (counts : Table κ Nat) : Option κ :=
  (counts.entries.foldl (fun (best : Option (κ × Nat)) entry =>
    match best with
    | some (_, n) => if n < entry.2 then some entry else best
    | none => some entry) none).map (·.1)

/-- The greatest element by a comparison, the last of several. -/
def lastGreatest? {α : Type} (cmp : α → α → Ordering) : List α → Option α
  | [] => none
  | first :: rest =>
    some (rest.foldl (fun best a => if cmp best a = .gt then best else a) first)

/-- The order of languages with their counts: by count, and backwards if the counts are the same. -/
def compareCounts (a b : Language × Nat) : Ordering :=
  (compare a.2 b.2).then (compare b.1 a.1)

/-- The language with the most files, the first of several. -/
def FileSet.primaryLanguage? (set : FileSet) : Option Language :=
  (lastGreatest? compareCounts set.languageCounts.entries).map (·.1)

end Affinity
