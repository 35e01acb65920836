import Affinity.Error
import Affinity.Facts
import Affinity.Table
import Affinity.Text.Utf8

/-!
# Deliveries

A repository arrives as a list of deliveries: files that were read, and files that could not be
read.

* `RawFile.decode` — the text of a file, without the mark that may precede it.
* `revisionOf` — what tells two states of a repository held in memory apart.
* `Cache.fetch` — deliveries that may have been fetched before.
-/

namespace Affinity

/-- A file as it was read. -/
structure RawFile where
  path : Path
  bytes : Bytes
  deriving DecidableEq, Repr

/-- What was delivered for one path. -/
inductive Delivery where
  | fetched (file : RawFile)
  | failed (path : Path) (reason : String)
  deriving DecidableEq, Repr

/-- The text without a byte-order mark at its beginning. -/
def dropByteOrderMark : List Char → List Char
  | '\uFEFF' :: rest => rest
  | text => text

namespace RawFile

/-- The number of bytes. -/
def size (file : RawFile) : Nat := file.bytes.length

/-- The text of a file in a known language. -/
def decode (file : RawFile) : Except Error SourceFile :=
  match Language.detect? file.path with
  | none => .error (.unsupportedLanguage file.path.text)
  | some language =>
    match Utf8.decode file.bytes with
    | .error offset => .error (.notText file.path.text offset)
    | .ok text =>
      .ok { path := file.path, language, content := String.ofList (dropByteOrderMark text) }

end RawFile

/-! ## Revisions -/

/-- Ascending order of paths; files with one path keep their order. -/
def filesByPath (files : List RawFile) : List RawFile :=
  files.mergeSort fun a b => (compare a.path b.path).isLE

/-- The paths and contents of some files one after the other, in the order of their paths. -/
def revisionOf (files : List RawFile) : Bytes :=
  (filesByPath files).flatMap fun f => Utf8.encode f.path.text ++ f.bytes

/-!
## A cache of deliveries

A cache holds what was delivered for a repository at a revision. Fetching through a cache asks the
source only if there is no such entry; a source that cannot tell its revision is always asked.
-/

/-- A repository that can be fetched: its name, its revision and its files. -/
structure Source where
  id : String
  revision : Option Bytes
  deliveries : Except Error (List Delivery)

/-- The source of files held in memory. -/
def Source.ofFiles (id : String) (files : List RawFile) : Source where
  id := id
  revision := some (revisionOf files)
  deliveries := .ok (files.map .fetched)

/-- A repository at a revision. -/
structure CacheKey where
  repository : String
  revision : Bytes
  deriving DecidableEq, Repr

instance : Ord CacheKey :=
  ⟨fun a b => (compare a.repository b.repository).then
    (compareOfLessAndEq a.revision b.revision)⟩

/-- What was delivered, by repository and revision. -/
abbrev Cache := Table CacheKey (List Delivery)

namespace Cache

/-- Leaves the entries with other keys. -/
def invalidate (cache : Cache) (key : CacheKey) : Cache :=
  ⟨cache.entries.filter fun e => e.1 ≠ key⟩

/-- What a fetch through a cache gives: the files, the cache afterwards, and whether the source was
asked. -/
structure Fetched where
  deliveries : Except Error (List Delivery)
  cache : Cache
  asked : Bool

/-- Fetches a source through a cache. -/
def fetch (cache : Cache) (source : Source) : Fetched :=
  match source.revision with
  | none => { deliveries := source.deliveries, cache, asked := true }
  | some revision =>
    let key : CacheKey := ⟨source.id, revision⟩
    match cache.get? key with
    | some hit => { deliveries := .ok hit, cache, asked := false }
    | none =>
      match source.deliveries with
      | .ok files => { deliveries := .ok files, cache := cache.insert key files, asked := true }
      | .error e => { deliveries := .error e, cache, asked := true }

end Cache

end Affinity
