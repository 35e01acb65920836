import Affinity.Command.Run
import Affinity.Python.Statement

/-!
# The program

Answers the questions of the command from the disk, the environment and the clock, and writes what
it leaves behind.
-/

namespace Affinity.Main

/-- The value of an action, or a default if it fails. -/
def orElse {α : Type} (default : α) (action : IO α) : IO α := do
  try action catch _ => return default

/-! ## Folders -/

/-- The bytes of a file, if it can be read. -/
def bytes? (path : String) : IO (Option Bytes) :=
  orElse none do return some (← IO.FS.readBinFile path).toList

/-- The rules of a folder. -/
def rulesOf (folder : String) : IO FolderRules := do
  let ignore ← bytes? (folder ++ "/.ignore")
  let gitignore ← bytes? (folder ++ "/.gitignore")
  let exclude ← bytes? (folder ++ "/.git/info/exclude")
  return .ofFiles fun
    | [".ignore"] => ignore
    | [".gitignore"] => gitignore
    | _ => exclude

mutual

/-- What stands in a folder. -/
partial def folderEntry (folder : String) : IO Entry := do
  let found ← orElse #[] do (← IO.FS.realPath folder).readDir
  let entries ← found.toList.mapM fun e => do return (e.fileName, ← entryOf e)
  return .folder (← rulesOf folder) entries

/-- What stands at a place in a folder; links are not followed. -/
partial def entryOf (e : IO.FS.DirEntry) : IO Entry :=
  orElse .other do
    match (← e.path.symlinkMetadata).type with
    | .file => return .file
    | .dir => folderEntry e.path.toString
    | _ => return .other

end

/-- The folders around a folder, the innermost first, each with the names that lead down from it. -/
def above (names : List String) : IO (List FolderLevel) :=
  (List.range names.length).reverse.mapM fun n => do
    let folder := String.join ((names.take n).map ("/" ++ ·))
    return { rules := ← rulesOf folder, below := names.drop n }

/-- The names in an absolute path. -/
def namesOf (path : String) : List String :=
  (Path.mk path).components.filterMap fun
    | .name text => some (String.ofList text)
    | _ => none

/-- What stands at a path, links followed. -/
def checkout? (path : Path) : IO (Option Checkout) :=
  orElse none do
    if path.text.isEmpty then return none
    let real ← IO.FS.realPath path.text
    match (← real.metadata).type with
    | .dir =>
      return some { entry := ← folderEntry real.toString, above := ← above (namesOf real.toString) }
    | .file => return some { entry := .file }
    | _ => return some { entry := .other }

/-! ## The world -/

/-- The parts of some bytes between those that are zero. -/
def splitAtZero (bytes : Bytes) : List Bytes :=
  bytes.foldr (fun b parts =>
    match parts with
    | first :: rest => if b = 0 then [] :: first :: rest else (b :: first) :: rest
    | [] => [[b]]) [[]]

/-- The environment variables. -/
def environment : IO (List (String × String)) := do
  let block := (← bytes? "/proc/self/environ").getD []
  return (splitAtZero block).filterMap fun row =>
    let text := Utf8.decodeLossy row
    let name := text.takeWhile (· != '=')
    match text.drop name.length with
    | _ :: value => some (String.ofList name, String.ofList value)
    | [] => none

/-- The world in which the program runs. -/
def world : World IO where
  checkout? := checkout?
  isFile path := orElse false do
    return (← (← IO.FS.realPath path.text).metadata).type == .file
  read path := do
    try return .ok (← IO.FS.readBinFile path.text).toList
    catch e => return .error (toString e)
  depth := do return (namesOf (← IO.currentDir).toString).length
  environment := environment
  clock := IO.monoMsNow
  isTerminal := do return ← (← IO.getStdout).isTty

end Affinity.Main

open Affinity

/-- Runs the command of some words. -/
def main (words : List String) : IO UInt32 := do
  let outcome ← Outcome.ofWords Main.world words
  (← IO.getStdout).putStr outcome.output
  (← IO.getStderr).putStr outcome.errors
  return outcome.code
