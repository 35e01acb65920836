import Affinity.Glob
import Affinity.Path
import Affinity.Text.Lines

/-!
# Checkouts

A checkout is a folder on disk, together with the ignore files of the folders around it. Its files
are those that no ignore file leaves out; a name that begins with a dot is left out as well, unless
a rule keeps it. A folder that is left out is not entered.

* `IgnoreRule.ofFile` — the rules of an ignore file.
* `IgnoreRule.verdict?` — what some rules say about a path.
* `Checkout.files` — the paths of the files, in ascending order.
-/

namespace Affinity

/-!
## Ignore files

A line of an ignore file is a glob for the paths below its folder that are to be left out. `!`
before the glob keeps them instead; `/` before it binds it to the folder of the file, as does a
slash inside; `/` behind it confines it to folders. Of several rules for a path the last one counts.
Lines that begin with `#`, blank lines and lines that are no glob say nothing.
-/

/-- What is said about a path. -/
inductive Verdict where
  | ignored
  | kept
  deriving DecidableEq, Repr

/-- One rule of an ignore file. -/
structure IgnoreRule where
  glob : Glob
  verdict : Verdict
  /-- The rule is about folders only. -/
  foldersOnly : Bool

namespace IgnoreRule

/-! ## Reading -/

/-- The line without the blanks at its end; a blank after a backslash belongs to the glob. -/
def withoutMargin (line : List Char) : List Char :=
  if endsWith line "\\ " then line else trimEnd line

/-- What stands before the glob: the verdict, whether the glob is bound to the folder of the file,
and the rest of the line. -/
def splitOpening (line : List Char) : Verdict × Bool × List Char :=
  match line with
  | '\\' :: '!' :: rest => (.ignored, false, '!' :: rest)
  | '\\' :: '#' :: rest => (.ignored, false, '#' :: rest)
  | '!' :: '/' :: rest => (.kept, true, rest)
  | '!' :: rest => (.kept, false, rest)
  | '/' :: rest => (.ignored, true, rest)
  | _ => (.ignored, false, line)

/-- Splits off a slash at the end, and a backslash before it. -/
def splitFolderMark (pattern : List Char) : Bool × List Char :=
  match pattern.reverse with
  | '/' :: '\\' :: rest => (true, rest.reverse)
  | '/' :: rest => (true, rest.reverse)
  | _ => (false, pattern)

/-- The glob for paths below the folder of the file: one that is not bound to it and has no slash
describes paths at any depth, and one for all that is in a folder does not describe the folder. -/
def belowFolder (rooted : Bool) (pattern : List Char) : List Char :=
  let bound := rooted || pattern.contains '/' || pattern = ['*', '*']
  let pattern := if bound then pattern else '*' :: '*' :: '/' :: pattern
  if endsWith pattern "/**" then pattern ++ ['/', '*'] else pattern

/-- The rule of a line. -/
def ofLine? (line : List Char) : Option IgnoreRule :=
  let line := withoutMargin line
  if line.isEmpty || startsWith line "#" then none
  else
    let (verdict, rooted, rest) := splitOpening line
    let (foldersOnly, pattern) := splitFolderMark rest
    match Glob.ofChars false (belowFolder rooted pattern) with
    | .ok glob => some { glob, verdict, foldersOnly }
    | .error _ => none

/-- The text of a file up to the first line that is no text, without byte-order marks before it. -/
def readable (bytes : Bytes) : List Char :=
  let text :=
    match Utf8.decode bytes with
    | .ok text => text
    | .error offset => dropWhileEnd (· != '\n') (Utf8.decodeLossy (bytes.take offset))
  text.dropWhile (· = '\uFEFF')

/-- The rules of an ignore file. -/
def ofFile (bytes : Bytes) : List IgnoreRule := (lines (readable bytes)).filterMap ofLine?

/-! ## Verdicts -/

/-- The rule is about the path, given from the folder of the file on. -/
def concerns (rule : IgnoreRule) (path : Bytes) (isFolder : Bool) : Bool :=
  (!rule.foldersOnly || isFolder) && rule.glob.accepts path

/-- The verdict of the last rule that is about the path. -/
def verdict? (rules : List IgnoreRule) (path : Bytes) (isFolder : Bool) : Option Verdict :=
  (rules.findRev? fun rule => rule.concerns path isFolder).map (·.verdict)

end IgnoreRule

/-! ## Folders -/

/-- The ignore files of a folder. -/
structure FolderRules where
  ignore : List IgnoreRule := []
  gitignore : List IgnoreRule := []
  exclude : List IgnoreRule := []

/-- The rules of a folder, given what reads a file in it by the names that lead to the file. -/
def FolderRules.ofFiles (read? : List String → Option Bytes) : FolderRules :=
  let rules (path : List String) : List IgnoreRule := ((read? path).map IgnoreRule.ofFile).getD []
  { ignore := rules [".ignore"]
    gitignore := rules [".gitignore"]
    exclude := rules [".git", "info", "exclude"] }

/-! ## Files of a checkout -/

/-- What stands under a name. -/
inductive Entry where
  | file
  | folder (rules : FolderRules) (entries : List (String × Entry))
  /-- A link, a device or the like. -/
  | other

/-- There is a folder at the place. -/
def Entry.isFolder : Entry → Bool
  | folder .. => true
  | _ => false

/-- A folder on the way down: its rules, and the names that lead from it to the present folder. -/
structure FolderLevel where
  rules : FolderRules
  below : List String

namespace FolderLevel

/-- The level as seen from a folder in the present one. -/
def descend (name : String) (level : FolderLevel) : FolderLevel :=
  { level with below := level.below ++ [name] }

/-- The path from the folder of the level to something in the present folder. -/
def pathTo (level : FolderLevel) (name : String) : Bytes :=
  Utf8.encode ("/".intercalate (level.below ++ [name]))

/-- What one kind of ignore file says: the innermost folder whose file says anything counts. -/
def verdictBy? (kind : FolderRules → List IgnoreRule) (levels : List FolderLevel) (name : String)
    (isFolder : Bool) : Option Verdict :=
  levels.findSome? fun level =>
    IgnoreRule.verdict? (kind level.rules) (level.pathTo name) isFolder

/-- What the ignore files say, the innermost folder first. -/
def verdict? (levels : List FolderLevel) (name : String) (isFolder : Bool) : Option Verdict :=
  verdictBy? (·.ignore) levels name isFolder <|>
    verdictBy? (·.gitignore) levels name isFolder <|>
    verdictBy? (·.exclude) levels name isFolder

/-- Something in the present folder counts. -/
def admits (levels : List FolderLevel) (name : String) (isFolder : Bool) : Bool :=
  match verdict? levels name isFolder with
  | some verdict => verdict = .kept
  | none => !startsWith name.toList "."

end FolderLevel

mutual

/-- The files at or below an entry, each by the names that lead to it; `here` leads to the entry. -/
def Entry.files (levels : List FolderLevel) (here : List String) : Entry → List (List String)
  | .file => [here]
  | .folder rules entries => filesAmong ({ rules, below := [] } :: levels) here entries
  | .other => []

/-- The files at or below the entries of a folder. -/
def filesAmong (levels : List FolderLevel) (here : List String) :
    List (String × Entry) → List (List String)
  | [] => []
  | (name, entry) :: rest =>
    let found :=
      if FolderLevel.admits levels name entry.isFolder then
        entry.files (levels.map (·.descend name)) (here ++ [name])
      else []
    found ++ filesAmong levels here rest

end

/-- What stands at a path, and the folders around it, the innermost first. -/
structure Checkout where
  entry : Entry
  above : List FolderLevel := []

/-- The paths of the files from the checkout on, in ascending order. -/
def Checkout.files (checkout : Checkout) : List Path :=
  let found := checkout.entry.files checkout.above []
  (found.map fun names => Path.mk ("/".intercalate names)).mergeSort fun a b => (compare a b).isLE

end Affinity
