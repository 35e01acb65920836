import Affinity.Json
import Affinity.Settings.Basic
import Affinity.Settings.Structured
import Affinity.Text.Number
import Affinity.Text.Utf8
import Affinity.Toml

/-!
# Loading settings

Settings come in layers: the defaults, files, and environment variables. A later layer takes the
place of what it sets in the earlier ones.

* `Variable.overlay` — the settings with what the variables set.
* `Settings.load` — the settings of some files and variables, or what is wrong with them.
-/

namespace Affinity

/-! ## The settings file with every default -/

/-- The lines of a settings file that sets every value to its default, except that some folders and
files are left out. -/
def defaultSettingsLines : List String := [
    "# empathizer configuration",
    "#",
    "# Place this file at the root of the directory you run from as",
    "# `empathizer.toml` or `.empathizer/empathizer.toml`. Every key is optional.",
    "# Environment variables override file values, e.g.",
    "# EMPATHIZER_RUNTIME__WORKERS=4",
    "",
    "# Glob patterns excluded before language detection.",
    "exclude = [",
    "    \"**/node_modules/**\",",
    "    \"**/vendor/**\",",
    "    \"**/*.min.js\",",
    "    \"**/*.min.css\",",
    "]",
    "",
    "# Category weights. Must sum to 1.0.",
    "[weights]",
    "naming = 0.12",
    "documentation = 0.12",
    "modularity = 0.10",
    "complexity = 0.12",
    "error_handling = 0.10",
    "testing = 0.09",
    "security = 0.09",
    "style_consistency = 0.08",
    "patterns = 0.06",
    "performance = 0.06",
    "comments = 0.06",
    "",
    "# How heavily alignment in a language counts toward the final score.",
    "# Languages not listed use 1.0. Values must be positive.",
    "[languages.importance_multiplier]",
    "python = 1.0",
    "",
    "[limits]",
    "max_files_per_language = 500",
    "max_file_bytes = 1048576",
    "",
    "[runtime]",
    "# 0 = one worker per CPU",
    "workers = 0",
    "# Files not started within this many seconds are skipped; 0 disables.",
    "timeout_secs = 300",
    "",
    "[thresholds]",
    "duplication_window = 5",
    "god_class_methods = 20",
    "god_class_lines = 500",
    "spaghetti_lines = 50",
    "spaghetti_nesting = 4",
    "long_parameter_list = 6",
    "monolithic_file_lines = 500",
    "complexity_per_function = 10.0",
    "max_recommendations = 5",
    "",
    "[output]",
    "format = \"text\"",
    "color = true"]

/-- The text of that file. -/
def defaultSettingsText : String := String.join (defaultSettingsLines.map (· ++ "\n"))

end Affinity

namespace Affinity.Variable

/-!
## Settings from environment variables

A variable whose name begins with `EMPATHIZER_`, in any letter case, sets the value under the rest
of its name; two underscores stand between the names of a table and of a field. Its text is read as
a value where that is possible: a truth value, a number, a text in quotes, an array in brackets or a
table in braces. Otherwise it is a text.

* `Variable.overlay` — the settings with what the variables set.
-/

/-- What is left of a text. -/
abbrev Rest := List Char

/-! ### Values -/

/-- A character that may stand around a value. -/
def isSpace (c : Char) : Bool :=
  c = ' ' || c = '\t' || c = '\n' || c = '\x0c' || c = '\r'

/-- What follows the characters around a value. -/
def skipSpace (s : Rest) : Rest := s.dropWhile isSpace

/-- The character ends a word. -/
def isSeparator (c : Char) : Bool :=
  c = ',' || c = '\x7b' || c = '\x7d' || c = '[' || c = ']'

/-- The value of a word: a number with a point, a whole number, or a text. -/
def wordValue (word : List Char) : Json :=
  let point? := if word.contains '.' then decimal? word else none
  match point?, natural? word, integer? word with
  | some x, _, _ => .float x
  | _, some n, _ => .int n
  | _, _, some n => .int n
  | _, _, _ => .str (String.ofList word)

/-- The character after a backslash. -/
def readEscape? : Rest → Option (Char × Rest)
  | 'u' :: rest => Json.readUnicode rest
  | '/' :: _ => none
  | c :: rest => (Json.simpleEscape? c).map (·, rest)
  | [] => none

/-- Reads the rest of a text in quotes; `text` is what was read, backwards. -/
def readText? : Nat → List Char → Rest → Option (String × Rest)
  | 0, _, _ => none
  | fuel + 1, text, s =>
    match s with
    | '"' :: rest => some (String.ofList text.reverse, rest)
    | '\\' :: rest => (readEscape? rest).bind fun (c, rest) => readText? fuel (c :: text) rest
    | c :: rest => readText? fuel (c :: text) rest
    | [] => none

/-- A character of a key without quotes. -/
def isKeyChar (c : Char) : Bool := c.isAlphanum || c = '_' || c = '-'

/-- Reads the name of a field. -/
def readKey? (s : Rest) : Option (String × Rest) :=
  match s with
  | '"' :: rest => readText? (s.length + 1) [] rest
  | _ =>
    let name := s.takeWhile isKeyChar
    if name.isEmpty then none else some (String.ofList name, s.drop name.length)

mutual

/-- Reads a value with the blanks around it. -/
def readValue? : Nat → Rest → Option (Json × Rest)
  | 0, _ => none
  | fuel + 1, s =>
    let s := skipSpace s
    let read? : Option (Json × Rest) :=
      match Json.afterWord? "true" s, Json.afterWord? "false" s with
      | some rest, _ => some (.bool true, rest)
      | _, some rest => some (.bool false, rest)
      | _, _ =>
        match s with
        | '\x7b' :: rest => readFields? fuel [] rest
        | '[' :: rest => readItems? fuel [] rest
        | '"' :: rest => (readText? (s.length + 1) [] rest).map fun (t, rest) => (.str t, rest)
        | '\'' :: c :: '\'' :: rest => some (.str (String.singleton c), rest)
        | '\'' :: _ => none
        | _ =>
          let word := s.takeWhile fun c => !isSeparator c
          some (wordValue (trim word), s.drop word.length)
    read?.map fun (value, rest) => (value, skipSpace rest)

/-- Reads the items of an array up to its end; those read so far are given backwards. -/
def readItems? : Nat → List Json → Rest → Option (Json × Rest)
  | 0, _, _ => none
  | fuel + 1, items, s =>
    match s with
    | ']' :: rest => some (.arr items.reverse, rest)
    | _ =>
      match readValue? fuel s with
      | none => none
      | some (item, rest) =>
        match rest with
        | ',' :: rest => readItems? fuel (item :: items) rest
        | ']' :: rest => some (.arr (item :: items).reverse, rest)
        | _ => none

/-- Reads the fields of a table up to its end. -/
def readFields? : Nat → List (String × Json) → Rest → Option (Json × Rest)
  | 0, _, _ => none
  | fuel + 1, fields, s =>
    match s with
    | '\x7d' :: rest => some (.obj fields, rest)
    | _ =>
      match readKey? (skipSpace s) with
      | none => none
      | some (name, rest) =>
        match skipSpace rest with
        | '=' :: rest =>
          match readValue? fuel rest with
          | none => none
          | some (value, rest) =>
            let fields := Json.putField name value fields
            match rest with
            | ',' :: rest => readFields? fuel fields rest
            | '\x7d' :: rest => some (.obj fields, rest)
            | _ => none
        | _ => none

end

/-- The value of a variable's text. -/
def valueOf (text : String) : Json :=
  let s := text.toList
  match readValue? (2 * s.length + 2) s with
  | some (value, []) => value
  | _ => .str text

/-! ### Names -/

/-- How the names of variables begin. -/
def namePrefix : List Char := "empathizer_".toList

/-- The parts of a text between pairs of underscores and between points. -/
def splitName : List Char → List (List Char)
  | '_' :: '_' :: rest => [] :: splitName rest
  | '.' :: rest => [] :: splitName rest
  | c :: rest =>
    match splitName rest with
    | first :: others => (c :: first) :: others
    | [] => [[c]]
  | [] => [[]]

/-- The path of the setting that a variable sets; nothing if it sets none. -/
def path? (name : String) : Option (List String) :=
  let s := (trim name.toList).map Char.toLower
  if namePrefix.isPrefixOf s then
    let parts := splitName (s.drop namePrefix.length)
    if parts.any List.isEmpty then none else some (parts.map String.ofList)
  else none

/-- A value under a path. -/
def nested (value : Json) : List String → Json
  | [] => value
  | part :: rest => .obj [(part, nested value rest)]

/-- The settings with what the variables set, one after the other. -/
def overlay (settings : Json) (environment : List (String × String)) : Json :=
  environment.foldl (fun settings (name, text) =>
    match path? name with
    | some path => Json.overlay settings (nested (valueOf text) path)
    | none => settings) settings

end Affinity.Variable

namespace Affinity

/-! ## Layers -/

/-- A settings file. -/
structure SettingsFile where
  path : String
  bytes : Bytes

namespace SettingsFile

/-- Where settings are looked for in a folder; later files take the place of earlier ones. -/
def names : List String := ["empathizer.toml", ".empathizer/empathizer.toml"]

/-- The value of a file. -/
def value (file : SettingsFile) : Except SettingsError Json :=
  match Utf8.decode file.bytes with
  | .error _ => .error (.malformed file.path)
  | .ok text =>
    match Toml.parse? text with
    | some value => .ok value
    | none => .error (.malformed file.path)

end SettingsFile

namespace Settings

/-- The settings that make sense. -/
def checked (settings : Settings Float) : Except SettingsError (Settings Float) :=
  match settings.problem? with
  | some problem => .error (.invalid problem)
  | none => .ok settings

/-- The settings of some files, in the order in which they count, and of some variables. -/
def load (files : List SettingsFile) (environment : List (String × String)) :
    Except SettingsError (Settings Float) := do
  let layers ← files.mapM SettingsFile.value
  let defaults : Settings Float := .standard
  let value := Variable.overlay (layers.foldl Json.overlay defaults.toJson) environment
  match ofJson? value with
  | some settings => checked settings
  | none => .error .misfit

end Settings

end Affinity
