import Affinity.Category
import Affinity.Decimal
import Affinity.Glob
import Affinity.Unicode

/-!
# Errors

* `SettingsProblem` — settings that were read but make no sense.
* `SettingsError` — settings that could not be read, or that make no sense.
* `Error` — what can keep a profile, a comparison or the program from finishing. A problem with a
  single file is none: it becomes a warning.
-/

namespace Affinity

/-!
## Texts quoted in messages

A text stands between quotation marks. Inside, quotation marks, backslashes and what cannot be seen
are written with a backslash.
-/

/-- The digits of a number in base sixteen. -/
def hexDigitsOf (n : Nat) : List Char := Nat.toDigits 16 n

/-- A character inside a quoted text. -/
def quotedChar (c : Char) : List Char :=
  if c = '"' then ['\\', '"']
  else if c = '\\' then ['\\', '\\']
  else if c = '\n' then ['\\', 'n']
  else if c = '\r' then ['\\', 'r']
  else if c = '\t' then ['\\', 't']
  else if c = '\x00' then ['\\', '0']
  else if isInvisible c then '\\' :: 'u' :: '\x7b' :: hexDigitsOf c.toNat ++ ['\x7d']
  else [c]

/-- A text as it is quoted in messages. -/
def quotedText (s : String) : String :=
  String.ofList ('"' :: s.toList.flatMap quotedChar ++ ['"'])

/-! ## Settings -/

/-- A value among the settings that makes no sense. -/
inductive SettingsProblem (K : Type) where
  /-- A weight is negative or not finite. -/
  | weight (category : Category) (value : K)
  /-- The weights do not sum to one. -/
  | weightSum (sum : K)
  | unknownLanguage (name : String)
  /-- An importance is not positive or not finite. -/
  | importance (name : String) (value : K)
  | noFilesPerLanguage
  | shortWindow
  | antiPatternThreshold
  | complexityThreshold
  | exclude (pattern : String) (cause : GlobError)

/-- The text shown to people. -/
def SettingsProblem.message : SettingsProblem Float → String
  | weight category value =>
    s!"weight for {category.key} must be a non-negative number, got {plainText value}"
  | weightSum sum => s!"category weights must sum to 1.0, got {fixed 6 sum}"
  | unknownLanguage name => s!"unknown language in languages.importance_multiplier: {name}"
  | importance name value =>
    s!"importance multiplier for {name} must be positive, got {plainText value}"
  | noFilesPerLanguage => "limits.max_files_per_language must be at least 1"
  | shortWindow => "thresholds.duplication_window must be at least 2"
  | antiPatternThreshold => "anti-pattern thresholds must be positive"
  | complexityThreshold => "thresholds.complexity_per_function must be positive"
  | exclude pattern cause =>
    s!"invalid exclude pattern {quotedText pattern}: " ++
      s!"error parsing glob '{pattern}': {cause.message}"

/-- A reason why there are no settings. -/
inductive SettingsError where
  | invalid (problem : SettingsProblem Float)
  | fileNotFound (path : String)
  /-- A file is not written as settings are. -/
  | malformed (path : String)
  /-- A value is not of the type that its setting takes. -/
  | misfit

/-- The text shown to people. -/
def SettingsError.message : SettingsError → String
  | invalid problem => problem.message
  | fileNotFound path => s!"config file not found: {path}"
  | malformed path => s!"{path} is not a valid settings file"
  | misfit => "a setting has a value of the wrong type"

/-! ## All errors -/

/-- A reason to stop. -/
inductive Error where
  /-- A file could not be read. -/
  | unreadable (reason : String)
  | fileNotFound (path : String)
  | unsupportedLanguage (path : String)
  /-- The bytes of a file are not a text, from the given offset on. -/
  | notText (path : String) (offset : Nat)
  | settings (cause : SettingsError)
  | notADirectory (repository : String)
  /-- The number of workers was set to zero. -/
  | noWorkers
  | noAnalyzableInput
  /-- A score did not reach the required one. -/
  | belowThreshold (score required : Float)

/-- The text shown to people. -/
def Error.message : Error → String
  | unreadable reason => s!"I/O error: {reason}"
  | fileNotFound path => s!"File not found: {path}"
  | unsupportedLanguage path => s!"Unsupported language for file: {path}"
  | notText path offset => s!"Parse error in {path}: invalid UTF-8 at byte {offset}"
  | settings cause => s!"Configuration error: {cause.message}"
  | notADirectory repository => s!"Failed to fetch repository {repository}: not a directory"
  | noWorkers => "Invalid argument: --jobs must be at least 1"
  | noAnalyzableInput =>
    "No analyzable input: neither repository contains a supported source file"
  | belowThreshold score required =>
    s!"Threshold violation: empathy score {fixed 1 score} is below {fixed 1 required}"

end Affinity
