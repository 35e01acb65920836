import Affinity.Settings.Basic

/-!
# Tasks and switches

The first word of a command line that is no switch names a task. A switch begins with one hyphen and
a letter or with two hyphens and a word; some take a value.
-/

namespace Affinity

/-- What the program can do. -/
inductive TaskName where
  | compare
  | profile
  | languages
  | initSettings
  | help
  deriving DecidableEq, Repr

namespace TaskName

/-- The tasks in the order of the list of commands. -/
def all : List TaskName := [compare, profile, languages, initSettings, help]

/-- The word that asks for the task. -/
def word : TaskName → String
  | compare => "compare"
  | profile => "profile"
  | languages => "languages"
  | initSettings => "init-config"
  | help => "help"

/-- All words that ask for the task. -/
def words (task : TaskName) : List String :=
  match task with
  | compare => [task.word, "cmp"]
  | languages => [task.word, "langs"]
  | _ => [task.word]

/-- The task that a word stands for. -/
def ofWord? (word : String) : Option TaskName := all.find? fun task => task.words.contains word

/-- What the task does, in one line. -/
def summary : TaskName → String
  | compare => "Compare a candidate repository against a reference repository"
  | profile => "Profile a single repository"
  | languages => "List supported languages and extensions"
  | initSettings => "Print the default configuration"
  | help => "Print this message or the help of the given subcommand(s)"

/-- The places that the task takes: how each is shown, and what it is. -/
def places : TaskName → List (String × String)
  | compare => [
      ("<REFERENCE>", "Reference repository (the team's codebase)"),
      ("<CANDIDATE>", "Candidate repository (the code being evaluated)")]
  | profile => [("[PATH]", "Repository to analyze [default: .]")]
  | help => [("[COMMAND]...", "Print help for the subcommand(s)")]
  | _ => []

end TaskName

/-- Where switches stand: before the task, or behind it. -/
inductive Scope where
  | program
  | task (name : TaskName)
  deriving DecidableEq, Repr

/-- What a switch is about. -/
inductive Switch where
  | format
  | settings
  | verbose
  | jobs
  | timeout
  | noColor
  | failUnder
  | help
  | version
  deriving DecidableEq, Repr

namespace Switch

/-- The switches in the order of the list of options. -/
def all : List Switch :=
  [format, failUnder, settings, verbose, jobs, timeout, noColor, help, version]

/-- The letter of the switch. -/
def letter? : Switch → Option Char
  | format => some 'f'
  | settings => some 'c'
  | verbose => some 'v'
  | jobs => some 'j'
  | help => some 'h'
  | version => some 'V'
  | _ => none

/-- The word of the switch. -/
def word : Switch → String
  | format => "format"
  | settings => "config"
  | verbose => "verbose"
  | jobs => "jobs"
  | timeout => "timeout"
  | noColor => "no-color"
  | failUnder => "fail-under"
  | help => "help"
  | version => "version"

/-- How the value of the switch is shown; nothing if it takes none. -/
def valueName? : Switch → Option String
  | format => some "FORMAT"
  | settings => some "CONFIG"
  | jobs => some "JOBS"
  | timeout => some "TIMEOUT"
  | failUnder => some "FAIL_UNDER"
  | _ => none

/-- A value belongs to the switch. -/
def takesValue (switch : Switch) : Bool := switch.valueName?.isSome

/-- The switch with its value, as it is shown. -/
def display (switch : Switch) : String :=
  match switch.valueName? with
  | some value => s!"--{switch.word} <{value}>"
  | none => s!"--{switch.word}"

/-- The switch can stand in a scope. -/
def isIn (scope : Scope) : Switch → Bool
  | failUnder => scope = .task .compare
  | version => scope = .program
  | _ => true

/-- The switches that can stand in a scope. -/
def allIn (scope : Scope) : List Switch := all.filter (·.isIn scope)

/-- The switch of a scope that a letter stands for. -/
def ofLetter? (scope : Scope) (letter : Char) : Option Switch :=
  (allIn scope).find? fun switch => switch.letter? = some letter

/-- The switch of a scope that a word stands for. -/
def ofWord? (scope : Scope) (word : String) : Option Switch :=
  (allIn scope).find? fun switch => switch.word = word

end Switch

end Affinity
