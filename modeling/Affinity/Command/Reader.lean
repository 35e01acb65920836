import Affinity.Command.Usage
import Affinity.Path
import Affinity.Settings.Basic
import Affinity.Text.Number

/-!
# Commands and their command lines

* `Command` — what a command line asks for: a task, and switches that count for every task.
* `Command.ofWords` — the command of some words, or why there is none.
-/

namespace Affinity

/-! ## Commands -/

/-- Something to do. -/
inductive Task where
  /-- Compares two repositories; the score may be required to reach a number. -/
  | compare (reference candidate : Path) (required : Option Float)
  | profile (repository : Path)
  | languages
  | initSettings

/-- A task, and what was set for it. -/
structure Command where
  task : Task
  format : Option Format := none
  settingsFile : Option Path := none
  verbose : Bool := false
  jobs : Option Nat := none
  timeout : Option Nat := none
  noColor : Bool := false

/-!
## Reading command lines

The words of a scope are read from left to right. A switch that takes a value and has none attached
waits for the next word, which is its value unless it begins with a hyphen. A value is looked at
when the next switch or place has been recognized, or when the words are over; so a word that is not
recognized is reported before a wrong value. After two hyphens all words are places.
-/

/-! ### Values -/

/-- What was given in a scope. -/
structure Given where
  switches : List Switch := []
  format : Option Format := none
  settingsFile : Option String := none
  jobs : Option Nat := none
  timeout : Option Nat := none
  required : Option Float := none
  places : List String := []

/-- The format that a value of the switch stands for, in this letter case. -/
def formatOfValue? (value : String) : Option Format :=
  if value = "md" then some .markdown else Format.ofKey? value

/-- A score that can be required: a number from zero to one hundred. -/
def requiredScore? (value : String) : Option Float :=
  (decimal? value.toList).filter fun x => 0.0 ≤ x && x ≤ 100.0

namespace Given

/-- Sets the value of a switch. -/
def withValue (given : Given) (switch : Switch) (value : String) : Except UsageProblem Given :=
  let orBad {α : Type} (found : Option α) : Except UsageProblem α :=
    match found with
    | some x => .ok x
    | none => .error (.badNumber switch value)
  match switch with
  | .format =>
    match formatOfValue? value with
    | some format => .ok { given with format := some format }
    | none => .error (.unknownValue switch value)
  | .settings =>
    if value.isEmpty then .error (.missingValue switch.display)
    else .ok { given with settingsFile := some value }
  | .jobs => (orBad (natural? value.toList)).map fun n => { given with jobs := some n }
  | .timeout => (orBad (natural? value.toList)).map fun n => { given with timeout := some n }
  | .failUnder => (orBad (requiredScore? value)).map fun x => { given with required := some x }
  | _ => .ok given

/-- Takes in a switch with its value, if it has one. -/
def withSwitch (given : Given) (switch : Switch) (value : Option String) :
    Except UsageProblem Given :=
  if switch.takesValue && value.isNone then .error (.missingValue switch.display)
  else if given.switches.contains switch then .error (.repeated switch)
  else
    let given := { given with switches := switch :: given.switches }
    match value with
    | some value => given.withValue switch value
    | none => .ok given

/-- Takes in a place. -/
def withPlace (given : Given) (scope : Scope) (place : String) : Except UsageProblem Given :=
  let shown := match scope with
    | .task name => ((name.places[given.places.length]?).map (·.1)).getD ""
    | .program => ""
  if place.isEmpty then .error (.missingValue shown)
  else .ok { given with places := given.places ++ [place] }

end Given

/-! ### Words -/

/-- Something that was recognized and not yet taken in. -/
inductive Pending where
  | none
  /-- A switch; `waits` says that the next word may be its value. -/
  | switch (switch : Switch) (value : Option String) (waits : Bool)
  | place (text : String)

/-- The state of reading a scope. -/
structure Reading where
  given : Given := {}
  pending : Pending := .none
  /-- The number of places recognized. -/
  places : Nat := 0
  /-- Two hyphens were read. -/
  placesOnly : Bool := false

namespace Reading

/-- A reading goes on or ends with the word for a task. -/
inductive Next where
  | more (reading : Reading)
  | task (name : TaskName)

/-- Takes in what is pending. -/
def settle (reading : Reading) (scope : Scope) : Except UsageProblem Reading :=
  let given :=
    match reading.pending with
    | .none => Except.ok reading.given
    | .switch switch value _ => reading.given.withSwitch switch value
    | .place text => reading.given.withPlace scope text
  given.map fun given => { reading with given, pending := .none }

/-- The switch that waits for a value. -/
def waiting? (reading : Reading) : Option Switch :=
  match reading.pending with
  | .switch switch none true => some switch
  | _ => none

/-- Takes in a switch without a value. -/
def mark (reading : Reading) (scope : Scope) (switch : Switch) : Except UsageProblem Reading := do
  let reading ← reading.settle scope
  match switch with
  | .help => .error (.help scope)
  | .version => .error .version
  | _ => return { reading with given := ← reading.given.withSwitch switch none }

/-- Recognizes a switch that takes a value, with the value attached to it. -/
def recognize (reading : Reading) (scope : Scope) (switch : Switch) (attached : Option String) :
    Except UsageProblem Reading := do
  let reading ← reading.settle scope
  match attached with
  | some value => return { reading with given := ← reading.given.withSwitch switch (some value) }
  | none => return { reading with pending := .switch switch none true }

/-- Reads a word after two hyphens, perhaps with a value behind an equals sign. -/
def longSwitch (reading : Reading) (scope : Scope) (word : List Char) :
    Except UsageProblem Reading :=
  let name := word.takeWhile (· != '=')
  let attached :=
    match word.drop name.length with
    | '=' :: value => some (String.ofList value)
    | _ => none
  match Switch.ofWord? scope (String.ofList name) with
  | none => .error (.unknownArgument ("--" ++ String.ofList name))
  | some switch =>
    if switch.takesValue then reading.recognize scope switch attached
    else
      match attached with
      | some value => .error (.unexpectedValue switch value)
      | none => reading.mark scope switch

/-- Reads letters after a hyphen. What follows the letter of a switch that takes a value is the
value, perhaps behind an equals sign. -/
def letters (reading : Reading) (scope : Scope) : List Char → Except UsageProblem Reading
  | [] => .ok reading
  | c :: rest =>
    match Switch.ofLetter? scope c with
    | none => .error (.unknownArgument (String.ofList ['-', c]))
    | some switch =>
      if switch.takesValue then
        let attached :=
          match rest with
          | [] => none
          | '=' :: value => some (String.ofList value)
          | value => some (String.ofList value)
        reading.recognize scope switch attached
      else
        match reading.mark scope switch with
        | .ok reading => letters reading scope rest
        | .error problem => .error problem

/-- The number of places that a scope takes. -/
def capacity : Scope → Nat
  | .program => 0
  | .task name => name.places.length

/-- Reads a place. -/
def place (reading : Reading) (scope : Scope) (word : String) : Except UsageProblem Reading := do
  if capacity scope ≤ reading.places then
    let known := reading.placesOnly && (TaskName.ofWord? word).isSome
    if scope = .program && !known then .error (.unknownTask word)
    else .error (.unknownArgument word)
  else
    let reading ← reading.settle scope
    return { reading with pending := .place word, places := reading.places + 1 }

/-- Reads a word that is no switch. -/
def plain (reading : Reading) (scope : Scope) (word : String) : Except UsageProblem Reading :=
  match reading.waiting? with
  | some switch => .ok { reading with pending := .switch switch (some word) false }
  | none => reading.place scope word

/-- Reads a word. -/
def next (reading : Reading) (scope : Scope) (word : String) : Except UsageProblem Next :=
  let task? :=
    if scope = .program && !reading.placesOnly && reading.waiting?.isNone then
      TaskName.ofWord? word
    else none
  match task? with
  | some name => .ok (.task name)
  | none =>
    let after :=
      if reading.placesOnly then reading.place scope word
      else
        match word.toList with
        | ['-', '-'] => .ok { reading with placesOnly := true }
        | '-' :: '-' :: rest => reading.longSwitch scope rest
        | '-' :: c :: rest => reading.letters scope (c :: rest)
        | _ => reading.plain scope word
    after.map .more

/-- Reads words up to the one for a task, and gives that task with the words behind it. -/
def words (reading : Reading) (scope : Scope) :
    List String → Except UsageProblem (Reading × Option (TaskName × List String))
  | [] => .ok (reading, none)
  | word :: rest =>
    match reading.next scope word with
    | .error problem => .error problem
    | .ok (.more reading) => words reading scope rest
    | .ok (.task name) => .ok (reading, some (name, rest))

/-- What was given when the words are over. The settings file may be named by a variable instead. -/
def finish (reading : Reading) (scope : Scope) (settingsFile : Option String) :
    Except UsageProblem Given := do
  let reading ← reading.settle scope
  if settingsFile = some "" && reading.given.settingsFile.isNone then
    .error (.missingValue Switch.settings.display)
  else return reading.given

end Reading

/-! ### Commands -/

namespace Command

/-- Why words behind the task of showing help ask for help, or for nothing. -/
def helpProblem : List String → UsageProblem
  | [] => .help .program
  | word :: rest =>
    match TaskName.ofWord? word, rest with
    | none, _ => .unknownTask word
    | some name, [] => .help (.task name)
    | some _, next :: _ => .unknownTask next

/-- The task with the places and the score given for it. -/
def taskOf (name : TaskName) (given : Given) : Except UsageProblem Task :=
  match name, given.places with
  | .compare, [reference, candidate] => .ok (.compare ⟨reference⟩ ⟨candidate⟩ given.required)
  | .compare, places =>
    .error (.missingPlaces ((TaskName.compare.places.drop places.length).map (·.1)))
  | .profile, places => .ok (.profile ⟨places.headD "."⟩)
  | .languages, _ => .ok .languages
  | .initSettings, _ => .ok .initSettings
  | .help, words => .error (helpProblem words)

/-- The command of a task; what is given behind the task counts before what is given in front of it.
-/
def ofGiven (task : Task) (inFront behind : Given) (settingsFile : Option String) : Command where
  task := task
  format := behind.format <|> inFront.format
  settingsFile := (behind.settingsFile <|> inFront.settingsFile <|> settingsFile).map Path.mk
  verbose := behind.switches.contains .verbose || inFront.switches.contains .verbose
  jobs := behind.jobs <|> inFront.jobs
  timeout := behind.timeout <|> inFront.timeout
  noColor := behind.switches.contains .noColor || inFront.switches.contains .noColor

/-- The command of some words; `settingsFile` is the value of the variable that names the settings
file. -/
def ofWords (settingsFile : Option String) (words : List String) : Except UsageProblem Command := do
  let (reading, found) ← Reading.words {} .program words
  match found with
  | none =>
    let given ← reading.finish .program settingsFile
    if given.switches.isEmpty && settingsFile.isNone then .error .nothingGiven
    else .error .missingTask
  | some (.help, rest) => .error (helpProblem rest)
  | some (name, rest) =>
    let (inner, _) ← Reading.words {} (.task name) rest
    let behind ← inner.finish (.task name) settingsFile
    let task ← taskOf name behind
    let inFront ← reading.finish .program settingsFile
    return ofGiven task inFront behind settingsFile

end Command

end Affinity
