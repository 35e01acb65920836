import Affinity.Command.Switch
import Affinity.Settings.Structured

/-!
# Help and usage problems

* `helpText` — what the program or a task does, and how to ask for it.
* `UsageProblem` — why a command line asks for nothing that can be done; help and the version are
  among the reasons, since they keep the program from doing anything else.
-/

namespace Affinity

/-- The name and the version of the program. -/
def programName : String := "empathizer"

/-- The version that the program reports. -/
def programVersion : String := "0.3.0"

/-- The variable that names the settings file. -/
def settingsVariable : String := "EMPATHIZER_CONFIG"

/-! ## Help -/

/-- What a switch does. `settingsFile` is the value of the variable that names the settings file. -/
def Switch.summary (settingsFile : String) : Switch → String
  | format =>
    "Output format (default: from configuration, else text) " ++
      "[possible values: json, markdown, text]"
  | settings => s!"Configuration file path [env: {settingsVariable}={settingsFile}]"
  | verbose => "Enable verbose output"
  | jobs => "Number of parallel workers (default: number of CPUs)"
  | timeout => "Per-run timeout in seconds (0 disables)"
  | noColor => "Disable colored output"
  | failUnder => "Exit with an error when the empathy score is below this value"
  | help => "Print help"
  | version => "Print version"

/-- Two columns; the second one begins behind the longest entry of the first. -/
def columns (rows : List (String × String)) : String :=
  let width := maxOf (rows.map (·.1.length))
  String.join (rows.map fun (left, right) =>
    "  " ++ left ++ String.ofList (List.replicate (width + 2 - left.length) ' ') ++ right ++ "\n")

/-- How a switch is listed. -/
def Switch.listed (switch : Switch) : String :=
  match switch.letter? with
  | some letter => s!"-{letter}, {switch.display}"
  | none => s!"    {switch.display}"

/-- A headline with two columns below; nothing if they are empty. -/
def helpSection (title : String) (rows : List (String × String)) : String :=
  if rows.isEmpty then "" else s!"\n{title}:\n{columns rows}"

/-- The switches that help lists for a scope. -/
def Scope.switches : Scope → List Switch
  | .task .help => []
  | scope => Switch.allIn scope

/-- How the program is asked for something in a scope. -/
def Scope.usage (scope : Scope) : String :=
  let words :=
    match scope with
    | .program => ["[OPTIONS]", "<COMMAND>"]
    | .task name =>
      name.word :: (if name = .help then [] else ["[OPTIONS]"]) ++ name.places.map (·.1)
  "Usage: " ++ " ".intercalate (programName :: words)

/-- What the program or a task does, and what can be given to it. -/
def helpText (settingsFile : String) (scope : Scope) : String :=
  let about :=
    match scope with
    | .program =>
      "Score how closely a candidate codebase matches the engineering style of a reference codebase"
    | .task name => name.summary
  let tasks := if scope = .program then TaskName.all.map fun t => (t.word, t.summary) else []
  let places := match scope with
    | .program => []
    | .task name => name.places
  s!"{about}\n\n{scope.usage}\n" ++ helpSection "Commands" tasks ++
    helpSection "Arguments" places ++
    helpSection "Options" (scope.switches.map fun s => (s.listed, s.summary settingsFile))

/-! ## Problems -/

/-- A reason why a command line asks for nothing that can be done. -/
inductive UsageProblem where
  /-- Help was asked for. -/
  | help (scope : Scope)
  /-- The version was asked for. -/
  | version
  /-- Nothing was given at all. -/
  | nothingGiven
  /-- There are switches but no task. -/
  | missingTask
  | unknownTask (word : String)
  | unknownArgument (word : String)
  | repeated (switch : Switch)
  /-- A switch or a place has no value, or an empty one. -/
  | missingValue (shown : String)
  /-- A switch that takes no value has one. -/
  | unexpectedValue (switch : Switch) (value : String)
  /-- The value is none of those that the switch takes. -/
  | unknownValue (switch : Switch) (value : String)
  /-- The value is no number, or not one that the switch takes. -/
  | badNumber (switch : Switch) (value : String)
  | missingPlaces (shown : List String)
  deriving Repr

namespace UsageProblem

/-- The problem is a wish for information. -/
def isWish : UsageProblem → Bool
  | help _ => true
  | version => true
  | _ => false

/-- The line that says what is wrong. -/
def cause : UsageProblem → String
  | help _ | version | nothingGiven => ""
  | missingTask => s!"'{programName}' requires a subcommand but one was not provided"
  | unknownTask word => s!"unrecognized subcommand '{word}'"
  | unknownArgument word => s!"unexpected argument '{word}' found"
  | repeated switch => s!"the argument '{switch.display}' cannot be used multiple times"
  | missingValue shown => s!"a value is required for '{shown}' but none was supplied"
  | unexpectedValue switch value =>
    s!"unexpected value '{value}' for '{switch.display}' found; no more were expected"
  | unknownValue switch value => s!"invalid value '{value}' for '{switch.display}'"
  | badNumber switch value => s!"invalid value '{value}' for '{switch.display}'"
  | missingPlaces shown =>
    "the following required arguments were not provided: " ++ " ".intercalate shown

/-- The text shown to people. -/
def message (settingsFile : String) : UsageProblem → String
  | help scope => helpText settingsFile scope
  | version => s!"{programName} {programVersion}\n"
  | nothingGiven => helpText settingsFile .program
  | problem => s!"error: {problem.cause}\n\nFor more information, try '--help'.\n"

end UsageProblem

end Affinity
