import Affinity.Command.Reader
import Affinity.Comparison.Basic
import Affinity.Profile.Batch
import Affinity.Report
import Affinity.Settings.Load
import Affinity.World

/-!
# Running commands

* `World.settings` — the settings for a folder.
* `Command.settings` — the settings that hold for a command.
* `Command.run` — does what a command asks for.
* `Outcome.ofWords` — what the program does with the words of a command line.
-/

namespace Affinity

/-- What the program leaves behind: what it wrote, and its exit code. -/
structure Outcome where
  output : String := ""
  errors : String := ""
  code : UInt32 := 0
  deriving Repr

namespace World

variable {m : Type → Type} [Monad m] (world : World m)

/-! ## Settings -/

/-- A settings file with its bytes. -/
def settingsFile (path : Path) : m (Except SettingsError SettingsFile) := do
  match ← world.read path with
  | .ok bytes => return .ok ⟨path.text, bytes⟩
  | .error _ => return .error (.malformed path.text)

/-- The first of some paths at which a file stands. -/
def firstFile? : List Path → m (Option Path)
  | [] => return none
  | path :: rest => do
    if ← world.isFile path then return some path else firstFile? rest

/-- The places at which a settings file is looked for: its path from the folder in which the program
runs, and from each folder around it. An absolute path stands for one place. -/
def searchPlaces (depth : Nat) (path : Path) : List Path :=
  if startsWith path.text.toList "/" then [path]
  else (List.range (depth + 1)).map fun n =>
    ⟨String.join (List.replicate n "../") ++ path.text⟩

/-- The settings files that count for a folder. -/
def settingsFiles (folder : Path) : m (Except SettingsError (List SettingsFile)) := do
  let depth ← world.depth
  let paths ← SettingsFile.names.mapM fun name =>
    world.firstFile? (searchPlaces depth (folder.join ⟨name⟩))
  return (← (paths.filterMap id).mapM world.settingsFile).mapM id

/-- The settings for a folder. -/
def settings (folder : Path) : m (Except SettingsError (Settings Float)) := do
  let environment ← world.environment
  return (← world.settingsFiles folder).bind fun files => Settings.load files environment

/-- The settings of a file that was asked for. -/
def settingsOf (path : Path) : m (Except SettingsError (Settings Float)) := do
  let environment ← world.environment
  if (← world.checkout? path).isNone then return .error (.fileNotFound path.text)
  else return (← world.settingsFile path).bind fun file => Settings.load [file] environment

/-! ## Profiles -/

/-- The moment after which no further file is begun. -/
def deadline (settings : Settings Float) : m (Option Nat) := do
  let seconds := settings.runtime.timeoutSecs
  if seconds = 0 then return none else return some ((← world.clock) + 1000 * seconds)

/-- The deadline is over. -/
def isOver (deadline : Option Nat) : m Bool := do
  match deadline with
  | some moment => return decide (moment ≤ (← world.clock))
  | none => return false

/-- Takes in the files of a set one after the other, as long as the deadline is not over. -/
def gather [Python.Grammar] (deadline : Option Nat) : Batch → List SourceFile → m Batch
  | batch, [] => return batch
  | batch, file :: rest => do
    gather deadline (batch.next file (← world.isOver deadline)) rest

/-- The profile of some deliveries. -/
def profile [Python.Grammar] (settings : Settings Float) (name : String)
    (deliveries : List Delivery) : m (Except Error (Profile Float)) := do
  match FileSet.ofDeliveries settings deliveries with
  | .error e => return .error e
  | .ok set =>
    let batch ← world.gather (← world.deadline settings) {} set.files
    return .ok (.ofBatch settings name set.coverage batch)

end World

namespace Command

variable {m : Type → Type} [Monad m]

/-- The settings with what the command sets. -/
def override (command : Command) (settings : Settings Float) : Except Error (Settings Float) :=
  if command.jobs = some 0 then .error .noWorkers
  else
    let settings := { settings with
      runtime := {
        workers := command.jobs.getD settings.runtime.workers
        timeoutSecs := command.timeout.getD settings.runtime.timeoutSecs }
      output := { settings.output with color := settings.output.color && !command.noColor } }
    settings.checked.mapError .settings

/-- The settings that hold for the command; without a settings file they are those for the folder.
-/
def settings (command : Command) (world : World m) (folder : Path) :
    m (Except Error (Settings Float)) := do
  let found ←
    match command.settingsFile with
    | some path => world.settingsOf path
    | none => world.settings folder
  return (found.mapError Error.settings).bind command.override

/-- The format in which the command reports. -/
def formatFor (command : Command) (settings : Settings Float) : Format :=
  command.format.getD settings.output.format

/-- The report on one repository. -/
def profileReport [Python.Grammar] (command : Command) (world : World m) (repository : Path) :
    ExceptT Error m String := do
  let settings ← ExceptT.mk (command.settings world repository)
  let deliveries ← ExceptT.mk (world.fetch repository)
  let profile ← ExceptT.mk (world.profile settings repository.text deliveries)
  let color := settings.output.color && (← world.isTerminal)
  return Report.profile (command.formatFor settings) color profile

/-- The report on two repositories, and the error if the score misses the required one. A repository
that is compared with itself is read once. -/
def comparisonReport [Python.Grammar] (command : Command) (world : World m)
    (reference candidate : Path) (required : Option Float) :
    ExceptT Error m (String × Option Error) := do
  let settings ← ExceptT.mk (command.settings world reference)
  let referenceFiles ← ExceptT.mk (world.fetch reference)
  let referenceProfile ← ExceptT.mk (world.profile settings reference.text referenceFiles)
  let candidateFiles ←
    if candidate.text = reference.text then pure referenceFiles
    else ExceptT.mk (world.fetch candidate)
  let candidateProfile ← ExceptT.mk (world.profile settings candidate.text candidateFiles)
  let result ← ExceptT.mk (pure (Comparison.ofProfiles settings referenceProfile candidateProfile))
  let color := settings.output.color && (← world.isTerminal)
  let report := Report.comparison (command.formatFor settings) color referenceProfile
    candidateProfile result
  return (report, required.bind fun required =>
    if result.score < required then some (.belowThreshold result.score required) else none)

/-- What a command writes, and what is wrong with the result. -/
def report [Python.Grammar] (command : Command) (world : World m) :
    ExceptT Error m (String × Option Error) := do
  match command.task with
  | .compare reference candidate required =>
    command.comparisonReport world reference candidate required
  | .profile repository => return (← command.profileReport world repository, none)
  | .languages =>
    let settings ← ExceptT.mk (command.settings world ⟨"."⟩)
    return (Report.languages (command.formatFor settings), none)
  | .initSettings => return (defaultSettingsText, none)

end Command

namespace Outcome

/-- The outcome of an error after something was written. -/
def ofError (output : String) (e : Error) : Outcome where
  output := output
  errors := s!"Error: {e.message}\n"
  code := 1

/-- The outcome of a command. -/
def ofReport : Except Error (String × Option Error) → Outcome
  | .ok (output, none) => { output }
  | .ok (output, some e) => ofError output e
  | .error e => ofError "" e

/-- The outcome of words that ask for nothing that can be done. -/
def ofProblem (settingsFile : String) (problem : UsageProblem) : Outcome :=
  let text := problem.message settingsFile
  if problem.isWish then { output := text } else { errors := text, code := 2 }

/-- What the program does with the words of a command line. -/
def ofWords [Python.Grammar] {m : Type → Type} [Monad m] (world : World m) (words : List String) :
    m Outcome := do
  let settingsFile := ((← world.environment).find? fun v => v.1 = settingsVariable).map (·.2)
  match Command.ofWords settingsFile words with
  | .error problem => return ofProblem (settingsFile.getD "") problem
  | .ok command => return ofReport (← (command.report world).run)

end Outcome

end Affinity
