import HostRoster.Command.Line
import HostRoster.Job
import HostRoster.Program.StateFile
import HostRoster.Program.Variables
import HostRoster.Settings
import HostRoster.Wire.Outcome

/-!
# The program

One call of the program reads the state file, does what the command line says and writes the state
file. If anything fails, the state file stays as it was.
-/

namespace HostRoster.Program

open HostRoster.Command HostRoster.Json

/-- How a call of the program ends. -/
inductive Ending where
  /-- It has done its task. -/
  | done (result : Value)
  /-- It has failed, for causes of which the outermost comes first. -/
  | failed (causes : List String)
  /-- The command line is no task. -/
  | usage (error : UsageError)
  /-- It has stopped because of a variable that cannot be. -/
  | stopped
  deriving Repr

/-- The number that the program ends with. -/
def Ending.code : Ending → Nat
  | .done _ => 0
  | .failed _ => 1
  | .usage .helpWanted => 0
  | .usage _ => 2
  | .stopped => 101

/-- What a call depends on besides the machine. -/
structure Moment where
  /-- The time. -/
  now : Timestamp
  /-- Where new ids come from. -/
  supplies : Supplies

variable {m : Type → Type} [Monad m] [Machine m]

/-- The settings that the variables of the machine and those of the environment file give. -/
def readSettings (known : Environment.Variables) : m (Except SettingsError Settings) := do
  let statePath ← valueOf known Settings.statePathVariable
  let maxReportHosts ← valueOf known Settings.maxReportHostsVariable
  let logFilter ← valueOf known Settings.logVariable
  return Settings.ofEnvironment fun name =>
    if name = Settings.statePathVariable then statePath
    else if name = Settings.maxReportHostsVariable then maxReportHosts
    else if name = Settings.logVariable then logFilter
    else none

/-- The text of a report file. -/
def readReport (path : String) : m (Except FileError String) := do
  match ← Machine.read path with
  | .error e => return .error e
  | .ok content =>
    match Text.ofUtf8? content with
    | some text => return .ok text
    | none => return .error .notText

/-- A run as the program makes it. -/
def circumstances (now : Timestamp) : Circumstances := ⟨.byGrants, now, .none, none⟩

/-- Reconciles the report in a text. -/
def update (p : UpdateParameters) (data : String) (maxHosts : Nat) (now : Timestamp) (s : Store) :
    Except JobError Value × Store :=
  let form : UpdateForm := ⟨p.ownerKey, data, p.createMissing, p.principal, p.reporter⟩
  match form.validate maxHosts with
  | .error e => (.error e, s)
  | .ok request =>
    let (result, s) := s.runUpdate (circumstances now) request
    (result.map Wire.outcomeValue, s)

/-- Marks the hosts of a reporter as heard of. -/
def heartbeat (h : Heartbeat) (now : Timestamp) (s : Store) : Except JobError Value × Store :=
  let (result, s) := s.runHeartbeat (circumstances now) h
  (result.map Wire.heartbeatValue, s)

/-- Writes the state file of a store after a task that has come to a result. -/
def finish (path : String) (result : Except JobError Value) (s : Store) : m Ending := do
  match result with
  | .error e => return .failed [e.message]
  | .ok v =>
    match ← Snapshot.save path s.snapshot with
    | .error e => return .failed ["saving " ++ path, e.message]
    | .ok () => return .done v

/-- Does a task on a store and writes its state file. -/
def perform (path : String) (maxHosts : Nat) (now : Timestamp) (s : Store) : Task → m Ending
  | .heartbeat h => let (result, s) := heartbeat h now s; finish path result s
  | .update p => do
    match ← readReport p.reportPath with
    | .error e => return .failed ["reading " ++ p.reportPath, e.message]
    | .ok data => let (result, s) := update p data maxHosts now s; finish path result s

/-- One call of the program with settings. -/
def runWith (settings : Settings) (arguments : List String) (moment : Moment) : m Ending := do
  match Line.parse arguments with
  | .error e => return .usage e
  | .ok line =>
    let path := line.statePath.getD settings.statePath
    match ← Snapshot.load path with
    | .error e => return .failed ["loading " ++ path, e.message]
    | .ok snapshot =>
      perform path settings.maxReportHosts moment.now (.ofSnapshot snapshot moment.supplies)
        line.task

/-- One call of the program. -/
def run (arguments : List String) (moment : Moment) : m Ending := do
  match ← readVariables with
  | none => return .stopped
  | some known =>
    match ← readSettings known with
    | .error e => return .failed [e.message]
    | .ok settings => runWith settings arguments moment

end HostRoster.Program
