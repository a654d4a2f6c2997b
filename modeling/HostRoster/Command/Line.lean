import HostRoster.Command.Arguments
import HostRoster.Command.Grant
import HostRoster.Run

/-!
# The command line

Two commands: `update` reconciles a report, `heartbeat` marks the hosts of a reporter as heard of.
The option for the state file may stand before and after the name of the command; the later one
counts.
-/

namespace HostRoster.Command

/-- The parameters of a report that is to be reconciled. -/
structure UpdateParameters where
  /-- The key of the owner. -/
  ownerKey : String
  /-- The file that holds the report. -/
  reportPath : String
  /-- Whether hosts that are not registered are to be registered. -/
  createMissing : Bool
  /-- The reporter to record. -/
  reporter : Option String
  /-- Who submits the report. -/
  principal : Principal
  deriving DecidableEq, Repr

/-- What is to be done. -/
inductive Task where
  /-- A report is to be reconciled. -/
  | update (parameters : UpdateParameters)
  /-- The hosts of a reporter are to be marked as heard of. -/
  | heartbeat (heartbeat : Heartbeat)
  deriving DecidableEq, Repr

/-- A command line. -/
structure Line where
  /-- The state file, if it is given. -/
  statePath : Option String
  /-- What is to be done. -/
  task : Task
  deriving DecidableEq, Repr

/-- An argument with any value. -/
def textArgument (name : String) : Argument := ⟨name, .single, fun _ => none⟩

/-- An argument with a path, which must not be empty. -/
def pathArgument (name : String) : Argument :=
  ⟨name, .single, fun v => if v.isEmpty then some .valueMissing else none⟩

/-- An argument without a value. -/
def flagArgument (name : String) : Argument := ⟨name, .flag, fun _ => none⟩

/-- The arguments with grants. -/
def grantArgument : Argument :=
  ⟨"grant", .repeated, fun v =>
    match Grant.parse v with
    | .ok _ => none
    | .error _ => some .valueMalformed⟩

/-- The option for the state file and the one for help, which every command has. -/
def commonOptions : List Argument := [pathArgument "state", ⟨"help", .help, fun _ => none⟩]

/-- The options that say who submits. -/
def principalOptions : List Argument := [textArgument "user", flagArgument "admin", grantArgument]

/-- The arguments before the name of the command. -/
def rootGrammar : Grammar := ⟨commonOptions, none, ["update", "heartbeat", "help"]⟩

/-- The arguments of `update`. -/
def updateGrammar : Grammar :=
  ⟨commonOptions ++ principalOptions ++
    [textArgument "owner", textArgument "reporter", flagArgument "create-missing"],
    some (pathArgument "report"), []⟩

/-- The arguments of `heartbeat`. -/
def heartbeatGrammar : Grammar :=
  ⟨commonOptions ++ principalOptions ++ [textArgument "owner", textArgument "reporter"], none, []⟩

/-- The principal that arguments describe. -/
def principalOf (s : Scan) : Principal :=
  .ofGrants ((s.value? "user").getD "admin") (s.has "admin")
    ((s.values "grant").filterMap fun v => (Grant.parse v).toOption)

/-- The parameters that arguments of `update` describe. -/
def updateOf (s : Scan) : Except UsageError Task := do
  let ownerKey ← s.required "owner"
  let reportPath ← s.required "report"
  .ok (.update ⟨ownerKey, reportPath, s.has "create-missing", s.value? "reporter", principalOf s⟩)

/-- The parameters that arguments of `heartbeat` describe. -/
def heartbeatOf (s : Scan) : Except UsageError Task := do
  let ownerKey ← s.required "owner"
  let reporter ← s.required "reporter"
  .ok (.heartbeat ⟨ownerKey, reporter, principalOf s⟩)

/-- What comes of a request for help about a command. -/
def helpAbout : List String → UsageError
  | [] => .helpWanted
  | [name] => if rootGrammar.subcommands.contains name then .helpWanted else .subcommandUnknown
  | _ => .subcommandUnknown

/-- Reads the arguments of a command, after those before its name. -/
def readTask (before : Scan) (g : Grammar) (build : Scan → Except UsageError Task)
    (rest : List String) : Except UsageError Line := do
  let (s, _) ← g.scan .start g.word rest
  let s ← s.settle
  let task ← build s
  let before ← before.settle
  .ok ⟨(s.value? "state").or (before.value? "state"), task⟩

/-- Reads a command line without the name of the program. -/
def Line.parse (args : List String) : Except UsageError Line := do
  let (s, subcommand) ← rootGrammar.scan .start rootGrammar.word args
  match subcommand with
  | some ("update", rest) => readTask s updateGrammar updateOf rest
  | some ("heartbeat", rest) => readTask s heartbeatGrammar heartbeatOf rest
  | some (_, rest) => .error (helpAbout rest)
  | none =>
    let s ← s.settle
    .error (if s.given.isEmpty then .nothingGiven else .subcommandMissing)

end HostRoster.Command
