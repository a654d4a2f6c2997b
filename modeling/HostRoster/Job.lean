import HostRoster.Report.Text
import HostRoster.Run

/-!
# Jobs

Runs as they are submitted: parameters that may be missing or blank and a report as a text. A job is
validated before it runs.
-/

namespace HostRoster

/-- What is wrong with the parameters of a job. -/
inductive ConfigFault where
  /-- There is no owner. -/
  | ownerNotSet
  /-- It is not said whether hosts are to be registered. -/
  | createMissingNotSet
  /-- There is no principal. -/
  | principalNotSet
  /-- There is no report. -/
  | dataNotSet
  /-- The report has more hosts than allowed. -/
  | tooManyHosts (count limit : Nat)
  deriving DecidableEq, Repr

/-- The fault as it is shown. -/
def ConfigFault.message : ConfigFault → String
  | .ownerNotSet => "owner must be set"
  | .createMissingNotSet => "create missing flag must be set"
  | .principalNotSet => "principal must be set"
  | .dataNotSet => "hypervisor data must be set"
  | .tooManyHosts count limit =>
    "report lists " ++ toString count ++ " hypervisors, the limit is " ++ toString limit

/-- What is wrong with the input of a job. -/
inductive InputFault where
  /-- The text is no report. -/
  | report (cause : ReportError)
  /-- There is no owner. -/
  | ownerNotSet
  /-- There is no reporter. -/
  | reporterNotSet
  deriving Repr

/-- The fault as it is shown. -/
def InputFault.message : InputFault → String
  | .report cause => cause.message
  | .ownerNotSet => "owner must be set"
  | .reporterNotSet => "reporter id must be set"

/-- Why a job fails. -/
inductive JobError where
  /-- Its parameters do not do. -/
  | invalidConfig (cause : ConfigFault)
  /-- Its input does not do. -/
  | invalidInput (cause : InputFault)
  /-- The run fails. -/
  | failed (cause : RunError)
  deriving Repr

/-- The error as it is shown. -/
def JobError.message : JobError → String
  | .invalidConfig cause => "Invalid job configuration: " ++ cause.message
  | .invalidInput cause => "Invalid job input: " ++ cause.message
  | .failed cause => cause.message

/-- The parameters of a job that reconciles a report, as far as they are given. -/
structure UpdateForm where
  /-- The key of the owner. -/
  owner : Option String
  /-- The text of the report. -/
  data : Option String
  /-- Whether hosts that are not registered are to be registered. -/
  createMissing : Option Bool
  /-- Who submits the report. -/
  principal : Option Principal
  /-- The reporter to record. -/
  reporter : Option String
  deriving DecidableEq, Repr

/-- A parameter that must be given. -/
def demand {α : Type} (fault : ConfigFault) : Option α → Except JobError α
  | some v => .ok v
  | none => .error (.invalidConfig fault)

/-- The request of a form, if everything is given and the report has no more hosts than allowed. -/
def UpdateForm.validate (f : UpdateForm) (maxHosts : Nat) : Except JobError Request := do
  let ownerKey ← demand .ownerNotSet (f.owner.bind Text.nonBlank?)
  let createMissing ← demand .createMissingNotSet f.createMissing
  let principal ← demand .principalNotSet f.principal
  let data ← demand .dataNotSet (f.data.bind Text.nonBlank?)
  let report ← (Report.parse data).mapError fun e => .invalidInput (.report e)
  if report.hosts.length > maxHosts then
    .error (.invalidConfig (.tooManyHosts report.hosts.length maxHosts))
  else .ok ⟨ownerKey, createMissing, f.reporter.bind Text.nonBlank?, principal, report⟩

/-- Runs a validated job that reconciles a report. -/
def Store.runUpdate (s : Store) (c : Circumstances) (r : Request) :
    Except JobError Outcome × Store :=
  let (result, s) := s.reconcile c r
  (result.mapError .failed, s)

/-- Runs a job that marks the hosts of a reporter as heard of. -/
def Store.runHeartbeat (s : Store) (c : Circumstances) (h : Heartbeat) :
    Except JobError HeartbeatOutcome × Store :=
  if Text.isBlank h.ownerKey then (.error (.invalidInput .ownerNotSet), s)
  else if Text.isBlank h.reporter then (.error (.invalidInput .reporterNotSet), s)
  else
    let (result, s) := s.heartbeat c h
    (result.mapError .failed, s)

end HostRoster
