import HostRoster.Text.Blank
import HostRoster.Text.Quoted

/-!
# Settings

What the environment says about where consumers are kept, how large a report may be and what is
logged. Blank variables do not count, except the one that must be a number.
-/

namespace HostRoster

/-- The settings of the program. -/
structure Settings where
  /-- The state file. -/
  statePath : String
  /-- The greatest number of hosts in a report. -/
  maxReportHosts : Nat
  /-- What is logged. -/
  logFilter : String
  deriving DecidableEq, Repr

/-- A variable that does not have the form it must have. -/
structure SettingsError where
  /-- The name of the variable. -/
  name : String
  /-- Its value. -/
  value : String
  deriving DecidableEq, Repr

/-- The error as it is shown. -/
def SettingsError.message (e : SettingsError) : String :=
  "Invalid value for " ++ e.name ++ ": " ++ Text.quoted e.value

namespace Settings

/-- The variable for the state file. -/
def statePathVariable : String := "HYPERVISOR_STATE_PATH"

/-- The variable for the greatest number of hosts. -/
def maxReportHostsVariable : String := "HYPERVISOR_MAX_REPORT_HOSTS"

/-- The variable for what is logged. -/
def logVariable : String := "HYPERVISOR_LOG"

/-- The settings where the environment says nothing. -/
def default : Settings := ⟨"./data/consumers.json", 10000, "info"⟩

/-- The greatest number that is accepted. -/
def maxWord : Nat := 18446744073709551615

/-- The number that digits denote, if there are any and it fits an unsigned word of 64 bits. -/
def digitsToWord? (ds : List Char) : Option Nat :=
  if ds.isEmpty || !ds.all Char.isDigit then none
  else
    let n := ds.foldl (fun n c => n * 10 + (c.toNat - '0'.toNat)) 0
    if n ≤ maxWord then some n else none

/-- Reads a number between blanks, which may have a plus sign. -/
def readCount? (s : String) : Option Nat :=
  match Text.trimChars s.toList with
  | '+' :: ds => digitsToWord? ds
  | ds => digitsToWord? ds

/-- The settings that an environment gives. -/
def ofEnvironment (get? : String → Option String) : Except SettingsError Settings := do
  let statePath := ((get? statePathVariable).bind Text.nonBlank?).getD default.statePath
  let maxReportHosts ←
    match get? maxReportHostsVariable with
    | none => .ok default.maxReportHosts
    | some v =>
      match readCount? v with
      | some n => .ok n
      | none => .error ⟨maxReportHostsVariable, v⟩
  let logFilter := ((get? logVariable).bind Text.nonBlank?).getD default.logFilter
  .ok ⟨statePath, maxReportHosts, logFilter⟩

end Settings

end HostRoster
