import HostRoster.Access
import HostRoster.Json.Record

/-!
# Principals as JSON
-/

namespace HostRoster.Wire

open HostRoster.Json

/-- Principals. -/
def principal : RecordType Principal where
  name := "Principal"
  blank := .user ""
  fields := [
    .of "username" .required .string fun p v => { p with username := v },
    .of "superAdmin" .defaulted .bool fun p v => { p with superAdmin := v },
    .of "grants" .defaulted (.dict (.choice Access.names)) fun p v => { p with grants := v }]

/-- A principal as a value. -/
def principalValue (p : Principal) : Value :=
  .object [("username", .string p.username), ("superAdmin", .bool p.superAdmin),
    ("grants", .object (p.grants.entries.map fun e => (e.1, .string e.2.label)))]

end HostRoster.Wire
