import HostRoster.Json.Value
import HostRoster.Run

/-!
# Results as JSON
-/

namespace HostRoster.Wire

open HostRoster.Json

/-- A summary as a value. -/
def summaryValue (s : Summary) : Value :=
  .object [("uuid", .string s.uuid), ("name", .string s.name),
    ("owner", .object [("key", .string s.ownerKey)])]

/-- The result of a run as a value. Guests that moved are not part of it. -/
def outcomeValue (o : Outcome) : Value :=
  .object [("created", .orNull (o.created.map fun l => .array (l.map summaryValue))),
    ("updated", .array (o.updated.map summaryValue)),
    ("failedCreate", .texts o.failedCreate), ("failedUpdate", .texts o.failedUpdate)]

/-- The result of a heartbeat as a value. -/
def heartbeatValue (o : HeartbeatOutcome) : Value :=
  .object [("ownerKey", .string o.ownerKey), ("reporterId", .string o.reporter),
    ("updated", .nat o.updated)]

end HostRoster.Wire
