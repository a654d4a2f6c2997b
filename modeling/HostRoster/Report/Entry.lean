import HostRoster.Consumer
import HostRoster.KeyedList
import HostRoster.Report.Basic

/-!
# Entries of a report

A report cleaned up: hosts and guests without an id are left out, and ids lose the white space at
their ends. A host that is reported twice, or a guest that is listed twice under its host, keeps the
place of its first mention and the content of its last.
-/

namespace HostRoster

/-- A host of a report, cleaned up. -/
structure HostEntry where
  /-- The id as it was reported, without white space at its ends. -/
  hostKey : String
  /-- The canonical id. -/
  hypervisorId : String
  /-- The name to show. -/
  name : String
  /-- The ids of the guests. -/
  guests : List String
  /-- What was reported of the host. -/
  facts : Option (Dict String)
  deriving DecidableEq, Repr

/-- A text without white space at its ends, if anything is left of it. -/
def trimmed? (s : String) : Option String :=
  let t := Text.trim s
  if t.isEmpty then none else some t

namespace HostEntry

/-- The uuid of the machine itself, if it is not blank. -/
def systemUuid? (e : HostEntry) : Option String :=
  (e.facts.bind (·.get? systemUuidFact)).bind Text.nonBlank?

/-- The ids of reported guests: each once, in the last spelling. -/
def guestIds (guests : Option (List (Option ReportedId))) : List String :=
  let ids := (guests.getD []).filterMap fun g => (g.bind (·.text)).bind trimmed?
  (KeyedList.ofPairs (ids.map fun g => (Text.lower g, g))).contents

/-- The entry of a host with an id. -/
def ofHost? (h : ReportedHost) : Option HostEntry :=
  (h.rawId?.bind trimmed?).map fun key =>
    { hostKey := key
      hypervisorId := canonical key
      name := (h.name.bind trimmed?).getD key
      guests := guestIds h.guests
      facts := h.facts }

end HostEntry

/-- The hosts of a report, each once. -/
def Report.entries (r : Report) : List HostEntry :=
  (KeyedList.ofPairs
    ((r.hosts.filterMap HostEntry.ofHost?).map fun e => (e.hypervisorId, e))).contents

end HostRoster
