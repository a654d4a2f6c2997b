import HostRoster.Dict

/-!
# Reports

What a reporter submits: hosts with their guests, as they were seen and in the order of the report.
Every part may be missing. The older form of a report is a list of host ids with guest ids, in which
the id of a host is its name too.
-/

namespace HostRoster

/-- An id inside a report, which may have been left out. -/
structure ReportedId where
  /-- The id as it was reported. -/
  text : Option String
  deriving DecidableEq, Repr

/-- A host in a report. -/
structure ReportedHost where
  /-- The name to show. -/
  name : Option String
  /-- The hypervisor id. -/
  id : Option ReportedId
  /-- The guests on the host. -/
  guests : Option (List (Option ReportedId))
  /-- What is known of the host. -/
  facts : Option (Dict String)
  deriving DecidableEq, Repr

/-- A report. -/
structure Report where
  /-- The hosts. -/
  hosts : List ReportedHost
  deriving DecidableEq, Repr

/-- Guests that were all reported by an id. -/
def ReportedId.list (ids : List String) : List (Option ReportedId) := ids.map fun g => some ⟨some g⟩

namespace ReportedHost

/-- A host of which nothing is known. -/
def unknown : ReportedHost := ⟨none, none, none, none⟩

/-- A host without guests. -/
def withId (id : String) : ReportedHost := { unknown with id := some ⟨some id⟩, guests := some [] }

/-- The host with a name. -/
def named (h : ReportedHost) (name : String) : ReportedHost := { h with name := some name }

/-- The host with these guests and no others. -/
def withGuests (h : ReportedHost) (ids : List String) : ReportedHost :=
  { h with guests := some (ReportedId.list ids) }

/-- The host without a list of guests. -/
def withoutGuestList (h : ReportedHost) : ReportedHost := { h with guests := none }

/-- The host with one more fact. -/
def withFact (h : ReportedHost) (name value : String) : ReportedHost :=
  { h with facts := some ((h.facts.getD .empty).insert name value) }

/-- The hypervisor id as it was reported. -/
def rawId? (h : ReportedHost) : Option String := h.id.bind (·.text)

/-- A host of the older form. -/
def ofIds (host : String) (guests : Option (List String)) : ReportedHost :=
  ⟨some host, some ⟨some host⟩, guests.map ReportedId.list, none⟩

end ReportedHost

/-- A report of the older form. -/
def Report.ofIds (hosts : List (String × Option (List String))) : Report :=
  ⟨hosts.map fun h => .ofIds h.1 h.2⟩

end HostRoster
