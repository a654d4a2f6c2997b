import HostRoster.Json.Record
import HostRoster.Report.Basic
import HostRoster.Wire.Store

/-!
# Reports as JSON
-/

namespace HostRoster.Wire

open HostRoster.Json

/-- Hypervisor ids in reports. -/
def reportedHypervisorId : RecordType ReportedId where
  name := "ReportedHypervisorId"
  blank := ⟨none⟩
  fields := [.of "hypervisorId" .defaulted (.option .string) fun _ v => ⟨v⟩]

/-- Guests in reports. -/
def reportedGuestId : RecordType ReportedId where
  name := "ReportedGuestId"
  blank := ⟨none⟩
  fields := [.of "guestId" .defaulted (.option .string) fun _ v => ⟨v⟩]

/-- Hosts in reports. -/
def reportedHost (source : Source) : RecordType ReportedHost where
  name := "ReportedHypervisor"
  blank := .unknown
  fields := [
    .of "name" .defaulted (.option .string) fun h v => { h with name := v },
    .of "hypervisorId" .defaulted (.option (reportedHypervisorId.decode source)) fun h v =>
      { h with id := v },
    .of "guestIds" .defaulted (.option (.list (.option (reportedGuestId.decode source))))
      fun h v => { h with guests := v },
    .of "facts" .defaulted (.option (.dict .string)) fun h v => { h with facts := v }]

/-- Reports. -/
def report (source : Source) : RecordType Report where
  name := "HypervisorReport"
  blank := ⟨[]⟩
  fields := [
    .of "hypervisors" .defaulted (.list ((reportedHost source).decode source)) fun _ v => ⟨v⟩]

/-- An id in a report as a value. -/
def reportedIdValue (field : String) (i : ReportedId) : Value := .object [(field, .text? i.text)]

/-- A host in a report as a value. -/
def reportedHostValue (h : ReportedHost) : Value :=
  .object [("name", .text? h.name),
    ("hypervisorId", .orNull (h.id.map (reportedIdValue "hypervisorId"))),
    ("guestIds", .orNull (h.guests.map fun l =>
      .array (l.map fun g => .orNull (g.map (reportedIdValue "guestId"))))),
    ("facts", .orNull (h.facts.map factsValue))]

/-- A report as a value. -/
def reportValue (r : Report) : Value :=
  .object [("hypervisors", .array (r.hosts.map reportedHostValue))]

end HostRoster.Wire
