import HostRoster.Json.Record
import HostRoster.Store.Registry

/-!
# Owners and consumers as JSON

The fields of the records in their order, for reading and for writing. Owners and consumers make up
the snapshot of a store, which is the content of a state file.
-/

namespace HostRoster.Wire

open HostRoster.Json

/-- Owners. -/
def owner : RecordType Owner where
  name := "Owner"
  blank := ⟨"", "", false⟩
  fields := [
    .of "key" .required .string fun o v => { o with key := v },
    .of "displayName" .required .string fun o v => { o with displayName := v },
    .of "autobindDisabled" .defaulted .bool fun o v => { o with autobindDisabled := v }]

/-- Identities. -/
def identity : RecordType Identity where
  name := "HypervisorId"
  blank := ⟨"", none⟩
  fields := [
    .of "hypervisorId" .required .string fun i v => { i with hypervisorId := v },
    .of "reporterId" .optional (.option .string) fun i v => { i with reporterId := v }]

/-- Guests, each a record of its id. -/
def guest : RecordType String where
  name := "GuestId"
  blank := ""
  fields := [.of "guestId" .required .string fun _ v => v]

/-- The kinds of consumers by their names. -/
def kinds : List (String × ConsumerKind) :=
  [ConsumerKind.system, .hypervisor].map fun k => (k.label, k)

/-- Consumers. -/
def consumer : RecordType Consumer where
  name := "Consumer"
  blank := ⟨none, "", "", "", .system, none, [], .empty, none⟩
  fields := [
    .of "id" .optional (.option .string) fun c v => { c with id := v },
    .of "uuid" .required .string fun c v => { c with uuid := v },
    .of "name" .required .string fun c v => { c with name := v },
    .of "ownerKey" .required .string fun c v => { c with ownerKey := v },
    .of "consumerType" .required (.choice kinds) fun c v => { c with kind := v },
    .of "hypervisorId" .optional (.option (identity.decode .text)) fun c v =>
      { c with identity := v },
    .of "guestIds" .defaulted (.list (guest.decode .text)) fun c v => { c with guests := v },
    .of "facts" .defaulted (.dict .string) fun c v => { c with facts := v },
    .of "lastCheckin" .optional (.option .timestamp) fun c v => { c with lastCheckin := v }]

/-- Snapshots. -/
def snapshot : RecordType Snapshot where
  name := "StoreSnapshot"
  blank := .empty
  fields := [
    .of "owners" .defaulted (.list (owner.decode .text)) fun s v => { s with owners := v },
    .of "consumers" .defaulted (.list (consumer.decode .text)) fun s v => { s with consumers := v }]

/-- An owner as a value. -/
def ownerValue (o : Owner) : Value :=
  .object [("key", .string o.key), ("displayName", .string o.displayName),
    ("autobindDisabled", .bool o.autobindDisabled)]

/-- An identity as a value. -/
def identityValue (i : Identity) : Value :=
  .object [("hypervisorId", .string i.hypervisorId), ("reporterId", .text? i.reporterId)]

/-- A guest as a value. -/
def guestValue (g : String) : Value := .object [("guestId", .string g)]

/-- Facts as a value. -/
def factsValue (facts : Dict String) : Value :=
  .object (facts.entries.map fun e => (e.1, .string e.2))

/-- A consumer as a value. -/
def consumerValue (c : Consumer) : Value :=
  .object [("id", .text? c.id), ("uuid", .string c.uuid), ("name", .string c.name),
    ("ownerKey", .string c.ownerKey), ("consumerType", .string c.kind.label),
    ("hypervisorId", .orNull (c.identity.map identityValue)),
    ("guestIds", .array (c.guests.map guestValue)), ("facts", factsValue c.facts),
    ("lastCheckin", .text? (c.lastCheckin.map Timestamp.text))]

/-- A snapshot as a value. -/
def snapshotValue (s : Snapshot) : Value :=
  .object [("owners", .array (s.owners.map ownerValue)),
    ("consumers", .array (s.consumers.map consumerValue))]

end HostRoster.Wire
