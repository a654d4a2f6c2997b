import HostRoster.Store.Basic

/-!
# Sessions

The calls that a run makes of the store within one unit of work. Calls are counted, whether or not
they succeed. A call may be out of order: it then fails without running and without being counted.
-/

namespace HostRoster

/-- The calls of a store. -/
inductive Call where
  /-- Opening a unit of work. -/
  | start
  /-- Looking up an owner. -/
  | owner
  /-- Looking up hosts. -/
  | hostConsumers
  /-- Looking up guests. -/
  | guestConsumers
  /-- Looking up the hosts of a reporter. -/
  | consumersOfReporter
  /-- Registering a consumer. -/
  | create
  /-- Writing attributes. -/
  | updateAttributes
  /-- Writing consumers with their guests. -/
  | updateMemberships
  /-- Committing. -/
  | commit
  /-- Rolling back. -/
  | rollback
  deriving DecidableEq, Repr

/-- The calls that are out of order, and what they answer. -/
abbrev Outages := Call → Option String

/-- Every call is in order. -/
def Outages.none : Outages := fun _ => .none

/-- A unit of work in use. -/
structure Session where
  /-- The unit of work. -/
  work : Transaction
  /-- How often the store was called. -/
  usage : Usage
  /-- Where new ids come from. -/
  supplies : Supplies
  /-- The calls that are out of order. -/
  outages : Outages

/-- A sequence of calls; what was written before a failure stays written. -/
abbrev Act (α : Type) : Type := Effect Session α

namespace Session

/-- A unit of work on a store. -/
def start (s : Store) (outages : Outages) : Session := ⟨s.start, s.usage, s.supplies, outages⟩

/-- The store with the counts of a session and without the texts it has used. -/
def leave (s : Session) (store : Store) : Store :=
  { store with usage := s.usage, supplies := s.supplies }

end Session

namespace Act

/-- A call, unless it is out of order. -/
def call {α : Type} (c : Call) (act : Act α) : Act α := do
  match (← get).outages c with
  | some message => throw (.backend message)
  | none => act

/-- Counts a call. -/
def count (f : Usage → Usage) : Act Unit := modify fun s => { s with usage := f s.usage }

/-- Calls in the unit of work that is in use. -/
def inWork {α : Type} (x : Work α) : Act α := x.onPart Session.work fun s t => { s with work := t }

/-- The owner with a key. -/
def owner? (key : String) : Act (Option Owner) :=
  call .owner do return (← get).work.owner? key

/-- The hypervisors of an owner with one of some hypervisor ids or uuids of machines. -/
def hostConsumers (ownerKey : String) (hypervisorIds systemUuids : Keys) : Act KnownHosts :=
  call .hostConsumers do
    count fun u => { u with hostLookups := u.hostLookups + 1 }
    return (← get).work.hostConsumers ownerKey hypervisorIds systemUuids

/-- The consumers of an owner with one of some guest ids. -/
def guestConsumers (ownerKey : String) (guestIds : Keys) : Act KnownGuests :=
  call .guestConsumers do
    count fun u => { u with guestLookups := u.guestLookups + 1 }
    return (← get).work.guestConsumers ownerKey guestIds

/-- The hypervisors of an owner that a reporter looks after. -/
def consumersOfReporter (ownerKey reporter : String) : Act (List Consumer) :=
  call .consumersOfReporter do return (← get).work.consumersOfReporter ownerKey reporter

/-- Registers a consumer under the next id. -/
def create (c : Consumer) : Act Consumer :=
  call .create do
    count fun u => { u with creates := u.creates + 1 }
    let created ← inWork (Work.create (← get).supplies.ids.next c)
    modify fun s => { s with supplies := { s.supplies with ids := s.supplies.ids.rest } }
    return created

/-- Writes consumers, all but their guests. -/
def updateAttributes (cs : List Consumer) : Act Unit :=
  call .updateAttributes do
    count fun u => { u with attributeUpdates := u.attributeUpdates + 1 }
    inWork (Work.updateAttributes cs)

/-- Writes consumers. -/
def updateMemberships (cs : List Consumer) : Act Unit :=
  call .updateMemberships do
    count fun u => { u with membershipUpdates := u.membershipUpdates + 1 }
    inWork (Work.updateMemberships cs)

end Act

end HostRoster
