import HostRoster.Known
import HostRoster.Store.Error
import HostRoster.Store.Registry

/-!
# Transactions

A unit of work on a copy of the registry. Writes show in the copy at once and in the registry after
the commit, which succeeds if no other commit has changed consumers of the same owners meanwhile. In
every copy a hypervisor id is held by at most one hypervisor of an owner. Writes and commits are
made step by step; nothing takes back what they have done when they fail.
-/

namespace HostRoster

/-- The writes that a store refuses. -/
structure Faults where
  /-- What to answer when a consumer with one of these names is to be registered. -/
  refusedNames : Dict String
  /-- What to answer to all writes of several consumers. -/
  bulkFailure : Option String
  deriving DecidableEq, Repr

/-- No write is refused. -/
def Faults.none : Faults := ⟨.empty, .none⟩

/-- An order in which consumers are gone through that come out of an unordered map. It may depend
on all of them. -/
structure Listing where
  /-- The consumers in this order. -/
  list : List Consumer → List Consumer
  /-- None is left out and none is added. -/
  perm : ∀ cs, (list cs).Perm cs

/-- The order in which they are given. -/
def Listing.given : Listing := ⟨id, fun _ => .refl _⟩

/-- A unit of work. -/
structure Transaction where
  /-- The writes that are refused. -/
  faults : Faults
  /-- The order in which the consumers of a batch are checked. -/
  listing : Listing
  /-- The owners as they were at the start. -/
  owners : Dict Owner
  /-- The consumers as this unit of work sees them. -/
  view : Dict Consumer
  /-- The versions of the owners' consumers at the start. -/
  base : Dict Nat
  /-- The ids of the consumers written. -/
  dirty : Keys
  /-- The keys of the owners of the consumers written. -/
  touched : Keys

namespace Transaction

/-- A unit of work on a registry. -/
def start (r : Registry) (faults : Faults) (listing : Listing) : Transaction :=
  ⟨faults, listing, r.owners, r.consumers, r.versions, .empty, .empty⟩

/-- The owner with a key. -/
def owner? (t : Transaction) (key : String) : Option Owner := t.owners.get? key

/-- The consumers of an owner, by their ids. -/
def ownedBy (t : Transaction) (ownerKey : String) : List Consumer :=
  t.view.values.filter (·.ownerKey == ownerKey)

/-- Whether a consumer has one of some hypervisor ids or one of some uuids of machines in lower
case. -/
def isWanted (c : Consumer) (hypervisorIds systemUuids : Keys) : Bool :=
  c.hypervisorId?.any hypervisorIds.contains ||
    c.systemUuid?.any fun u => systemUuids.contains (Text.lower u)

/-- The hypervisors of an owner with one of some hypervisor ids or uuids of machines. -/
def hostConsumers (t : Transaction) (ownerKey : String) (hypervisorIds systemUuids : Keys) :
    KnownHosts :=
  .ofList ((t.ownedBy ownerKey).filter fun c =>
    c.isHypervisor && isWanted c hypervisorIds systemUuids)

/-- The guests with one more consumer, if it has one of some guest ids. -/
def addGuest (guestIds : Keys) (k : KnownGuests) (c : Consumer) : KnownGuests :=
  match c.virtUuid? with
  | some v => if guestIds.contains (Text.lower v) then k.insert v c else k
  | none => k

/-- The consumers of an owner with one of some guest ids in lower case. -/
def guestConsumers (t : Transaction) (ownerKey : String) (guestIds : Keys) : KnownGuests :=
  (t.ownedBy ownerKey).foldl (addGuest guestIds) .empty

/-- The hypervisors of an owner that a reporter looks after. -/
def consumersOfReporter (t : Transaction) (ownerKey reporter : String) : List Consumer :=
  (t.ownedBy ownerKey).filter fun c => c.isHypervisor && c.reporterId? == some reporter

/-- The first two hypervisors of an owner in a list that hold one id, where `holders` are the uuids
of those before by their ids. -/
def sharedId? (ownerKey : String) (holders : Dict String) : List Consumer → Option Rejection
  | [] => none
  | c :: rest =>
    if c.ownerKey = ownerKey && c.isHypervisor then
      match c.hypervisorId? with
      | some id =>
        match holders.get? id with
        | some holder => some (.idShared id holder c.uuid ownerKey)
        | none => sharedId? ownerKey (holders.insert id c.uuid) rest
      | none => sharedId? ownerKey holders rest
    else sharedId? ownerKey holders rest

/-- The consumers of a list by their ids; of several with one id the last. -/
def byId (cs : List Consumer) : Dict Consumer :=
  .ofList (cs.filterMap fun c => c.id.map fun id => (id, c))

/-- The consumers of a view with others written over them: first those not written in the order of
their ids, then those written, which come out of an unordered map. -/
def overlaid (listing : Listing) (view : Dict Consumer) (written : List Consumer) :
    List Consumer :=
  let overlay := byId written
  ((view.entries.filter fun e => !overlay.contains e.1).map Prod.snd) ++
    listing.list overlay.values

/-- The keys of the owners of consumers. -/
def ownerKeys (cs : List Consumer) : Keys := cs.foldl (fun s c => s.add c.ownerKey) .empty

/-- Checks that no id would be shared within the owners of written consumers. -/
def checkIdentities (listing : Listing) (view : Dict Consumer) (written : List Consumer) :
    Except StoreError Unit :=
  match (ownerKeys written).keys.findSome? fun k =>
      sharedId? k .empty (overlaid listing view written) with
  | some cause => .error (.rejected cause)
  | none => .ok ()

/-- The first of some consumers that is not in a view. -/
def unknown? (view : Dict Consumer) (cs : List Consumer) : Option Consumer :=
  cs.find? fun c => !c.id.any view.contains

/-- Checks a write of several consumers. -/
def checkBulk (t : Transaction) (cs : List Consumer) : Except StoreError Unit :=
  match t.faults.bulkFailure with
  | some message => .error (.backend message)
  | none =>
    match unknown? t.view cs with
    | some c => .error (.rejected (.notPersisted c.uuid))
    | none => checkIdentities t.listing t.view cs

/-- Checks that a consumer may be registered at all. -/
def checkNew (t : Transaction) (c : Consumer) : Except StoreError Unit :=
  match t.faults.refusedNames.get? c.name with
  | some message => .error (.rejected (.refusedName message))
  | none =>
    if t.view.values.any (·.uuid == c.uuid) then .error (.rejected (.uuidTaken c.uuid)) else .ok ()

/-- The unit of work with a consumer written under an id. -/
def stage (t : Transaction) (id : String) (c : Consumer) : Transaction :=
  { t with
    view := t.view.insert id c
    dirty := t.dirty.add id
    touched := t.touched.add c.ownerKey }

/-- The unit of work with a consumer written under its id. -/
def write (t : Transaction) (c : Consumer) : Transaction :=
  match c.id with
  | some id => t.stage id c
  | none => t

/-- The unit of work with a consumer written under its id, all but its guests. -/
def writeAttributes (t : Transaction) (c : Consumer) : Transaction :=
  match c.id.bind t.view.get? with
  | some stored => t.write { c with guests := stored.guests }
  | none => t.write c

end Transaction

/-- Calls in a unit of work. -/
abbrev Work (α : Type) : Type := Effect Transaction α

namespace Work

/-- Registers a consumer under a new id. -/
def create (id : String) (c : Consumer) : Work Consumer := do
  Effect.check fun t => t.checkNew c
  let c := { c with id := some id }
  Effect.check fun t => Transaction.checkIdentities t.listing t.view [c]
  modify fun t => t.stage id c
  return c

/-- Writes consumers one after the other, all but their guests. -/
def updateAttributes (cs : List Consumer) : Work Unit := do
  Effect.check fun t => t.checkBulk cs
  cs.forM fun c => modify fun t => t.writeAttributes c

/-- Writes consumers one after the other. -/
def updateMemberships (cs : List Consumer) : Work Unit := do
  Effect.check fun t => t.checkBulk cs
  cs.forM fun c => modify fun t => t.write c

end Work

namespace Transaction

/-- Checks that no other commit has changed consumers of an owner. -/
def checkVersion (t : Transaction) (ownerKey : String) (r : Registry) : Except StoreError Unit :=
  if Registry.version r.versions ownerKey = Registry.version t.base ownerKey then .ok ()
  else .error (.conflict ownerKey)

/-- The registry's consumers with one written consumer. -/
def publish (t : Transaction) (consumers : Dict Consumer) (id : String) : Dict Consumer :=
  match t.view.get? id with
  | some c => consumers.insert id c
  | none => consumers

/-- The versions after a commit that changes consumers of an owner. They are not bounded by a
machine word: 2^64 commits of one process are out of scope. -/
def bump (versions : Dict Nat) (ownerKey : String) : Dict Nat :=
  versions.insert ownerKey (Registry.version versions ownerKey + 1)

/-- Puts the written consumers into the registry, one after the other, and raises the versions of
their owners. -/
def commit (t : Transaction) : Effect Registry Unit := do
  t.touched.keys.forM fun k => Effect.check (t.checkVersion k)
  t.dirty.keys.forM fun id => modify fun r => { r with consumers := t.publish r.consumers id }
  t.touched.keys.forM fun k => modify fun r => { r with versions := bump r.versions k }

end Transaction

end HostRoster
