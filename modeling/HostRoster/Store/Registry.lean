import HostRoster.Consumer
import HostRoster.Owner
import HostRoster.Supply

/-!
# The registry

The committed contents of the store: owners, consumers under their ids, and for each owner the
number of commits that changed its consumers.
-/

namespace HostRoster

/-- The owners and consumers of a store. -/
structure Snapshot where
  /-- The owners. -/
  owners : List Owner
  /-- The consumers. -/
  consumers : List Consumer
  deriving DecidableEq, Repr

/-- The snapshot of an empty store. -/
def Snapshot.empty : Snapshot := ⟨[], []⟩

/-- The committed contents of a store. -/
structure Registry where
  /-- The owners by their keys. -/
  owners : Dict Owner
  /-- The consumers by their ids. -/
  consumers : Dict Consumer
  /-- The number of commits that changed consumers of an owner, by the key of the owner. It is not
  bounded by a machine word: 2^64 commits of one process are out of scope. -/
  versions : Dict Nat
  deriving DecidableEq, Repr

/-- A consumer with an id of its own or else the next of a supply. -/
def Consumer.withId (c : Consumer) (ids : Supply) : String × Consumer × Supply :=
  match c.id with
  | some id => (id, c, ids)
  | none => (ids.next, { c with id := some ids.next }, ids.rest)

namespace Registry

/-- Nothing stored. -/
def empty : Registry := ⟨.empty, .empty, .empty⟩

/-- The registry with one more owner, in place of the one with the same key. -/
def addOwner (r : Registry) (o : Owner) : Registry := { r with owners := r.owners.insert o.key o }

/-- The registry with a consumer under its id, in place of the one there. A consumer without an id
gets the next one of a supply. -/
def insert (r : Registry) (c : Consumer) (ids : Supply) : Consumer × Registry × Supply :=
  let (id, c, ids) := c.withId ids
  (c, { r with consumers := r.consumers.insert id c }, ids)

/-- The registry with the consumers of a list. -/
def insertAll (r : Registry) (ids : Supply) : List Consumer → Registry × Supply
  | [] => (r, ids)
  | c :: rest =>
    let (_, r, ids) := r.insert c ids
    r.insertAll ids rest

/-- The registry of a snapshot. -/
def ofSnapshot (s : Snapshot) (ids : Supply) : Registry × Supply :=
  (s.owners.foldl addOwner empty).insertAll ids s.consumers

/-- The contents, owners by their keys and consumers by their ids. -/
def snapshot (r : Registry) : Snapshot := ⟨r.owners.values, r.consumers.values⟩

/-- The consumer with a uuid; of several the one with the smallest id. -/
def withUuid? (r : Registry) (uuid : String) : Option Consumer :=
  r.consumers.values.find? (·.uuid == uuid)

/-- The consumers of an owner. -/
def ownedBy (r : Registry) (ownerKey : String) : List Consumer :=
  r.consumers.values.filter (·.ownerKey == ownerKey)

/-- The number of commits that changed consumers of an owner. -/
def version (versions : Dict Nat) (ownerKey : String) : Nat := (versions.get? ownerKey).getD 0

end Registry

end HostRoster
