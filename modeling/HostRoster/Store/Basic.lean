import HostRoster.Store.Transaction

/-!
# The store

The registry with the writes it refuses, a count of the calls it was used by, and the supplies that
new ids and uuids come from.
-/

namespace HostRoster

/-- How often the store was called. -/
structure Usage where
  /-- Look-ups of hosts. -/
  hostLookups : Nat
  /-- Look-ups of guests. -/
  guestLookups : Nat
  /-- Attempts to register a consumer. -/
  creates : Nat
  /-- Attempts to write attributes. -/
  attributeUpdates : Nat
  /-- Attempts to write consumers with their guests. -/
  membershipUpdates : Nat
  /-- Commits that succeeded. -/
  commits : Nat
  /-- Units of work that were rolled back. -/
  rollbacks : Nat
  deriving DecidableEq, Repr

/-- The store was not used. -/
def Usage.none : Usage := ⟨0, 0, 0, 0, 0, 0, 0⟩

/-- Where new texts come from. -/
structure Supplies where
  /-- The ids of the store. -/
  ids : Supply
  /-- The uuids of consumers. -/
  uuids : Supply

/-- A store of consumers. -/
structure Store where
  /-- The committed contents. -/
  registry : Registry
  /-- The writes that are refused. -/
  faults : Faults
  /-- How often the store was called. -/
  usage : Usage
  /-- Where new ids come from. -/
  supplies : Supplies
  /-- The order in which consumers come out of unordered maps. -/
  listing : Listing

namespace Store

/-- A store with the contents of a snapshot. Its consumers are gone through in the order of their
ids, which is one of the orders there may be. -/
def ofSnapshot (s : Snapshot) (supplies : Supplies) : Store :=
  let (r, ids) := Registry.ofSnapshot s supplies.ids
  ⟨r, .none, .none, { supplies with ids := ids }, .given⟩

/-- The committed contents. -/
def snapshot (s : Store) : Snapshot := s.registry.snapshot

/-- The store with one more owner. -/
def addOwner (s : Store) (o : Owner) : Store := { s with registry := s.registry.addOwner o }

/-- The store with one more consumer, and that consumer as it is stored. -/
def insert (s : Store) (c : Consumer) : Consumer × Store :=
  let (c, r, ids) := s.registry.insert c s.supplies.ids
  (c, { s with registry := r, supplies := { s.supplies with ids := ids } })

/-- The store that refuses to register consumers with a name. -/
def refuseName (s : Store) (name message : String) : Store :=
  { s with faults := { s.faults with refusedNames := s.faults.refusedNames.insert name message } }

/-- The store that refuses all writes of several consumers. -/
def failBulk (s : Store) (message : String) : Store :=
  { s with faults := { s.faults with bulkFailure := some message } }

/-- A unit of work on the store. -/
def start (s : Store) : Transaction := .start s.registry s.faults s.listing

/-- Commits a unit of work, and counts the commit if it succeeds. -/
def commit (s : Store) (t : Transaction) : Except StoreError Unit × Store :=
  match t.commit.run.run s.registry with
  | (.error e, r) => (.error e, { s with registry := r })
  | (.ok (), r) =>
    (.ok (), { s with registry := r, usage := { s.usage with commits := s.usage.commits + 1 } })

/-- The store after a unit of work was rolled back. -/
def rollback (s : Store) : Store :=
  { s with usage := { s.usage with rollbacks := s.usage.rollbacks + 1 } }

end Store

end HostRoster
