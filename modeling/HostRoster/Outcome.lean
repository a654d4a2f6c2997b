import HostRoster.KeyedList
import HostRoster.Plan

/-!
# Outcomes

What became of the hosts of a report. Every host has one outcome, which is the first one recorded
for its key in whatever spelling; the lists of the result follow the order of recording.
-/

namespace HostRoster

/-- A consumer in a result. -/
structure Summary where
  /-- The uuid. -/
  uuid : String
  /-- The name. -/
  name : String
  /-- The key of the owner. -/
  ownerKey : String
  deriving DecidableEq, Repr

/-- The summary of a consumer. -/
def Consumer.summary (c : Consumer) : Summary := ⟨c.uuid, c.name, c.ownerKey⟩

/-- A registered guest that is now reported on a host where it was not before. -/
structure Migration where
  /-- The guest id as it was reported. -/
  guest : String
  /-- The uuid of the guest. -/
  guestUuid : String
  /-- The uuid of the host. -/
  hostUuid : String
  deriving DecidableEq, Repr

/-- What became of a host. -/
inductive HostState where
  /-- It was registered. -/
  | created (summary : Summary)
  /-- It was changed. -/
  | updated (summary : Summary)
  /-- It could not be written. -/
  | failed (kind : FailureKind) (message : String)
  deriving DecidableEq, Repr

namespace HostState

/-- Whether the host was written. -/
def isSuccess : HostState → Bool
  | .failed _ _ => false
  | _ => true

/-- The summary of a host that was registered. -/
def created? : HostState → Option Summary
  | .created s => some s
  | _ => none

/-- The summary of a host that was changed. -/
def updated? : HostState → Option Summary
  | .updated s => some s
  | _ => none

/-- The message of a failure of a kind. -/
def failed? (kind : FailureKind) : HostState → Option String
  | .failed k message => if k = kind then some message else none
  | _ => none

end HostState

/-- The result of a run. -/
structure Outcome where
  /-- The hosts that were registered; nothing if none were wanted and none were changed. -/
  created : Option (List Summary)
  /-- The hosts that were changed. -/
  updated : List Summary
  /-- Why hosts could not be registered. -/
  failedCreate : List String
  /-- Why hosts could not be changed. -/
  failedUpdate : List String
  /-- The guests that moved to another host. -/
  migrated : List Migration
  deriving DecidableEq, Repr

/-- The number of hosts in a result. -/
def Outcome.total (o : Outcome) : Nat :=
  (o.created.getD []).length + o.updated.length + o.failedCreate.length + o.failedUpdate.length

/-- What has been recorded of a run. -/
structure Tally where
  /-- Whether hosts that are not registered are to be registered. -/
  createMissing : Bool
  /-- The first state recorded for each host, by its key in lower case. -/
  states : KeyedList HostState
  /-- The guests that moved. -/
  migrated : List Migration
  deriving DecidableEq, Repr

namespace Tally

/-- Nothing recorded. -/
def start (createMissing : Bool) : Tally := ⟨createMissing, [], []⟩

/-- The state recorded for a host. -/
def state? (t : Tally) (hostKey : String) : Option HostState := t.states.find? (Text.lower hostKey)

/-- Whether a host was written. -/
def succeeded (t : Tally) (hostKey : String) : Bool := (t.state? hostKey).any (·.isSuccess)

/-- Records a state for a host that has none. -/
def record (t : Tally) (hostKey : String) (s : HostState) : Tally :=
  match t.state? hostKey with
  | some _ => t
  | none => { t with states := t.states ++ [(Text.lower hostKey, s)] }

/-- Records a state, and tells whether the host had none. -/
def tell (t : Tally) (hostKey : String) (s : HostState) : Bool × Tally :=
  ((t.state? hostKey).isNone, t.record hostKey s)

/-- Records a guest that moved. -/
def recordMigration (t : Tally) (m : Migration) : Tally := { t with migrated := t.migrated ++ [m] }

/-- The number of hosts with a state. -/
def size (t : Tally) : Nat := t.states.length

/-- The result. -/
def outcome (t : Tally) : Outcome :=
  let states := t.states.contents
  let updated := states.filterMap HostState.updated?
  { created :=
      if t.createMissing || !updated.isEmpty then some (states.filterMap HostState.created?)
      else none
    updated := updated
    failedCreate := states.filterMap (HostState.failed? .create)
    failedUpdate := states.filterMap (HostState.failed? .update)
    migrated := t.migrated }

end Tally

end HostRoster
