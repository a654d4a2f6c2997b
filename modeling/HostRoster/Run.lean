import HostRoster.Access
import HostRoster.Persist

/-!
# Runs

A run works inside one unit of work: a report is reconciled with the registered hosts, or the hosts
of a reporter are marked as heard of. Failures of single hosts are part of the result. A run that
fails as a whole is rolled back, and nothing of it is committed.
-/

namespace HostRoster

/-- Why a run fails. -/
inductive RunError where
  /-- There is no owner with the key. -/
  | ownerNotFound (key : String)
  /-- Hosts and guests of the owner must not be attached. -/
  | autobindDisabled (ownerKey : String)
  /-- The principal may not do this. -/
  | accessDenied (principal : String) (required : Access) (ownerKey : String)
  /-- The store fails. -/
  | store (cause : StoreError)
  deriving DecidableEq, Repr

/-- The error as it is shown. -/
def RunError.message : RunError → String
  | .ownerNotFound key => "Owner with key " ++ key ++ " was not found"
  | .autobindDisabled key =>
    "Could not update host/guest mapping. Auto-attach is disabled for owner " ++ key ++ "."
  | .accessDenied principal required key =>
    principal ++ " does not have " ++ required.title ++ " access to owner " ++ key
  | .store cause => "Storage error: " ++ cause.message

/-- What a report is to be reconciled for. -/
structure Request where
  /-- The key of the owner. -/
  ownerKey : String
  /-- Whether hosts that are not registered are to be registered. -/
  createMissing : Bool
  /-- The reporter to record. -/
  reporter : Option String
  /-- Who submits the report. -/
  principal : Principal
  /-- The report. -/
  report : Report
  deriving DecidableEq, Repr

/-- What a heartbeat is for. -/
structure Heartbeat where
  /-- The key of the owner. -/
  ownerKey : String
  /-- The reporter whose hosts were heard of. -/
  reporter : String
  /-- Who submits the heartbeat. -/
  principal : Principal
  deriving DecidableEq, Repr

/-- The result of a heartbeat. -/
structure HeartbeatOutcome where
  /-- The key of the owner. -/
  ownerKey : String
  /-- The reporter. -/
  reporter : String
  /-- The number of hosts. -/
  updated : Nat
  deriving DecidableEq, Repr

/-- A part of a run. -/
abbrev RunM (α : Type) := ExceptT RunError (StateM Session) α

/-- Calls of the store as a part of a run. -/
def Act.inRun {α : Type} (act : Act α) : RunM α := act.adapt .store

/-- The owner, if there is one and the principal may change its consumers. -/
def authorizedOwner (authorizer : Authorizer) (ownerKey : String) (principal : Principal) :
    RunM Owner := do
  match ← (Act.owner? ownerKey).inRun with
  | none => throw (.ownerNotFound ownerKey)
  | some o =>
    if authorizer principal o .update then return o
    else throw (.accessDenied principal.description .update o.key)

/-- The texts of a list as a set. -/
def Keys.ofList (l : List String) : Keys := l.foldl .add .empty

/-- The hypervisor ids of entries. -/
def reportedIds (es : List HostEntry) : Keys := .ofList (es.map (·.hypervisorId))

/-- The uuids of machines in entries, in lower case. -/
def reportedSystemUuids (es : List HostEntry) : Keys :=
  .ofList ((es.filterMap HostEntry.systemUuid?).map Text.lower)

/-- The guest ids in entries, in lower case. -/
def reportedGuests (es : List HostEntry) : Keys :=
  .ofList ((es.flatMap (·.guests)).map Text.lower)

/-- The guests that a mutation adds to a host, with the host's key and uuid. -/
def Mutation.addedGuests : Mutation → List (String × String × String)
  | .create hostKey c => c.guests.map fun g => (hostKey, c.uuid, g)
  | .update hostKey c changes => changes.guests.additions.map fun g => (hostKey, c.uuid, g)
  | _ => []

/-- The registered guests that mutations add to hosts, with the keys of the hosts. -/
def migrations (ms : List Mutation) (guests : KnownGuests) : List (String × Migration) :=
  (ms.flatMap (·.addedGuests)).filterMap fun (hostKey, hostUuid, g) =>
    (guests.get? g).map fun c => (hostKey, ⟨g, c.uuid, hostUuid⟩)

/-- Why the principal of a request may not register hosts, if they are to be registered. -/
def Request.denial? (r : Request) (authorizer : Authorizer) (o : Owner) : Option String :=
  if r.createMissing && !authorizer r.principal o .create then
    some (r.principal.description ++ " does not have permission to create consumers in owner " ++
      o.key)
  else none

/-- The registered guests of entries; nothing is looked up if there are none. -/
def lookUpGuests (ownerKey : String) (guestIds : Keys) : Act KnownGuests :=
  if guestIds.isEmpty then return .empty else Act.guestConsumers ownerKey guestIds

/-- The plans for the entries of a report. -/
def planIn (p : Planner) (known : KnownHosts) (es : List HostEntry) : RunM (List Mutation) := do
  let s ← get
  let (ms, uuids) := p.planEntries known s.supplies.uuids es
  set { s with supplies := { s.supplies with uuids := uuids } }
  return ms

/-- Records the guests that moved to hosts that were written. -/
def Tally.recordMigrations (t : Tally) (l : List (String × Migration)) : Tally :=
  (l.filter fun m => t.succeeded m.1).foldl (fun t m => t.recordMigration m.2) t

/-- Reconciles a report within a unit of work. -/
def Request.attempt (r : Request) (authorizer : Authorizer) (now : Timestamp) : RunM Outcome := do
  let o ← authorizedOwner authorizer r.ownerKey r.principal
  if o.autobindDisabled then throw (.autobindDisabled o.key)
  let es := r.report.entries
  let known ← (Act.hostConsumers o.key (reportedIds es) (reportedSystemUuids es)).inRun
  let guests ← (lookUpGuests o.key (reportedGuests es)).inRun
  let planner : Planner := ⟨o, r.createMissing, r.reporter, now, r.denial? authorizer o⟩
  let ms ← planIn planner known es
  let (t, written) ← ((Tally.start r.createMissing).apply ms : StateM Session _)
  match written with
  | .error e => throw (.store e)
  | .ok () => return (t.recordMigrations (migrations ms guests)).outcome

/-- Marks the hosts of a reporter as heard of within a unit of work. -/
def Heartbeat.attempt (h : Heartbeat) (authorizer : Authorizer) (now : Timestamp) :
    RunM HeartbeatOutcome := do
  let o ← authorizedOwner authorizer h.ownerKey h.principal
  let cs ← (Act.consumersOfReporter o.key h.reporter).inRun
  unless cs.isEmpty do
    (Act.updateAttributes (cs.map fun c => { c with lastCheckin := some now })).inRun
  return ⟨h.ownerKey, h.reporter, cs.length⟩

/-- The circumstances of a run. -/
structure Circumstances where
  /-- Decides what the principal may do. -/
  authorizer : Authorizer
  /-- The time. -/
  now : Timestamp
  /-- The calls that are out of order. -/
  outages : Outages
  /-- A consumer that someone else registers right after the run has opened its unit of work. -/
  competitor : Option Consumer

/-- Registers a consumer in a unit of work of its own. -/
def Store.registerAlone (s : Store) (c : Consumer) : Except StoreError Unit × Store :=
  let (result, session) := (Act.create c).run (.start s .none)
  let s := session.leave s
  match result with
  | .error e => (.error e, s)
  | .ok _ => s.commit session.work

/-- What the competitor of a run does to the store. -/
def Store.compete (s : Store) : Option Consumer → Except StoreError Unit × Store
  | none => (.ok (), s)
  | some c => s.registerAlone c

/-- Commits the unit of work of a run that has come to a result. -/
def Store.settle {α : Type} (s : Store) (outages : Outages) (work : Transaction) (result : α) :
    Except RunError α × Store :=
  match outages .commit with
  | some message => (.error (.store (.backend message)), s)
  | none =>
    match s.commit work with
    | (.error e, s) => (.error (.store e), s)
    | (.ok (), s) => (.ok result, s)

/-- Rolls back the unit of work of a run that has failed. -/
def Store.abandon (s : Store) (outages : Outages) : Store :=
  match outages .rollback with
  | some _ => s
  | none => s.rollback

/-- A run: opens a unit of work, makes the attempt in it, and commits or rolls back. -/
def Store.execute {α : Type} (s : Store) (c : Circumstances)
    (attempt : Authorizer → Timestamp → RunM α) : Except RunError α × Store :=
  match c.outages .start with
  | some message => (.error (.store (.backend message)), s)
  | none =>
    let session := Session.start s c.outages
    match s.compete c.competitor with
    | (.error e, s) => (.error (.store e), s)
    | (.ok (), s) =>
      let session := { session with usage := s.usage, supplies := s.supplies }
      match (attempt c.authorizer c.now).run session with
      | (.ok result, session) => (session.leave s).settle c.outages session.work result
      | (.error e, session) => (.error e, (session.leave s).abandon c.outages)

/-- Reconciles a report. -/
def Store.reconcile (s : Store) (c : Circumstances) (r : Request) :
    Except RunError Outcome × Store :=
  s.execute c r.attempt

/-- Marks the hosts of a reporter as heard of. -/
def Store.heartbeat (s : Store) (c : Circumstances) (h : Heartbeat) :
    Except RunError HeartbeatOutcome × Store :=
  s.execute c h.attempt

end HostRoster
