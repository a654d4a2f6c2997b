import HostRoster.Guests
import HostRoster.Matching
import HostRoster.Owner
import HostRoster.Supply

/-!
# Plans

What is to be written for each entry of a report: a new consumer, a changed one, or nothing because
the entry cannot be carried out. Planning writes nothing itself.
-/

namespace HostRoster

/-- Which list of failures a host belongs to. -/
inductive FailureKind where
  /-- The host could not be registered. -/
  | create
  /-- The host could not be changed. -/
  | update
  deriving DecidableEq, Repr

/-- What an update changes. -/
structure Changes where
  /-- The new identity, if it is another one. -/
  identity : Option Identity
  /-- Whether the facts change. -/
  facts : Bool
  /-- How the guests change. -/
  guests : GuestDiff
  deriving DecidableEq, Repr

/-- Whether the list of guests changes. -/
def Changes.guestsChanged (c : Changes) : Bool := !c.guests.isEmpty

/-- What is to be written for a host. -/
inductive Mutation where
  /-- A new consumer. -/
  | create (hostKey : String) (consumer : Consumer)
  /-- A changed consumer. -/
  | update (hostKey : String) (consumer : Consumer) (changes : Changes)
  /-- Nothing, because there is no need to. -/
  | skip (hostKey : String)
  /-- Nothing, because the host failed. -/
  | failed (hostKey : String) (message : String) (kind : FailureKind)
  deriving DecidableEq, Repr

/-- The key of the host. -/
def Mutation.hostKey : Mutation → String
  | .create k _ => k
  | .update k _ _ => k
  | .skip k => k
  | .failed k _ _ => k

/-- Why a host is not written. -/
inductive Refusal where
  /-- An earlier entry of the report means the same consumer. -/
  | alreadyReported (claimant : String)
  /-- Another consumer holds the id. -/
  | idInUse (hypervisorId holder : String)
  /-- The host is not registered, and new ones are not wanted. -/
  | notFound (ownerKey : String)
  /-- The host cannot be registered. -/
  | notCreated (name cause : String)
  deriving DecidableEq, Repr

namespace Refusal

/-- The refusal as it is shown for a host. -/
def message (hostKey : String) : Refusal → String
  | .alreadyReported claimant =>
    hostKey ++ ": Hypervisor already reported as \"" ++ claimant ++ "\" in this report"
  | .idInUse id holder =>
    hostKey ++ ": Hypervisor id \"" ++ id ++ "\" is already used by consumer \"" ++ holder ++ "\""
  | .notFound ownerKey =>
    hostKey ++ ": Unable to find hypervisor in org \"" ++ ownerKey ++ "\""
  | .notCreated name cause => "Problem creating unit " ++ name ++ ": " ++ cause

/-- The list of failures that the host belongs to. -/
def kind : Refusal → FailureKind
  | .notCreated _ _ => .create
  | _ => .update

/-- The mutation of a host that is not written. -/
def mutation (r : Refusal) (hostKey : String) : Mutation :=
  .failed hostKey (r.message hostKey) r.kind

end Refusal

/-- What all entries of a run have in common. -/
structure Planner where
  /-- The owner of the hosts. -/
  owner : Owner
  /-- Whether hosts that are not registered are to be registered. -/
  createMissing : Bool
  /-- The reporter to record. -/
  reporter : Option String
  /-- The time of the run. -/
  now : Timestamp
  /-- Why nothing may be registered. -/
  createDenied : Option String

namespace Planner

/-- The plan for a host that is to be registered. The supply loses a uuid unless registering is
denied. -/
def planCreate (p : Planner) (e : HostEntry) (uuids : Supply) : Mutation × Supply :=
  match p.createDenied with
  | some cause => ((Refusal.notCreated e.name cause).mutation e.hostKey, uuids)
  | none =>
    match Consumer.make .hypervisor uuids.next e.name p.owner.key with
    | .error cause => ((Refusal.notCreated e.name cause.message).mutation e.hostKey, uuids.rest)
    | .ok c =>
      (.create e.hostKey
        { c with
          identity := some (.ofReported e.hypervisorId p.reporter)
          facts := e.facts.getD .empty
          guests := e.guests
          lastCheckin := some p.now },
        uuids.rest)

/-- The plan for a registered host. -/
def planUpdate (p : Planner) (e : HostEntry) (c : Consumer) : Mutation :=
  let identity := e.newIdentity? c p.reporter
  let facts := e.facts.getD c.facts
  let (guests, diff) := replaceGuests c.guests e.guests
  .update e.hostKey
    { c with
      identity := identity.or c.identity
      facts := facts
      guests := guests
      lastCheckin := some p.now }
    { identity := identity, facts := facts != c.facts, guests := diff }

/-- The plan for an entry. -/
def plan (p : Planner) (e : HostEntry) (uuids : Supply) : Decision → Mutation × Supply
  | .existing c => (p.planUpdate e c, uuids)
  | .alreadyClaimed claimant => ((Refusal.alreadyReported claimant).mutation e.hostKey, uuids)
  | .identityTaken holder => ((Refusal.idInUse e.hypervisorId holder).mutation e.hostKey, uuids)
  | .missing =>
    if p.createMissing then p.planCreate e uuids
    else ((Refusal.notFound p.owner.key).mutation e.hostKey, uuids)

/-- The plans for entries with their decisions, in order. -/
def planAll (p : Planner) (uuids : Supply) : List (HostEntry × Decision) → List Mutation × Supply
  | [] => ([], uuids)
  | (e, d) :: rest =>
    let (m, uuids) := p.plan e uuids d
    let (ms, uuids) := p.planAll uuids rest
    (m :: ms, uuids)

/-- The plans for the entries of a report. -/
def planEntries (p : Planner) (known : KnownHosts) (uuids : Supply) (es : List HostEntry) :
    List Mutation × Supply :=
  p.planAll uuids (es.zip (decisions known .empty es))

end Planner

end HostRoster
