import HostRoster.Known
import HostRoster.Report.Entry

/-!
# Matching entries with consumers

A reported machine uuid wins over the hypervisor id, so a host is recognised under a new id. It is
not moved to an id that another consumer holds, and no consumer is matched twice in one report.
-/

namespace HostRoster

/-- What an entry means. -/
inductive Decision where
  /-- A registered host. -/
  | existing (consumer : Consumer)
  /-- A host that is not registered. -/
  | missing
  /-- A registered host that an earlier entry meant, which is named by its host key. -/
  | alreadyClaimed (claimant : String)
  /-- A registered host under an id that another consumer holds, which is named by its uuid. -/
  | identityTaken (holder : String)
  deriving DecidableEq, Repr

/-- The host keys of the entries that consumers were matched with, by the uuid of the consumer. -/
abbrev Claims := Dict String

/-- The consumer that an entry means. -/
def HostEntry.meant? (e : HostEntry) (known : KnownHosts) : Option Consumer :=
  (e.systemUuid?.bind known.withSystemUuid?).or (known.withHypervisorId? e.hypervisorId)

/-- What an entry means after earlier ones were matched. -/
def HostEntry.resolve (e : HostEntry) (known : KnownHosts) (claims : Claims) : Decision × Claims :=
  match e.meant? known with
  | none => (.missing, claims)
  | some c =>
    match claims.get? c.uuid with
    | some claimant => (.alreadyClaimed claimant, claims)
    | none =>
      match (known.withHypervisorId? e.hypervisorId).filter fun holder => holder.uuid != c.uuid with
      | some holder => (.identityTaken holder.uuid, claims)
      | none => (.existing c, claims.insert c.uuid e.hostKey)

/-- What the entries of a report mean, matched in order. -/
def decisions (known : KnownHosts) (claims : Claims) : List HostEntry → List Decision
  | [] => []
  | e :: rest =>
    let (d, claims) := e.resolve known claims
    d :: decisions known claims rest

/-- The identity that a consumer takes from an entry, or nothing if it keeps its own. A reporter
that is not given does not replace the stored one. -/
def HostEntry.newIdentity? (e : HostEntry) (c : Consumer) (reporter : Option String) :
    Option Identity :=
  let idChanged := c.hypervisorId? != some e.hypervisorId
  let reporterChanged := reporter.any fun r => c.reporterId? != some r
  if idChanged || reporterChanged then
    some (.ofReported e.hypervisorId (reporter.or c.reporterId?))
  else none

end HostRoster
