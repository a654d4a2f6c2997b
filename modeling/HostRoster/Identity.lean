import HostRoster.Text.Lowercase

/-!
# Identities

A host reports itself by a hypervisor id. Ids are compared in a canonical form, without white space
at the ends and in lower case. Next to the id an identity may name the reporter that looks after the
host.
-/

namespace HostRoster

/-- The form in which hypervisor ids are compared and stored. -/
def canonical (raw : String) : String := Text.lower (Text.trim raw)

/-- What a host is known by. -/
structure Identity where
  /-- The hypervisor id; canonical if it was made from a report. -/
  hypervisorId : String
  /-- The reporter that looks after the host. -/
  reporterId : Option String
  deriving DecidableEq, Repr

namespace Identity

/-- The identity with the canonical form of a reported id. -/
def ofReported (raw : String) (reporter : Option String) : Identity := ⟨canonical raw, reporter⟩

/-- Whether a reported id means this identity. -/
def isMeantBy (i : Identity) (raw : String) : Bool := i.hypervisorId == canonical raw

end Identity

end HostRoster
