import HostRoster.Dict
import HostRoster.Identity
import HostRoster.Timestamp.Basic

/-!
# Consumers

A consumer is a registered machine: a hypervisor, which runs guests, or a system. Guest ids keep the
spelling of the report and are compared without regard to case.
-/

namespace HostRoster

/-- Why a value of the model cannot be made. -/
inductive ModelError where
  /-- A name is empty or white space. -/
  | blankName
  /-- A name has too many characters. -/
  | nameTooLong
  /-- A text names no level of access. -/
  | unknownAccess (text : String)
  deriving DecidableEq, Repr

/-- The greatest number of characters of a name. -/
def maxNameLength : Nat := 255

/-- The error as it is shown. -/
def ModelError.message : ModelError → String
  | .blankName => "Consumer name must not be blank"
  | .nameTooLong =>
    "Name of the consumer should be shorter than " ++ toString maxNameLength ++ " characters."
  | .unknownAccess text => "Unknown access level: " ++ text

/-- Checks the name of a new consumer. -/
def checkName (name : String) : Except ModelError Unit :=
  if Text.isBlank name then .error .blankName
  else if name.length > maxNameLength then .error .nameTooLong
  else .ok ()

/-- What a consumer is. -/
inductive ConsumerKind where
  /-- A machine that runs no guests. -/
  | system
  /-- A machine that runs guests. -/
  | hypervisor
  deriving DecidableEq, Repr

/-- The name of a kind. -/
def ConsumerKind.label : ConsumerKind → String
  | .system => "system"
  | .hypervisor => "hypervisor"

/-- The fact that holds the uuid of the machine itself. -/
def systemUuidFact : String := "dmi.system.uuid"

/-- The fact that holds the id under which a machine is some host's guest. -/
def virtUuidFact : String := "virt.uuid"

/-- A registered machine. -/
structure Consumer where
  /-- The key in the store, which the store assigns. -/
  id : Option String
  /-- The uuid that others know the consumer by. -/
  uuid : String
  /-- The name to show. -/
  name : String
  /-- The key of the owner. -/
  ownerKey : String
  /-- What the consumer is. -/
  kind : ConsumerKind
  /-- What a host is known by. -/
  identity : Option Identity
  /-- The ids of the guests. -/
  guests : List String
  /-- What is known of the machine. -/
  facts : Dict String
  /-- When the consumer was last heard of. -/
  lastCheckin : Option Timestamp
  deriving DecidableEq, Repr

namespace Consumer

/-- A new consumer of which nothing else is known. -/
def make (kind : ConsumerKind) (uuid name ownerKey : String) : Except ModelError Consumer := do
  checkName name
  .ok ⟨none, uuid, name, ownerKey, kind, none, [], .empty, none⟩

/-- Whether the consumer is a hypervisor. -/
def isHypervisor (c : Consumer) : Bool := c.kind == .hypervisor

/-- The hypervisor id, if there is an identity. -/
def hypervisorId? (c : Consumer) : Option String := c.identity.map (·.hypervisorId)

/-- The reporter that looks after the host. -/
def reporterId? (c : Consumer) : Option String := c.identity.bind (·.reporterId)

/-- The uuid of the machine itself. -/
def systemUuid? (c : Consumer) : Option String := c.facts.get? systemUuidFact

/-- The id under which the machine is some host's guest. -/
def virtUuid? (c : Consumer) : Option String := c.facts.get? virtUuidFact

/-- Whether a guest is listed, in whatever spelling. -/
def hasGuest (c : Consumer) (guest : String) : Bool := c.guests.any (Text.sameLetters · guest)

/-- The consumer in a message. -/
def description (c : Consumer) : String :=
  "Consumer(uuid: " ++ c.uuid ++ ", name: " ++ c.name ++ ", type: " ++ c.kind.label ++
    ", owner: " ++ c.ownerKey ++ ")"

end Consumer

end HostRoster
