import HostRoster.Consumer

/-!
# Known consumers

The consumers that a run has looked up, by the keys that reports mention. Hosts are found by their
hypervisor id or by the uuid of the machine, guests by their guest id, always without regard to
case.
-/

namespace HostRoster

/-- The known hosts of an owner. -/
structure KnownHosts where
  /-- The hosts by their uuid. -/
  consumers : Dict Consumer
  /-- The uuid of the last host added with a hypervisor id. -/
  byHypervisorId : Dict String
  /-- The uuid of the last host added with a machine's uuid in lower case. -/
  bySystemUuid : Dict String
  deriving DecidableEq, Repr

namespace KnownHosts

/-- No hosts. -/
def empty : KnownHosts := ⟨.empty, .empty, .empty⟩

/-- The uuid under a key that a consumer may have. -/
def index (keys : Dict String) (key : Option String) (uuid : String) : Dict String :=
  match key with
  | some k => keys.insert k uuid
  | none => keys

/-- The hosts with one more, in place of the one with the same uuid. -/
def insert (k : KnownHosts) (c : Consumer) : KnownHosts where
  consumers := k.consumers.insert c.uuid c
  byHypervisorId := index k.byHypervisorId c.hypervisorId? c.uuid
  bySystemUuid := index k.bySystemUuid (c.systemUuid?.map Text.lower) c.uuid

/-- The hosts of a list, added in order. -/
def ofList (cs : List Consumer) : KnownHosts := cs.foldl insert empty

/-- The host with a uuid. -/
def get? (k : KnownHosts) (uuid : String) : Option Consumer := k.consumers.get? uuid

/-- The host that a hypervisor id means. -/
def withHypervisorId? (k : KnownHosts) (raw : String) : Option Consumer :=
  (k.byHypervisorId.get? (canonical raw)).bind k.get?

/-- The host that a machine's uuid means. -/
def withSystemUuid? (k : KnownHosts) (systemUuid : String) : Option Consumer :=
  (k.bySystemUuid.get? (Text.lower systemUuid)).bind k.get?

/-- The number of hosts. -/
def size (k : KnownHosts) : Nat := k.consumers.size

/-- Whether there is no host. -/
def isEmpty (k : KnownHosts) : Bool := k.consumers.isEmpty

end KnownHosts

/-- The registered guests of an owner by their guest ids in lower case. -/
structure KnownGuests where
  /-- The guests. -/
  consumers : Dict Consumer
  deriving DecidableEq, Repr

namespace KnownGuests

/-- No guests. -/
def empty : KnownGuests := ⟨.empty⟩

/-- The guests with one more, in place of the one with the same guest id. -/
def insert (k : KnownGuests) (guest : String) (c : Consumer) : KnownGuests :=
  ⟨k.consumers.insert (Text.lower guest) c⟩

/-- The guest with a guest id. -/
def get? (k : KnownGuests) (guest : String) : Option Consumer :=
  k.consumers.get? (Text.lower guest)

/-- The number of guests. -/
def size (k : KnownGuests) : Nat := k.consumers.size

/-- Whether there is no guest. -/
def isEmpty (k : KnownGuests) : Bool := k.consumers.isEmpty

end KnownGuests

end HostRoster
