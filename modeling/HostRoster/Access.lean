import HostRoster.Consumer
import HostRoster.Owner

/-!
# Access

What a principal may do with the consumers of an owner. The levels are ordered, and each implies the
lower ones. A super admin holds every level on every owner.
-/

namespace HostRoster

/-- A level of access. -/
inductive Access where
  /-- Seeing consumers. -/
  | read
  /-- Changing consumers. -/
  | update
  /-- Registering consumers. -/
  | create
  deriving DecidableEq, Repr

namespace Access

/-- The place of a level in the order. -/
def rank : Access → Nat
  | .read => 0
  | .update => 1
  | .create => 2

/-- Whether a held level is enough for a required one. -/
def allows (held required : Access) : Bool := required.rank ≤ held.rank

/-- The levels by their written names. -/
def names : List (String × Access) := [("read", .read), ("update", .update), ("create", .create)]

/-- The name of a level. -/
def label : Access → String
  | .read => "read"
  | .update => "update"
  | .create => "create"

/-- The name of a level in a message. -/
def title : Access → String
  | .read => "Read"
  | .update => "Update"
  | .create => "Create"

/-- Reads a level by its name, in small or capital letters and between blanks. -/
def parse (text : String) : Except ModelError Access :=
  match names.lookup (Text.lowerAscii (Text.trim text)) with
  | some a => .ok a
  | none => .error (.unknownAccess text)

end Access

/-- Who submits a report. -/
structure Principal where
  /-- The name of the user. -/
  username : String
  /-- Whether every access is granted. -/
  superAdmin : Bool
  /-- The level held on each owner, by its key. -/
  grants : Dict Access
  deriving DecidableEq, Repr

namespace Principal

/-- A user without any access. -/
def user (username : String) : Principal := ⟨username, false, .empty⟩

/-- A super admin. -/
def admin (username : String) : Principal := ⟨username, true, .empty⟩

/-- The principal with a level on one more owner. -/
def grant (p : Principal) (ownerKey : String) (level : Access) : Principal :=
  { p with grants := p.grants.insert ownerKey level }

/-- The level held on an owner. -/
def accessTo (p : Principal) (ownerKey : String) : Option Access :=
  if p.superAdmin then some .create else p.grants.get? ownerKey

/-- The principal in a message. -/
def description (p : Principal) : String :=
  "Principal(" ++ (if p.superAdmin then "admin" else "user") ++ ": " ++ p.username ++ ")"

end Principal

/-- Decides whether a principal may act on an owner. -/
abbrev Authorizer := Principal → Owner → Access → Bool

/-- Decides by the level that the principal holds on the owner. -/
def Authorizer.byGrants : Authorizer := fun p o required =>
  (p.accessTo o.key).any (·.allows required)

end HostRoster
