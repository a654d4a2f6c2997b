import HostRoster.Access

/-!
# Grants on the command line

A grant is written `owner=level`. Blanks around both parts do not count, and the level may be in
capital letters.
-/

namespace HostRoster

/-- A level of access on an owner. -/
structure Grant where
  /-- The key of the owner. -/
  ownerKey : String
  /-- The level. -/
  level : Access
  deriving DecidableEq, Repr

/-- Why a text is no grant. -/
inductive GrantError where
  /-- There is no equals sign. -/
  | noEquals (text : String)
  /-- There is nothing before the equals sign. -/
  | noOwner (text : String)
  /-- The level is none. -/
  | level (cause : ModelError)
  deriving DecidableEq, Repr

/-- The error as it is shown. -/
def GrantError.message : GrantError → String
  | .noEquals text => "expected owner=access, got " ++ text
  | .noOwner text => "missing owner in " ++ text
  | .level cause => cause.message

/-- The characters before the first of a kind and those after it. -/
def splitAtFirst (c : Char) : List Char → Option (List Char × List Char)
  | [] => none
  | d :: rest =>
    if d = c then some ([], rest) else (splitAtFirst c rest).map fun p => (d :: p.1, p.2)

/-- Reads a grant. -/
def Grant.parse (text : String) : Except GrantError Grant :=
  match splitAtFirst '=' text.toList with
  | none => .error (.noEquals text)
  | some (owner, level) =>
    let owner := Text.trimChars owner
    if owner.isEmpty then .error (.noOwner text)
    else
      ((Access.parse (String.ofList level)).mapError .level).map fun a => ⟨String.ofList owner, a⟩

/-- The principal that a user name, the admin flag and grants make; of grants on one owner the last
counts. -/
def Principal.ofGrants (username : String) (admin : Bool) (grants : List Grant) : Principal :=
  grants.foldl (fun p g => p.grant g.ownerKey g.level)
    (if admin then .admin username else .user username)

end HostRoster
