/-!
# Errors of the store

Why calls of the store fail, and what such calls are: they change a state step by step, and where
one fails, what it has done up to there stays done.
-/

namespace HostRoster

/-- Why the store does not accept a write. -/
inductive Rejection where
  /-- The name of the consumer is refused. -/
  | refusedName (message : String)
  /-- Another consumer has the uuid. -/
  | uuidTaken (uuid : String)
  /-- A consumer to change is not in the store. -/
  | notPersisted (uuid : String)
  /-- Two consumers of an owner would hold one hypervisor id. -/
  | idShared (hypervisorId first second ownerKey : String)
  deriving DecidableEq, Repr

/-- The rejection as it is shown. -/
def Rejection.message : Rejection → String
  | .refusedName message => message
  | .uuidTaken uuid => "Consumer with uuid " ++ uuid ++ " already exists"
  | .notPersisted uuid => "Consumer " ++ uuid ++ " has not been persisted"
  | .idShared id first second ownerKey =>
    "Hypervisor id " ++ id ++ " is used by both " ++ first ++ " and " ++ second ++ " in owner " ++
      ownerKey

/-- Why a call of the store fails. -/
inductive StoreError where
  /-- The store itself fails. -/
  | backend (message : String)
  /-- The store does not accept a write. -/
  | rejected (cause : Rejection)
  /-- Another unit of work has changed the consumers of an owner. -/
  | conflict (ownerKey : String)
  deriving DecidableEq, Repr

/-- The error as it is shown. -/
def StoreError.message : StoreError → String
  | .backend message => "Storage error: " ++ message
  | .rejected cause => cause.message
  | .conflict ownerKey => "Concurrent modification detected for owner " ++ ownerKey

/-- Calls that change a state; what was done before a failure stays done. -/
abbrev Effect (σ α : Type) : Type := ExceptT StoreError (StateM σ) α

namespace Effect

variable {σ τ α : Type}

/-- Fails for the reason that a check of the state gives, if it gives one. -/
def check (f : σ → Except StoreError Unit) : Effect σ Unit := do
  match f (← get) with
  | .ok () => return
  | .error e => throw e

/-- Calls that change a part of a state. -/
def onPart (part : σ → τ) (put : σ → τ → σ) (x : Effect τ α) : Effect σ α :=
  ExceptT.mk fun s =>
    let (answer, p) := x.run.run (part s)
    (answer, put s p)

end Effect

end HostRoster
