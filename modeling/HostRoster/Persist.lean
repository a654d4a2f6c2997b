import HostRoster.Outcome
import HostRoster.Store.Session

/-!
# Carrying out plans

New consumers are registered one by one, so a host that is rejected fails by itself. Changed ones
are collected and written in at most two calls at the end, one for those whose guests stay the same
and one for the others; a failure there is a failure of the run.
-/

namespace HostRoster

/-- The changed consumers of a run, in order. -/
structure Batches where
  /-- Those whose guests stay the same. -/
  attributes : List Consumer
  /-- The others. -/
  memberships : List Consumer
  deriving DecidableEq, Repr

namespace Batches

/-- No consumers. -/
def empty : Batches := ⟨[], []⟩

/-- The batches with one more consumer. -/
def add (b : Batches) (c : Consumer) (changes : Changes) : Batches :=
  if changes.guestsChanged then { b with memberships := b.memberships ++ [c] }
  else { b with attributes := b.attributes ++ [c] }

/-- Writes the consumers. -/
def flush (b : Batches) : Act Unit := do
  unless b.attributes.isEmpty do Act.updateAttributes b.attributes
  unless b.memberships.isEmpty do Act.updateMemberships b.memberships

end Batches

namespace Tally

/-- Registers a consumer and records what becomes of it. -/
def create (t : Tally) (hostKey : String) (c : Consumer) : StateM Session Tally := do
  match ← (Act.create c).run with
  | .ok created => return t.record hostKey (.created created.summary)
  | .error e =>
    let refusal := Refusal.notCreated c.name e.message
    return t.record hostKey (.failed refusal.kind (refusal.message hostKey))

/-- Registers new consumers, collects changed ones and records what becomes of each host. -/
def carryOut (t : Tally) (b : Batches) : List Mutation → StateM Session (Tally × Batches)
  | [] => return (t, b)
  | .create hostKey c :: rest => do (← t.create hostKey c).carryOut b rest
  | .update hostKey c changes :: rest =>
    (t.record hostKey (.updated c.summary)).carryOut (b.add c changes) rest
  | .skip _ :: rest => t.carryOut b rest
  | .failed hostKey message kind :: rest =>
    (t.record hostKey (.failed kind message)).carryOut b rest

/-- Carries out plans. What was recorded is known even if the run fails. -/
def apply (t : Tally) (ms : List Mutation) : StateM Session (Tally × Except StoreError Unit) := do
  let (t, b) ← t.carryOut .empty ms
  return (t, ← b.flush.run)

end Tally

end HostRoster
