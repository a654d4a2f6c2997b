/-!
# Owners

Every consumer belongs to an owner, such as a department or a customer.
-/

namespace HostRoster

/-- Who consumers belong to. -/
structure Owner where
  /-- The key that consumers name their owner by. -/
  key : String
  /-- The name to show. -/
  displayName : String
  /-- Whether hosts and guests must not be attached without being asked. -/
  autobindDisabled : Bool
  deriving DecidableEq, Repr

/-- The owner whose name is its key. -/
def Owner.named (key : String) : Owner := ⟨key, key, false⟩

end HostRoster
