import HostRoster.Proofs.Run.Lockstep
import HostRoster.Proofs.Store.Filing

/-!
# Isolation of owners

A run for an owner is blind to the consumers of all others. In two stores that have the same of the
owner it comes to the same result or fails in both, and leaves the same of the owner, however the
stores differ elsewhere. The one look that goes further is the one for a uuid that is taken, so the
uuids it draws must not be in use with other owners. The errors are the same as well, but for one
thing that has nothing to do with other owners: the consumers of a batch come out of an unordered
map, and a batch that is refused for a clash of ids is refused for the clash that comes first.
-/

namespace HostRoster

/-- Two stores that are the same to runs for an owner. -/
structure Store.SameFor (ownerKey : String) (s s' : Store) : Prop where
  /-- They have the same record of the owner. -/
  owner : s.registry.owners.get? ownerKey = s'.registry.owners.get? ownerKey
  /-- They have the same consumers of the owner. -/
  part : ownedPart s.registry.consumers ownerKey = ownedPart s'.registry.consumers ownerKey
  /-- They refuse the same writes. -/
  faults : s.faults = s'.faults
  /-- They draw from the same supplies. -/
  supplies : s.supplies = s'.supplies

namespace Store

variable {k : String} {s s' : Store}

/-- Units of work on them are the same to such runs. -/
theorem SameFor.start (h : s.SameFor k s') :
    (Session.start s .none).SameFor k (Session.start s' .none) :=
  ⟨⟨h.faults, h.part, rfl, rfl⟩, h.supplies, rfl, rfl⟩

end Store

end HostRoster
