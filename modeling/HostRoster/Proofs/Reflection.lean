import HostRoster.Proofs.Guests
import HostRoster.Proofs.Plan
import HostRoster.Proofs.Store.Holders

/-!
# Hosts as their entries have them

A host that was registered or changed for an entry reflects the entry: it holds the id of the entry,
and the entry has nothing left to change in it but the time of the last check-in.
-/

namespace HostRoster

/-- There is no new identity if the consumer has the reported id and the reporter, if any. -/
theorem HostEntry.newIdentity?_eq_none_iff {e : HostEntry} {c : Consumer}
    {reporter : Option String} :
    e.newIdentity? c reporter = none ↔
      c.hypervisorId? = some e.hypervisorId ∧ ∀ r ∈ reporter, c.reporterId? = some r := by
  unfold newIdentity?
  simp only [ite_eq_right_iff, reduceCtorEq, imp_false, Bool.or_eq_true, not_or, bne_iff_ne, ne_eq,
    Decidable.not_not, Option.any_eq_true, not_exists, not_and, Option.mem_def]

/-- A consumer without a new identity has the reported id. -/
theorem hypervisorId?_of_newIdentity? {e : HostEntry} {c : Consumer} {reporter : Option String}
    (h : e.newIdentity? c reporter = none) : c.hypervisorId? = some e.hypervisorId :=
  (HostEntry.newIdentity?_eq_none_iff.mp h).1

/-- A new identity has the id of the entry and the reporter, or else the stored one. -/
theorem HostEntry.eq_of_newIdentity? {e : HostEntry} {c : Consumer} {reporter : Option String}
    {i : Identity} (h : e.newIdentity? c reporter = some i) :
    i = .ofReported e.hypervisorId (reporter.or c.reporterId?) := by
  unfold newIdentity? at h
  exact (Option.some.inj (Option.ite_none_right_eq_some.mp h).2).symm

namespace Planner

/-- A host of the owner in which an entry has nothing to change but the last check-in. -/
structure Reflects (p : Planner) (e : HostEntry) (c : Consumer) : Prop where
  /-- It is a consumer of the owner. -/
  ownerKey : c.ownerKey = p.owner.key
  /-- It is a hypervisor. -/
  isHypervisor : c.isHypervisor = true
  /-- It keeps its identity. -/
  identity : e.newIdentity? c p.reporter = none
  /-- It keeps its facts. -/
  facts : e.facts.getD c.facts = c.facts
  /-- It keeps its guests. -/
  guests : (GuestDiff.between c.guests e.guests).isEmpty = true

variable {p : Planner} {e : HostEntry} {c : Consumer}

/-- A new host has the id of the entry and the reporter. -/
theorem identity_newHost (he : e.Clean) (uuid : String) :
    (p.newHost e uuid).identity = some ⟨e.hypervisorId, p.reporter⟩ := by
  rw [newHost, Identity.ofReported, he.canonical_hypervisorId]

/-- A changed host has the id of the entry and the reporter, or else the stored one. -/
theorem identity_changedHost (he : e.Clean) (c : Consumer) :
    (p.changedHost e c).identity = some ⟨e.hypervisorId, p.reporter.or c.reporterId?⟩ := by
  rw [changedHost]
  cases hnew : e.newIdentity? c p.reporter with
  | some i =>
    rw [Option.some_or, HostEntry.eq_of_newIdentity? hnew, Identity.ofReported,
      he.canonical_hypervisorId]
  | none =>
    obtain ⟨hid, hreporter⟩ := HostEntry.newIdentity?_eq_none_iff.mp hnew
    obtain ⟨i, hi, hheld⟩ := Option.map_eq_some_iff.mp hid
    have hkept : p.reporter.or c.reporterId? = i.reporterId := by
      have hstored : c.reporterId? = i.reporterId := by
        rw [Consumer.reporterId?, hi, Option.bind_some]
      cases hgiven : p.reporter with
      | none => rw [Option.none_or, hstored]
      | some r => rw [Option.some_or, ← hstored, hreporter r hgiven]
    rw [Option.none_or, hi, hkept, ← hheld]

/-- It holds the id of the entry. -/
theorem Reflects.held? (h : p.Reflects e c) : c.held? p.owner.key = some e.hypervisorId :=
  Consumer.held?_eq_some_iff.mpr
    ⟨h.ownerKey, h.isHypervisor, hypervisorId?_of_newIdentity? h.identity⟩

/-- The id of the store does not matter. -/
theorem Reflects.withId (h : p.Reflects e c) (id : Option String) :
    p.Reflects e { c with id := id } :=
  ⟨h.ownerKey, h.isHypervisor, h.identity, h.facts, h.guests⟩

/-- An identity made from a report is not new to the same report. -/
theorem newIdentity?_ofReported (he : e.Clean) {reporter : Option String} (stored : Option String)
    (hc : c.identity = some (.ofReported e.hypervisorId (reporter.or stored))) :
    e.newIdentity? c reporter = none := by
  refine HostEntry.newIdentity?_eq_none_iff.mpr ⟨?_, fun r hr => ?_⟩
  · rw [Consumer.hypervisorId?, hc, Option.map_some, Identity.ofReported,
      he.canonical_hypervisorId]
  · rw [Consumer.reporterId?, hc, Option.bind_some, Identity.ofReported, Option.mem_def.mp hr,
      Option.some_or]

/-- A new host reflects its entry. -/
theorem reflects_newHost (he : e.Clean) (uuid : String) : p.Reflects e (p.newHost e uuid) where
  ownerKey := rfl
  isHypervisor := rfl
  identity := newIdentity?_ofReported he none (by rw [Option.or_none]; rfl)
  facts := by cases hfacts : e.facts <;> simp [newHost, hfacts]
  guests := GuestDiff.isEmpty_between_self he.guests

/-- An entry has no other identity for what it has changed, whoever owns it. -/
theorem newIdentity?_changedHost (he : e.Clean) (c : Consumer) :
    e.newIdentity? (p.changedHost e c) p.reporter = none :=
  newIdentity?_ofReported he c.reporterId?
    (by rw [identity_changedHost he, Identity.ofReported, he.canonical_hypervisorId])

/-- It has no other facts for it. -/
theorem facts_changedHost (e : HostEntry) (c : Consumer) :
    e.facts.getD (p.changedHost e c).facts = (p.changedHost e c).facts := by
  cases hfacts : e.facts <;> simp [changedHost, hfacts]

theorem reflects_changedHost (he : e.Clean) (ho : c.ownerKey = p.owner.key)
    (hh : c.isHypervisor = true) : p.Reflects e (p.changedHost e c) where
  ownerKey := ho
  isHypervisor := hh
  identity := newIdentity?_changedHost he c
  facts := facts_changedHost e c
  guests := isEmpty_between_replaceGuests he.guests

/-- A host that reflects an entry is changed in its last check-in only. -/
theorem changedHost_of_reflects (h : p.Reflects e c) :
    p.changedHost e c = { c with lastCheckin := some p.now } := by
  rw [changedHost, h.identity, Option.none_or, h.facts, replaceGuests_of_isEmpty h.guests]

/-- Its guests do not change. -/
theorem guestsChanged_of_reflects (h : p.Reflects e c) :
    (p.hostChanges e c).guestsChanged = false := by
  rw [Changes.guestsChanged, hostChanges, replaceGuests]
  simp [h.guests]

end Planner

end HostRoster
