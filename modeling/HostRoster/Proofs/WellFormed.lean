import HostRoster.Proofs.Reflection
import HostRoster.Proofs.Store.Filing

/-!
# Well-formed hosts

A host that has an id holds it in canonical form, lists each guest once and without white space
around it, and has a name that can be shown. New hosts are made so from the entries of a report. A
known host is changed in its id and its guests at once or in one of the two, so what an entry leaves
alone must have been well-formed before.
-/

namespace HostRoster

/-- What is required of a host. -/
structure Consumer.WellFormed (c : Consumer) : Prop where
  /-- Its id, if it has one, is not empty and is its own canonical form. -/
  hypervisorId : ∀ h, c.hypervisorId? = some h → h ≠ "" ∧ Text.trim h = h ∧ Text.lower h = h
  /-- No guest is blank or has white space at its ends. -/
  trimmed : ∀ g ∈ c.guests, Text.isBlank g = false ∧ Text.trim g = g
  /-- Each guest is listed once, in whatever spelling. -/
  guests : Unlike c.guests
  /-- Its name is not blank and not too long. -/
  name : Text.isBlank c.name = false ∧ c.name.length ≤ maxNameLength

/-- A name will do if it is not blank and not too long. -/
theorem checkName_eq_ok_iff {name : String} :
    checkName name = .ok () ↔ Text.isBlank name = false ∧ name.length ≤ maxNameLength := by
  unfold checkName
  cases Text.isBlank name with
  | true => simp
  | false => simp

/-- The id of an entry is its own canonical form. -/
theorem HostEntry.Clean.hypervisorId {e : HostEntry} (he : e.Clean) : e.hypervisorId ≠ "" ∧
    Text.trim e.hypervisorId = e.hypervisorId ∧ Text.lower e.hypervisorId = e.hypervisorId := by
  rw [← he.canonical_hypervisorId]
  refine ⟨fun hempty => ?_, trim_canonical _, lower_canonical _⟩
  have hblank := he.isBlank_hypervisorId
  rw [← he.canonical_hypervisorId, hempty] at hblank
  cases hblank

namespace Consumer.WellFormed

variable {c d : Consumer}

/-- A host may take over the guests of another one. -/
theorem withGuests (h : c.WellFormed) (hd : d.WellFormed) :
    ({ c with guests := d.guests } : Consumer).WellFormed :=
  ⟨h.hypervisorId, hd.trimmed, hd.guests, h.name⟩

/-- The id of the store does not matter. -/
theorem withId (h : c.WellFormed) (id : Option String) :
    ({ c with id := id } : Consumer).WellFormed :=
  ⟨h.hypervisorId, h.trimmed, h.guests, h.name⟩

end Consumer.WellFormed

namespace Planner

variable {p : Planner} {e : HostEntry} {c : Consumer}

/-- A new host with such a name is well formed. -/
theorem wellFormed_newHost (he : e.Clean) (hname : checkName e.name = .ok ()) (uuid : String) :
    (p.newHost e uuid).WellFormed where
  hypervisorId h hh := by
    rw [Consumer.hypervisorId?, identity_newHost he, Option.map_some, Option.some.injEq] at hh
    exact hh ▸ he.hypervisorId
  trimmed := he.trimmed
  guests := he.guests
  name := checkName_eq_ok_iff.mp hname

/-- The id is that of the entry, the guests are those of the entry or stay, and the name stays. -/
theorem wellFormed_changedHost (he : e.Clean) (hc : c.WellFormed) :
    (p.changedHost e c).WellFormed := by
  have hid : ∀ h, (p.changedHost e c).hypervisorId? = some h →
      h ≠ "" ∧ Text.trim h = h ∧ Text.lower h = h := by
    intro h hh
    rw [Consumer.hypervisorId?, identity_changedHost he, Option.map_some, Option.some.injEq] at hh
    exact hh ▸ he.hypervisorId
  have hguests : (p.changedHost e c).guests = (replaceGuests c.guests e.guests).1 := rfl
  rcases replaceGuests_cases c.guests e.guests with hkept | hreplaced
  · rw [hkept] at hguests
    exact ⟨hid, hguests ▸ hc.trimmed, hguests ▸ hc.guests, hc.name⟩
  · rw [hreplaced] at hguests
    exact ⟨hid, hguests ▸ he.trimmed, hguests ▸ he.guests, hc.name⟩

end Planner

/-- All hosts are well-formed. -/
def HostsWellFormed (d : Dict Consumer) : Prop :=
  ∀ ⦃i c⦄, d.get? i = some c → c.isHypervisor = true → c.WellFormed

/-- Consumers stand under their own ids, and all hosts are well-formed. -/
structure Orderly (d : Dict Consumer) : Prop where
  /-- Every consumer stands under its own id. -/
  filed : FiledById d
  /-- Every host is well-formed. -/
  hosts : HostsWellFormed d

namespace Orderly

variable {d : Dict Consumer}

/-- Well-formed hosts may be written over others. -/
theorem overwritten {cs : List Consumer} (h : Orderly d)
    (hcs : ∀ c ∈ cs, c.isHypervisor = true → c.WellFormed) :
    Orderly (Transaction.overwritten d cs) where
  filed := filedById_overwritten h.filed cs
  hosts i c hi hh := by
    rcases Transaction.get?_overwritten_cases hi with ⟨hc, _⟩ | hold
    · exact hcs c hc hh
    · exact h.hosts hold hh

/-- What is orderly may be published to what is. -/
theorem published {t : Transaction} {r : Registry} (hview : Orderly t.view)
    (hr : Orderly r.consumers) : Orderly (t.published r).consumers where
  filed := filedById_published hview.filed hr.filed
  hosts i c hi hh := by
    rcases Transaction.get?_of_published hi with hseen | hold
    · exact hview.hosts hseen hh
    · exact hr.hosts hold hh

/-- A host that keeps the guests of a stored one stays well-formed. -/
theorem keepingGuests {c stored : Consumer} {i : String} (h : Orderly d) (hc : c.WellFormed)
    (hid : c.id = some i) (hi : d.get? i = some stored) (hh : stored.isHypervisor = true) :
    (Transaction.keepingGuests d c).WellFormed := by
  rw [Transaction.keepingGuests_eq hid hi]
  exact hc.withGuests (h.hosts hi hh)

end Orderly

end HostRoster
