import HostRoster.Proofs.Reflection

/-!
# What an update changes

The plan for a registered host says what it changes. It says so exactly: an identity, facts or
guests are said to change if the planned consumer has others, whatever was stored before, even
guests that repeat. Once the plan is carried out, the entry has nothing left to change.
-/

namespace HostRoster

/-- What is said to change of a consumer is what another one has in its place. -/
structure Changes.Exact (changes : Changes) (c c' : Consumer) : Prop where
  /-- Only the identity, the facts, the guests and the last check-in may be other ones. -/
  rest : c' = { c with
    identity := c'.identity
    facts := c'.facts
    guests := c'.guests
    lastCheckin := c'.lastCheckin }
  /-- An identity is given exactly if it is another one. -/
  identity_isSome : changes.identity.isSome = true ↔ c'.identity ≠ c.identity
  /-- It is the new one. -/
  identity_eq {i : Identity} (hi : changes.identity = some i) : c'.identity = some i
  /-- Facts are said to change exactly if they are other ones. -/
  facts : changes.facts = true ↔ c'.facts ≠ c.facts
  /-- Guests are said to change exactly if they are other ones. -/
  guests : changes.guestsChanged = true ↔ c'.guests ≠ c.guests

namespace Planner

variable {p : Planner} {e : HostEntry} {c : Consumer}

/-- A changed host has the identity that is new for it. -/
theorem identity_changedHost_of_some {i : Identity} (hi : e.newIdentity? c p.reporter = some i) :
    (p.changedHost e c).identity = some i := by
  rw [changedHost, hi, Option.some_or]

/-- A new identity is another one than the stored one. -/
theorem identity_changedHost_ne_iff (he : e.Clean) :
    (p.changedHost e c).identity ≠ c.identity ↔
      (e.newIdentity? c p.reporter).isSome = true := by
  cases hnew : e.newIdentity? c p.reporter with
  | none => simp [changedHost, hnew]
  | some i =>
    rw [identity_changedHost_of_some hnew]
    refine ⟨fun _ => rfl, fun _ heq => ?_⟩
    rw [HostEntry.eq_of_newIdentity? hnew] at heq
    rw [newIdentity?_ofReported he c.reporterId? heq.symm] at hnew
    cases hnew

/-- The flags of a change say exactly what the change does. -/
theorem exact_hostChanges (he : e.Clean) (c : Consumer) :
    (p.hostChanges e c).Exact c (p.changedHost e c) where
  rest := rfl
  identity_isSome := (identity_changedHost_ne_iff he).symm
  identity_eq hi := identity_changedHost_of_some hi
  facts := bne_iff_ne
  guests := by
    rw [Changes.guestsChanged, Bool.not_eq_true']
    exact (replaceGuests_ne_iff he.guests).symm

/-- For a consumer that was changed for an entry nothing but the last check-in is planned again. -/
theorem planUpdate_changedHost (he : e.Clean) (c : Consumer) {p' : Planner}
    (hreporter : p'.reporter = p.reporter) :
    p'.planUpdate e (p.changedHost e c) =
      .update e.hostKey { p.changedHost e c with lastCheckin := some p'.now }
        ⟨none, false, .none⟩ := by
  have hidentity := newIdentity?_changedHost (p := p) he c
  have hfacts := facts_changedHost (p := p) e c
  have hguests : (GuestDiff.between (p.changedHost e c).guests e.guests).isEmpty = true :=
    isEmpty_between_replaceGuests he.guests
  rw [← hreporter] at hidentity
  rw [planUpdate_eq, changedHost, hostChanges, hidentity, hfacts, replaceGuests,
    GuestDiff.isEmpty_iff.mp hguests]
  simp [GuestDiff.isEmpty, GuestDiff.none]

/-- The plan for a registered host, whatever it has stored, leaves all but its identity, facts,
guests and last check-in as they are and says exactly which of the first three change. A new
identity is that of the entry with the reporter of the run, or else the stored one. Planned again
for the host as it is then, with the same reporter, the entry changes the last check-in only. -/
theorem planUpdate_exact (p : Planner) {r : Report} (he : e ∈ r.entries) (c : Consumer) :
    ∃ c' changes, p.planUpdate e c = .update e.hostKey c' changes ∧ changes.Exact c c' ∧
      (∀ i, changes.identity = some i → i = ⟨e.hypervisorId, p.reporter.or c.reporterId?⟩) ∧
      ∀ p' : Planner, p'.reporter = p.reporter →
        p'.planUpdate e c' =
          .update e.hostKey { c' with lastCheckin := some p'.now } ⟨none, false, .none⟩ := by
  have hclean := Report.clean_of_mem_entries he
  refine ⟨p.changedHost e c, p.hostChanges e c, p.planUpdate_eq e c, exact_hostChanges hclean c,
    fun i hi => ?_, fun p' hreporter => planUpdate_changedHost hclean c hreporter⟩
  have hgiven := identity_changedHost_of_some (p := p) hi
  rw [identity_changedHost hclean] at hgiven
  exact (Option.some.inj hgiven).symm

/-- Stored guests that repeat are replaced by those of the report, once. -/
theorem planUpdate_exact_repeated :
    let noon : ClockTime := ⟨12, 0, 0, 0⟩
    let now : Timestamp := ⟨⟨2024, 1, 1⟩, noon, by decide, by decide⟩
    let later : Timestamp := ⟨⟨2024, 1, 2⟩, noon, by decide, by decide⟩
    let p : Planner := ⟨.named "a", true, none, later, none⟩
    let r : Report := ⟨[(ReportedHost.withId " Host ").withGuests ["g", "H", "G"]]⟩
    let e : HostEntry := ⟨"Host", "host", "Host", ["G", "H"], none⟩
    let c : Consumer :=
      ⟨some "1", "x", "x", "a", .hypervisor, some ⟨"old", some "q"⟩, ["g", "G", "k"], .empty,
        some now⟩
    let c' : Consumer :=
      { c with
        identity := some ⟨"host", some "q"⟩
        guests := ["G", "H"]
        lastCheckin := some later }
    let changes : Changes := ⟨some ⟨"host", some "q"⟩, false, ⟨["H"], ["k"], []⟩⟩
    e ∈ r.entries ∧ p.planUpdate e c = .update "Host" c' changes ∧ changes.Exact c c' ∧
      p.planUpdate e c' = .update "Host" c' ⟨none, false, .none⟩ := by
  intro noon now later p r e c c' changes
  have he : e ∈ r.entries := by decide +kernel
  have hplan : p.planUpdate e c = .update "Host" c' changes := by decide +kernel
  obtain ⟨d, changes', h, hexact, _, hagain⟩ := planUpdate_exact p he c
  cases h.symm.trans hplan
  exact ⟨he, hplan, hexact, hagain p rfl⟩

end Planner

end HostRoster
