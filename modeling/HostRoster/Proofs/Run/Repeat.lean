import HostRoster.Proofs.Run.Clashes
import HostRoster.Proofs.Run.Success

/-!
# Runs that change nothing but the time

Where every entry of a report has a host that reflects it, each host is recognised, keeps all that
it has, and is marked as heard of. The look-ups find the hosts themselves: nothing else holds their
ids, and nothing else is the same machine.
-/

namespace HostRoster

/-- A hypervisor that has a uuid is a machine. -/
theorem Consumer.machine?_eq {c : Consumer} {k u : String} (ho : c.ownerKey = k)
    (hh : c.isHypervisor = true) (hu : c.systemUuid? = some u) (hblank : Text.isBlank u = false) :
    c.machine? k = some (Text.lower u) := by
  simp [machine?, ho, hh, hu, Text.nonBlank?, hblank]

/-- The uuid of a machine is that of the facts, unless it is blank. -/
theorem HostEntry.systemUuid?_eq_some_iff {e : HostEntry} {u : String} :
    e.systemUuid? = some u ↔
      ∃ facts, e.facts = some facts ∧ facts.get? systemUuidFact = some u ∧
        Text.isBlank u = false := by
  rw [systemUuid?, Option.bind_eq_some_iff]
  constructor
  · rintro ⟨v, hv, hblank⟩
    obtain ⟨facts, hfacts, hget⟩ := Option.bind_eq_some_iff.mp hv
    unfold Text.nonBlank? at hblank
    split at hblank
    · cases hblank
    · next hnot =>
      cases hblank
      exact ⟨facts, hfacts, hget, by simpa using hnot⟩
  · rintro ⟨facts, hfacts, hget, hblank⟩
    refine ⟨u, by rw [hfacts, Option.bind_some, hget], ?_⟩
    simp [Text.nonBlank?, hblank]

namespace Planner

variable {p : Planner} {σ : Session} {es : List HostEntry} {e : HostEntry} {c : Consumer}
  {i : String}

/-- Every entry has a host that reflects it and that is seen. -/
def Settled (p : Planner) (σ : Session) (es : List HostEntry) (hosts : List Consumer) : Prop :=
  List.Forall₂ (fun e c => p.Reflects e c ∧ ∃ i, σ.work.view.get? i = some c) es hosts

/-- The uuid that an entry reports is that of the host that reflects it. -/
theorem Reflects.systemUuid? (h : p.Reflects e c) {u : String} (hu : e.systemUuid? = some u) :
    c.systemUuid? = some u := by
  obtain ⟨facts, hfacts, hget, _⟩ := HostEntry.systemUuid?_eq_some_iff.mp hu
  have hsame : facts = c.facts := by
    have hkept := h.facts
    rwa [hfacts] at hkept
  rw [Consumer.systemUuid?, ← hsame, hget]

/-- An entry means the host that reflects it. -/
theorem Reflects.meant? (h : p.Reflects e c) (hkept : WellKept σ.work.view p.owner.key)
    (hmachine : OneMachine σ.work.view p.owner.key) (hes : CleanEntries es) (he : e ∈ es)
    (hi : σ.work.view.get? i = some c) :
    e.meant? (σ.work.knownHosts p.owner.key es) = some c := by
  rw [HostEntry.meant?]
  cases hu : e.systemUuid? with
  | none =>
    rw [Option.bind_none, Option.none_or]
    exact Transaction.withHypervisorId?_knownHosts hkept.uuids hkept.oneHolder he (hes.clean e he)
      hi
      h.held?
  | some u =>
    obtain ⟨_, _, _, hblank⟩ := HostEntry.systemUuid?_eq_some_iff.mp hu
    have hdistinct := Transaction.distinct_mentioned hkept.uuids p.owner.key es
    have hmem : c ∈ σ.work.mentioned p.owner.key es :=
      Transaction.mem_mentioned_of_held? hi he h.held?
    have hcu : c.systemUuid? = some u := h.systemUuid? hu
    have hkey : c.systemUuid?.map Text.lower = some (Text.lower u) := by rw [hcu, Option.map_some]
    obtain ⟨c', hc'⟩ := KnownHosts.exists_withSystemUuid? hmem hkey
    have hlower := KnownHosts.systemUuid?_of_withSystemUuid? hdistinct hc'
    obtain ⟨u', hu', hsame⟩ := Option.map_eq_some_iff.mp hlower
    obtain ⟨ho, hh, j, hj⟩ :=
      Transaction.seen_of_mem_mentioned (KnownHosts.mem_of_withSystemUuid? hc')
    have hblank' : Text.isBlank u' = false := by
      rw [← Text.isBlank_lower, hsame, Text.isBlank_lower, hblank]
    have hmc : c.machine? p.owner.key = some (Text.lower u) :=
      Consumer.machine?_eq h.ownerKey h.isHypervisor hcu hblank
    have hmc' : c'.machine? p.owner.key = some (Text.lower u) := by
      rw [← hsame]
      exact Consumer.machine?_eq ho hh hu' hblank'
    have hij : i = j := hmachine hi hj hmc hmc'
    rw [← hij, hi] at hj
    rw [Option.bind_some, Transaction.knownHosts_eq, hc', Option.some_or, Option.some.inj hj]

/-- Nothing else holds the id of the entry. -/
theorem Reflects.idFree (h : p.Reflects e c) (hkept : WellKept σ.work.view p.owner.key)
    (hes : CleanEntries es) (he : e ∈ es) (hi : σ.work.view.get? i = some c) :
    e.IdFree (σ.work.knownHosts p.owner.key es) c := by
  intro holder hholder
  have hfound := Transaction.withHypervisorId?_knownHosts hkept.uuids hkept.oneHolder he
    (hes.clean e he) hi h.held?
  rw [hfound] at hholder
  rw [Option.some.inj hholder]

section settled

variable {hosts : List Consumer} (hkept : WellKept σ.work.view p.owner.key)
  (hmachine : OneMachine σ.work.view p.owner.key) (hes : CleanEntries es)
  (hhosts : p.Settled σ es hosts)

include hkept hes hhosts in
/-- The hosts have different uuids. -/
theorem Settled.pairwise_uuids : hosts.Pairwise fun c c' => c.uuid ≠ c'.uuid := by
  refine Lists.pairwise_of_forall₂ hhosts hes.distinct ?_
  rintro e e' c c' ⟨h, i, hi⟩ ⟨h', j, hj⟩ hne huuid
  have hij : i = j := hkept.uuids hi hj huuid
  rw [hij, hj, Option.some.injEq] at hi
  have hheld := h.held?
  rw [← hi, h'.held?, Option.some.injEq] at hheld
  exact hne hheld.symm

include hkept hmachine hes hhosts in
/-- Every entry is matched with its host. -/
theorem Settled.decisions_eq :
    decisions (σ.work.knownHosts p.owner.key es) .empty es = hosts.map .existing := by
  have hmatched : List.Forall₂ (fun e c => e.meant? (σ.work.knownHosts p.owner.key es) = some c ∧
      e.IdFree (σ.work.knownHosts p.owner.key es) c) es hosts := by
    refine (Lists.forall₂_mem hhosts).imp fun e c h => ?_
    obtain ⟨he, _, hreflects, i, hi⟩ := h
    exact ⟨hreflects.meant? hkept hmachine hes he hi, hreflects.idFree hkept hes he hi⟩
  exact decisions_eq_map_existing hmatched (fun _ _ => rfl) (hhosts.pairwise_uuids hkept hes)

end settled

/-- Entries that are all matched are planned as updates, and no uuid is drawn. -/
theorem planAll_existing (p : Planner) (v : Supply) {R : HostEntry → Consumer → Prop}
    {hosts : List Consumer} (h : List.Forall₂ R es hosts) :
    p.planAll v (es.zip (hosts.map .existing)) = (List.zipWith p.planUpdate es hosts, v) := by
  induction h with
  | nil => rfl
  | @cons e c es hosts _ _ ih =>
    rw [List.map_cons, List.zip_cons_cons, planAll]
    simp only [plan, ih, List.zipWith_cons_cons]

section reflected

variable {hosts : List Consumer} (h : List.Forall₂ p.Reflects es hosts)

include h

/-- Hosts that reflect the entries are written as heard of, all but their guests. -/
theorem changedConsumers_planUpdate :
    changedConsumers false (List.zipWith p.planUpdate es hosts) = hosts.map (·.heardOf p.now) ∧
      changedConsumers true (List.zipWith p.planUpdate es hosts) = [] := by
  induction h with
  | nil => exact ⟨rfl, rfl⟩
  | @cons e c es hosts hc _ ih =>
    have hchanges : (p.planUpdate e c).changes? = some (c.heardOf p.now, false) := by
      rw [planUpdate_eq, Mutation.changes?, changedHost_of_reflects hc,
        guestsChanged_of_reflects hc]
      rfl
    unfold changedConsumers at ih ⊢
    rw [List.zipWith_cons_cons, List.filterMap_cons_some hchanges]
    exact ⟨congrArg (c.heardOf p.now :: ·) ih.1, ih.2⟩

/-- No guest has moved to them. -/
theorem migrations_planUpdate (guests : KnownGuests) :
    migrations (List.zipWith p.planUpdate es hosts) guests = [] := by
  have hadded : (List.zipWith p.planUpdate es hosts).flatMap (·.addedGuests) = [] := by
    induction h with
    | nil => rfl
    | @cons e c es hosts hc _ ih =>
      have hdiff := hc.guests
      rw [GuestDiff.isEmpty, Bool.and_eq_true, Bool.and_eq_true] at hdiff
      have hnone : (GuestDiff.between c.guests e.guests).additions = [] :=
        List.isEmpty_iff.mp hdiff.1.1
      rw [List.zipWith_cons_cons, List.flatMap_cons, ih, List.append_nil, planUpdate_eq]
      simp only [Mutation.addedGuests, hostChanges, replaceGuests, hnone, List.map_nil]
  rw [migrations, hadded]
  rfl

end reflected

/-- The pass over updates registers nothing. -/
theorem carry_planUpdate (p : Planner) (σ : Session) (es : List HostEntry)
    (hosts : List Consumer) :
    σ.carry (List.zipWith p.planUpdate es hosts) =
      ⟨List.zipWith (fun e c => (e.hostKey, .updated c.summary)) es hosts, [], σ⟩ := by
  induction es generalizing hosts with
  | nil => rfl
  | cons e es ih =>
    cases hosts with
    | nil => rfl
    | cons c hosts =>
      rw [List.zipWith_cons_cons, planUpdate_eq, Session.carry, ih]
      rfl

section settled

variable {hosts : List Consumer} (hkept : WellKept σ.work.view p.owner.key)
  (hmachine : OneMachine σ.work.view p.owner.key) (hes : CleanEntries es)
  (hhosts : p.Settled σ es hosts)

/-- Settled hosts reflect their entries. -/
theorem Settled.reflects (hhosts : p.Settled σ es hosts) : List.Forall₂ p.Reflects es hosts :=
  hhosts.imp fun _ _ h => h.1

include hkept hmachine hes hhosts

/-- The plans for settled entries change their hosts to what they are. -/
theorem Settled.plans_eq :
    p.plans σ es = (List.zipWith p.planUpdate es hosts, σ.supplies.uuids) := by
  rw [plans, planEntries, hhosts.decisions_eq hkept hmachine hes]
  exact p.planAll_existing _ hhosts

/-- The pass over these plans registers nothing. -/
theorem Settled.carried_eq :
    p.carried σ es =
      ⟨List.zipWith (fun e c => (e.hostKey, .updated c.summary)) es hosts, [], p.planned σ es⟩ := by
  rw [carried, hhosts.plans_eq hkept hmachine hes, carry_planUpdate]

/-- Every entry comes to a change of its host. -/
theorem Settled.outcomes_eq : p.outcomes σ es = hosts.map fun c => .updated c.summary := by
  rw [outcomes, hhosts.carried_eq hkept hmachine hes]
  clear hkept hmachine hes
  induction hhosts with
  | nil => rfl
  | @cons e c es hosts _ _ ih => rw [List.zipWith_cons_cons, List.map_cons, ih, List.map_cons]

/-- All hosts are in the list of changed ones, and nothing is in the others. -/
theorem Settled.outcome (hσ : σ.outages = .none) :
    (p.tally σ es).outcome.created.getD [] = [] ∧
      (p.tally σ es).outcome.updated = hosts.map Consumer.summary ∧
      (p.tally σ es).outcome.failedCreate = [] ∧ (p.tally σ es).outcome.failedUpdate = [] ∧
      (p.tally σ es).outcome.migrated = [] := by
  have hmigrated : (p.tally σ es).outcome.migrated = [] := by
    rw [tally, hhosts.plans_eq hkept hmachine hes, migrations_planUpdate hhosts.reflects,
      recordAll_carried hes]
    rfl
  obtain ⟨hcreated, hupdated, hfailedCreate, hfailedUpdate⟩ := outcome_tally (p := p) hσ hes
  rw [hcreated, hupdated, hfailedCreate, hfailedUpdate, hhosts.outcomes_eq hkept hmachine hes]
  refine ⟨?_, ?_, ?_, ?_, hmigrated⟩ <;> rw [List.filterMap_map]
  · exact List.filterMap_eq_nil_iff.mpr fun _ _ => rfl
  · exact congrFun (List.filterMap_eq_map (f := Consumer.summary)) hosts
  · exact List.filterMap_eq_nil_iff.mpr fun _ _ => rfl
  · exact List.filterMap_eq_nil_iff.mpr fun _ _ => rfl

/-- The hosts are written, each marked as heard of. -/
theorem Settled.work (hσ : σ.outages = .none) (hfaults : σ.work.faults.bulkFailure = none) :
    (p.flushed σ es).1 = .ok () ∧
      (p.flushed σ es).2.work = σ.work.written (hosts.map (·.heardOf p.now)) := by
  have hflushed := flushed_of_faultless hkept hes hσ hfaults
  have hseen : ∀ c ∈ hosts, ∃ i, σ.work.view.get? i = some c := by
    intro c hc
    obtain ⟨e, _, _, hi⟩ := Lists.exists_left hhosts hc
    exact hi
  have hwrites : p.writes σ es = hosts.map (·.heardOf p.now) := by
    have hchanged := changedConsumers_planUpdate hhosts.reflects
    rw [writes, rewrites, hhosts.carried_eq hkept hmachine hes, hhosts.plans_eq hkept hmachine hes]
    simp only [hchanged, List.nil_append, List.append_nil]
    exact Transaction.map_keepingGuests_heardOf hkept.filed hseen p.now
  rw [work_flushed hσ hflushed, hwrites]
  exact ⟨hflushed, rfl⟩

/-- Nothing is registered, and no guests are written. -/
theorem Settled.usage :
    (p.flushed σ es).2.usage.creates = σ.usage.creates ∧
      (p.flushed σ es).2.usage.membershipUpdates = σ.usage.membershipUpdates := by
  have hmemberships : (Batches.of (p.plans σ es).1).memberships = [] := by
    rw [hhosts.plans_eq hkept hmachine hes]
    exact (changedConsumers_planUpdate hhosts.reflects).2
  have hsession : (p.carried σ es).session = p.planned σ es := by
    rw [hhosts.carried_eq hkept hmachine hes]
  rw [flushed, Batches.flushIn, hsession]
  simp only [Batches.count, hmemberships, List.isEmpty_nil, if_true]
  constructor <;> split <;> split <;> rfl

end settled

end Planner

end HostRoster
