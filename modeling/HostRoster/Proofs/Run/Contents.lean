import HostRoster.Proofs.Run.Account

/-!
# What a run stores

A successful run stores what was reported, whichever of the two batches a host is written in. The
batch of attributes takes the guests from the store, but a host is put there only if its stored
guests are the reported ones in another order at most.
-/

namespace HostRoster

/-- A consumer is found by its uuid, if no other has it. -/
theorem Registry.withUuid?_eq_some {r : Registry} (h : DistinctUuids r.consumers) {i : String}
    {c : Consumer} (hi : r.consumers.get? i = some c) : r.withUuid? c.uuid = some c := by
  rw [withUuid?]
  cases hfind : r.consumers.values.find? fun d => d.uuid == c.uuid with
  | none =>
    have hmiss := List.find?_eq_none.mp hfind c (Dict.mem_values_iff.mpr ⟨i, hi⟩)
    simp at hmiss
  | some d =>
    obtain ⟨j, hj⟩ := Dict.mem_values_iff.mp (List.mem_of_find?_eq_some hfind)
    have huuid : d.uuid = c.uuid := by simpa using List.find?_some hfind
    rw [h hj hi huuid, hi] at hj
    exact hj.symm

/-- What the state of an entry says of the records of a store before and after a run. -/
inductive HostEntry.Stored (e : HostEntry) (ownerKey : String) (reporter : Option String)
    (now : Timestamp) (before after : Registry) : HostState → Prop where
  /-- The new record has what was reported. -/
  | created (i uuid : String)
    (hafter : after.withUuid? uuid = some
      { id := some i
        uuid := uuid
        name := e.name
        ownerKey := ownerKey
        kind := .hypervisor
        identity := some ⟨e.hypervisorId, reporter⟩
        guests := e.guests
        facts := e.facts.getD .empty
        lastCheckin := some now }) :
    Stored e ownerKey reporter now before after (.created ⟨uuid, e.name, ownerKey⟩)
  /-- The record of before has what was reported; a reporter and facts that were not given are
  kept. -/
  | updated (c : Consumer) (guests : List String) (hbefore : before.withUuid? c.uuid = some c)
    (hguests : guests.Perm e.guests)
    (hafter : after.withUuid? c.uuid = some
      { c with
        identity := some ⟨e.hypervisorId, reporter.or c.reporterId?⟩
        guests := guests
        facts := e.facts.getD c.facts
        lastCheckin := some now }) :
    Stored e ownerKey reporter now before after (.updated c.summary)
  /-- The entry was refused. -/
  | refused (r : Refusal) (hr : r.Concerns e) :
    Stored e ownerKey reporter now before after (r.state e.hostKey)

namespace Planner

variable {p : Planner} {e : HostEntry} {s s' : Store} {es : List HostEntry} {outcome : Outcome}

/-- What an entry has come to can be read in the records. -/
theorem Reconciles.stored (h : p.Reconciles es s outcome s')
    (hfiled : FiledById s.registry.consumers)
    (huuids : DistinctUuids s.registry.consumers)
    (hguests : ∀ i c, s.registry.consumers.get? i = some c → Unlike c.guests)
    (hfresh : p.DrawsFresh (.start s .none) es) (honce : p.DrawsOnce (.start s .none) es)
    (he : e.Clean) {state : HostState}
    (hentry : p.Entered e s.registry.consumers (p.writes (.start s .none) es) state) :
    e.Stored p.owner.key p.reporter p.now s.registry s'.registry state := by
  have hids := pairwise_writes (σ := .start s .none) rfl hfiled hfresh honce
  have hafter : DistinctUuids s'.registry.consumers :=
    h.consumers ▸ distinctUuids_writes (σ := .start s .none) rfl hfiled huuids hfresh
  have hfound {i : String} {c : Consumer} (hc : c ∈ p.writes (.start s .none) es)
      (hi : c.id = some i) : s'.registry.withUuid? c.uuid = some c := by
    refine Registry.withUuid?_eq_some hafter (i := i) ?_
    rw [h.consumers]
    exact Transaction.get?_overwritten_of_mem _ hids hc hi
  cases hentry with
  | created i uuid _ hc =>
    refine .created i uuid ?_
    rw [← identity_newHost he uuid]
    exact hfound hc rfl
  | updated i c hold _ _ hc =>
    refine .updated c _ (Registry.withUuid?_eq_some huuids hold)
      (perm_replaceGuests (hguests i c hold) he.guests) ?_
    have hid : c.id = some i := hfiled hold
    rw [← identity_changedHost he]
    exact hfound hc hid
  | refused r hr => exact .refused r hr

end Planner

/-- A run that is left alone stores exactly what was reported. In the store uuids differ and no
guest is listed twice under one host, and the ids that the run drew were not in use and differ. -/
theorem Store.reconcile_stores_reported {s s' : Store} {c : Circumstances} {r : Request}
    {outcome : Outcome} (hfiled : FiledById s.registry.consumers)
    (huuids : DistinctUuids s.registry.consumers)
    (hguests : ∀ i d, s.registry.consumers.get? i = some d → Unlike d.guests)
    (hout : c.outages = .none) (halone : c.competitor = none)
    (hrun : s.reconcile c r = (.ok outcome, s'))
    (hfresh : ∀ i ∈ s.supplies.ids.handedOut s'.supplies.ids,
      s.registry.consumers.contains i = false)
    (honce : (s.supplies.ids.handedOut s'.supplies.ids).Nodup) :
    ∃ o states, s.registry.owners.get? r.ownerKey = some o ∧ outcome.Lists states ∧
      List.Forall₂ (fun e => e.Stored o.key r.reporter c.now s.registry s'.registry)
        r.report.entries states := by
  obtain ⟨o, ho, h⟩ := Store.exists_reconciles hout halone hrun
  have hes : CleanEntries r.report.entries := r.report.cleanEntries
  have hfresh := h.drawsFresh hfresh
  have hentered := Lists.forall₂_mem
    (Planner.forall₂_entered (σ := .start s .none) rfl hfiled hfresh)
  refine ⟨o, _, ho, h.lists hes, hentered.imp fun e state ⟨he, _, hentry⟩ => ?_⟩
  exact h.stored hfiled huuids hguests hfresh (h.drawsOnce honce) (hes.clean e he) hentry

/-- Of two hosts one keeps its reporter and its guests and loses its facts, which are reported anew,
and the other one is registered with a guest. -/
theorem Store.reconcile_stores_reported_pair :
    let noon : ClockTime := ⟨12, 0, 0, 0⟩
    let now : Timestamp := ⟨⟨2024, 1, 1⟩, noon, by decide, by decide⟩
    let facts : Dict String := Dict.empty.insert "cpu" "4"
    let old : Consumer :=
      ⟨some "1", "x", "x", "a", .hypervisor, some ⟨"old", some "p"⟩, ["g", "h"], facts, none⟩
    let s : Store :=
      ⟨{ Registry.empty.addOwner (.named "a") with consumers := Dict.empty.insert "1" old },
        .none, .none, ⟨⟨fun _ => "2", 0⟩, ⟨fun _ => "z", 0⟩⟩, .given⟩
    let r : Request :=
      ⟨"a", true, none, .admin "root",
        ⟨[((ReportedHost.withId "Old").withFact "cpu" "8").withGuests ["h", "g"],
          (ReportedHost.withId "New").withGuests ["k"]]⟩⟩
    let outcome : Outcome := ⟨some [⟨"z", "New", "a"⟩], [⟨"x", "x", "a"⟩], [], [], []⟩
    let result := s.reconcile ⟨.byGrants, now, .none, none⟩ r
    result.1 = .ok outcome ∧ ∃ o states, s.registry.owners.get? "a" = some o ∧
      outcome.Lists states ∧
      List.Forall₂ (fun e => e.Stored o.key none now s.registry result.2.registry)
        r.report.entries states := by
  intro noon now facts old s r outcome result
  have hresult : result.1 = .ok outcome := by decide +kernel
  have hfiled : FiledById s.registry.consumers :=
    filedById_insert (fun _ _ hi => by cases hi) rfl
  have huuids : DistinctUuids s.registry.consumers := by
    intro i j d d' hi hj _
    rw [(Dict.eq_of_get?_single hi).1, (Dict.eq_of_get?_single hj).1]
  have hguests : ∀ i d, s.registry.consumers.get? i = some d → Unlike d.guests := by
    intro i d hi
    rw [(Dict.eq_of_get?_single hi).2]
    exact List.pairwise_pair.mpr (by decide +kernel)
  have hdrawn : s.supplies.ids.handedOut result.2.supplies.ids = ["2"] := by decide +kernel
  have hfresh : ∀ i ∈ s.supplies.ids.handedOut result.2.supplies.ids,
      s.registry.consumers.contains i = false := by
    rw [hdrawn, List.forall_mem_singleton]
    decide +kernel
  have honce : (s.supplies.ids.handedOut result.2.supplies.ids).Nodup := by
    rw [hdrawn]
    exact List.nodup_singleton _
  have hrun : s.reconcile ⟨.byGrants, now, .none, none⟩ r = (.ok outcome, result.2) :=
    Prod.ext hresult rfl
  obtain ⟨o, states, ho, hlists, hstored⟩ :=
    Store.reconcile_stores_reported hfiled huuids hguests rfl rfl hrun hfresh honce
  exact ⟨hresult, o, states, ho, hlists, hstored⟩

end HostRoster
