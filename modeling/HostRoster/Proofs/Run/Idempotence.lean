import HostRoster.Proofs.Run.Amid
import HostRoster.Proofs.Run.Repeat
import HostRoster.Proofs.Store.Filing

/-!
# Reconciling a report again

A run in which no host fails leaves behind, for every entry of the report, a host that reflects the
entry. A second run for the same request recognises these hosts and changes nothing but the time
they were last heard of.
-/

namespace HostRoster

/-- A run for the entries of a report changes nothing but the time when the hosts of the entries
were last heard of. -/
structure Renews (ownerKey : String) (now : Timestamp) (es : List HostEntry)
    (hosts : List Consumer) (s : Store) (outcome : Outcome) (s' : Store) : Prop where
  /-- Each entry has a host in the store that holds its id. -/
  entries : List.Forall₂ (fun e c => c.held? ownerKey = some e.hypervisorId ∧
    ∃ i, s.registry.consumers.get? i = some c) es hosts
  /-- No host is reported as registered. -/
  created : outcome.created.getD [] = []
  /-- The hosts are reported as changed, in the order of the report. -/
  updated : outcome.updated = hosts.map Consumer.summary
  /-- Registering fails for no host. -/
  failedCreate : outcome.failedCreate = []
  /-- Changing fails for no host. -/
  failedUpdate : outcome.failedUpdate = []
  /-- No guest has moved. -/
  migrated : outcome.migrated = []
  /-- The hosts are marked as heard of, and all other consumers stay as they are. -/
  consumers : ∀ i, s'.registry.consumers.get? i =
    (s.registry.consumers.get? i).map fun c => if c ∈ hosts then c.heardOf now else c
  /-- The owners stay as they are. -/
  owners : s'.registry.owners = s.registry.owners
  /-- No call registers a consumer. -/
  creates : s'.usage.creates = s.usage.creates
  /-- No call writes guests. -/
  membershipUpdates : s'.usage.membershipUpdates = s.usage.membershipUpdates

/-- A run that finds a host for every entry renews these hosts. -/
theorem Store.reconcile_of_settled (s : Store) {c : Circumstances} (hout : c.outages = .none)
    (halone : c.competitor = none) (hfaults : s.faults.bulkFailure = none) {r : Request} {o : Owner}
    (ho : s.registry.owners.get? r.ownerKey = some o)
    (hgranted : r.refusal? c.authorizer o = none) (hkept : WellKept s.registry.consumers o.key)
    (hmachine : OneMachine s.registry.consumers o.key) {hosts : List Consumer}
    (hhosts : (r.planner c.authorizer c.now o).Settled (.start s .none) r.report.entries hosts) :
    ∃ outcome s', s.reconcile c r = (.ok outcome, s') ∧
      Renews o.key c.now r.report.entries hosts s outcome s' := by
  have hes : CleanEntries r.report.entries := r.report.cleanEntries
  obtain ⟨hflushed, hwork⟩ := hhosts.work hkept hmachine hes rfl hfaults
  obtain ⟨hcreated, hupdated, hfailedCreate, hfailedUpdate, hmigrated⟩ :=
    hhosts.outcome hkept hmachine hes rfl
  obtain ⟨hcreates, hmemberships⟩ := hhosts.usage hkept hmachine hes
  rcases hrun : (r.planner c.authorizer c.now o).flushed (.start s .none) r.report.entries with
    ⟨result, σ⟩
  rw [hrun] at hflushed hwork hcreates hmemberships
  obtain rfl : result = .ok () := hflushed
  have hattempt := (r.run_attempt_eq_ok_iff s.start s.usage s.supplies c.authorizer c.now).mpr
    ⟨o, ho, hgranted, hrun, rfl⟩
  have hfree : σ.work.conflict? s.registry = none := by
    rw [hwork, Transaction.conflict?_eq_none_iff]
    exact fun _ _ => rfl
  have hresult : s.reconcile c r =
      (.ok ((r.planner c.authorizer c.now o).tally (.start s .none) r.report.entries).outcome,
        { σ.leave s with
          registry := σ.work.published s.registry
          usage := { σ.usage with commits := σ.usage.commits + 1 } }) := by
    rw [Store.reconcile, s.execute_eq_conclude hout, halone]
    exact Store.conclude_eq_ok_iff.mpr ⟨σ, hattempt, hfree, rfl⟩
  have hstored : ∀ c ∈ hosts, ∃ i, s.registry.consumers.get? i = some c := by
    intro c hc
    obtain ⟨e, _, _, hi⟩ := Lists.exists_left hhosts hc
    exact hi
  have hpublished : (σ.work.published s.registry).consumers =
      Transaction.overwritten s.registry.consumers (hosts.map (·.heardOf c.now)) := by
    rw [hwork]
    exact Transaction.published_written_start s.registry s.registry s.faults s.listing _
  refine ⟨_, _, hresult, ?_⟩
  refine ⟨hhosts.imp fun e c h => ⟨h.1.held?, h.2⟩, hcreated, hupdated, hfailedCreate,
    hfailedUpdate, hmigrated, fun i => ?_, rfl, hcreates, hmemberships⟩
  have hrenewed := Transaction.get?_overwritten_heardOf hkept.filed hstored c.now i
  rwa [← hpublished] at hrenewed

namespace World

section first

variable {w : World} {others : List Step} {supplies : Supplies} {authorizer : Authorizer}
  {now : Timestamp} {r : Request} {outcome : Outcome} {s : Store}

/-- A run in which no host fails leaves a host for every entry that reflects it, and reports these
hosts as registered or changed. -/
theorem exists_hosts_of_reconcileAmid (hw : w.Filed)
    (hrun : w.reconcileAmid others supplies authorizer now r = (.ok outcome, s))
    (hfresh : ∀ i ∈ supplies.ids.handedOut s.supplies.ids,
      w.store.registry.consumers.contains i = false)
    (honce : (supplies.ids.handedOut s.supplies.ids).Nodup) (hcreate : outcome.failedCreate = [])
    (hupdate : outcome.failedUpdate = []) :
    ∃ o hosts, s.registry.owners.get? r.ownerKey = some o ∧ r.refusal? authorizer o = none ∧
      FiledById s.registry.consumers ∧
      List.Forall₂ (fun e c => (r.planner authorizer now o).Reflects e c ∧
        ∃ i, s.registry.consumers.get? i = some c) r.report.entries hosts ∧
      (outcome.created.getD [] ++ outcome.updated).Perm (hosts.map Consumer.summary) := by
  obtain ⟨σ, hattempt, _, hs⟩ := Store.conclude_eq_ok_iff.mp hrun
  obtain ⟨o, ho, hgranted, hflushed, houtcome⟩ :=
    (r.run_attempt_eq_ok_iff _ _ _ authorizer now).mp hattempt
  have hes : CleanEntries r.report.entries := r.report.cleanEntries
  let p : Planner := r.planner authorizer now o
  let τ : Session := ⟨w.store.start, (w.run others).store.usage, supplies, .none⟩
  have hleft : σ = (p.flushed τ r.report.entries).2 := (congrArg Prod.snd hflushed).symm
  have hwork : σ.work = w.store.start.written (p.writes τ r.report.entries) := by
    rw [hleft]
    exact Planner.work_flushed rfl (congrArg Prod.fst hflushed)
  have hregistry : s.registry = σ.work.published (w.run others).store.registry := by rw [hs]
  have hsupplies : s.supplies.ids = (p.carried τ r.report.entries).session.supplies.ids := by
    rw [hs, hleft]
    rfl
  rw [hsupplies] at hfresh honce
  obtain ⟨hosts, hhosts, hsummaries⟩ := p.exists_hosts (σ := τ) rfl hw.store hfresh honce hes
    (congrArg Prod.fst hflushed) fun state => Planner.isSuccess_of_mem_outcomes rfl hes
      (houtcome ▸ hcreate) (houtcome ▸ hupdate)
  obtain ⟨hcreated, hupdated, _, _⟩ := Planner.outcome_tally (p := p) (σ := τ) rfl hes
  refine ⟨o, hosts, ?_, hgranted, ?_, hhosts.imp ?_, ?_⟩
  · rw [hregistry, Transaction.published_owners, owners_run]
    exact ho
  · rw [hregistry, hwork]
    exact filedById_published (filedById_overwritten hw.store _) (hw.run others).store
  · rintro e c ⟨hreflects, i, _, hdirty, hi⟩
    rw [← hleft] at hdirty hi
    refine ⟨hreflects, i, ?_⟩
    rw [hregistry, Transaction.get?_published, if_pos hdirty, hi, Option.some_or]
  · rw [← houtcome, hcreated, hupdated, ← hsummaries]
    exact HostState.perm_summaries _

end first

/-- Reconciling is idempotent. Let a run leave a store in which uuids differ and neither an id nor a
machine has two hosts of the owner, and let it fail for no host; the ids that it drew were not in
use and differ. Then, unless all writes of several consumers are refused, a second run for the same
request renews the hosts that the first one has registered or changed, and does nothing else. -/
theorem reconcile_idempotent {w : World} (hw : w.Filed) {others : List Step} {supplies : Supplies}
    {c : Circumstances} {now : Timestamp} {r : Request} {first : Outcome} {s : Store}
    (hrun : w.reconcileAmid others supplies c.authorizer now r = (.ok first, s))
    (hfresh : ∀ i ∈ supplies.ids.handedOut s.supplies.ids,
      w.store.registry.consumers.contains i = false)
    (honce : (supplies.ids.handedOut s.supplies.ids).Nodup)
    (hcreate : first.failedCreate = []) (hupdate : first.failedUpdate = [])
    (huuids : DistinctUuids s.registry.consumers) {o : Owner}
    (ho : s.registry.owners.get? r.ownerKey = some o)
    (hids : OneHolder s.registry.consumers o.key)
    (hmachines : OneMachine s.registry.consumers o.key) {s₁ : Store}
    (hregistry : s₁.registry = s.registry) (hfaults : s₁.faults.bulkFailure = none)
    (hout : c.outages = .none) (halone : c.competitor = none) :
    ∃ hosts second s₂, s₁.reconcile c r = (.ok second, s₂) ∧
      Renews o.key c.now r.report.entries hosts s₁ second s₂ ∧
      (first.created.getD [] ++ first.updated).Perm second.updated := by
  obtain ⟨o', hosts, ho', hgranted, hfiled, hhosts, hreported⟩ :=
    exists_hosts_of_reconcileAmid hw hrun hfresh honce hcreate hupdate
  obtain rfl : o = o' := Option.some.inj (ho.symm.trans ho')
  rw [← hregistry] at huuids ho hids hmachines hfiled hhosts
  have hsettled : (r.planner c.authorizer c.now o).Settled (.start s₁ .none) r.report.entries
      hosts :=
    hhosts.imp fun e d ⟨h, hd⟩ =>
      ⟨⟨h.ownerKey, h.isHypervisor, h.identity, h.facts, h.guests⟩, hd⟩
  obtain ⟨second, s₂, hagain, hrenews⟩ := s₁.reconcile_of_settled hout halone hfaults ho hgranted
    ⟨hfiled, huuids, hids⟩ hmachines hsettled
  exact ⟨hosts, second, s₂, hagain, hrenews, hrenews.updated ▸ hreported⟩

/-- A host that was known by another id is recognised by its machine, and another one is new. -/
theorem reconcile_idempotent_renamed :
    let noon : ClockTime := ⟨12, 0, 0, 0⟩
    let now : Timestamp := ⟨⟨2024, 1, 1⟩, noon, by decide, by decide⟩
    let later : Timestamp := ⟨⟨2024, 1, 2⟩, noon, by decide, by decide⟩
    let s : Store :=
      ⟨{ Registry.empty.addOwner (.named "a") with
          consumers := Dict.empty.insert "1" ⟨some "1", "x", "x", "a", .hypervisor,
            some ⟨"old", none⟩, ["g"], Dict.empty.insert systemUuidFact "m", none⟩ }, .none, .none,
        ⟨⟨fun _ => "2", 0⟩, ⟨fun _ => "z", 0⟩⟩, .given⟩
    let r : Request :=
      ⟨"a", true, some "q", .admin "root",
        ⟨[((ReportedHost.withId "New").withFact systemUuidFact "M").withGuests ["G"],
          .withId "h"]⟩⟩
    let c : Circumstances := ⟨.byGrants, later, .none, none⟩
    let first : Outcome := ⟨some [⟨"z", "h", "a"⟩], [⟨"x", "x", "a"⟩], [], [], []⟩
    let result := (ofStore s).reconcileAmid [] s.supplies .byGrants now r
    result.1 = .ok first ∧
      ∃ hosts second s₂, result.2.reconcile c r = (.ok second, s₂) ∧
        Renews "a" later r.report.entries hosts result.2 second s₂ ∧
        (first.created.getD [] ++ first.updated).Perm second.updated := by
  intro noon now later s r c first result
  let renamed : Consumer :=
    ⟨some "1", "x", "x", "a", .hypervisor, some ⟨"new", some "q"⟩, ["G"],
      Dict.empty.insert systemUuidFact "M", some now⟩
  let new : Consumer :=
    ⟨some "2", "z", "h", "a", .hypervisor, some ⟨"h", some "q"⟩, [], .empty, some now⟩
  have hresult : result.1 = .ok first := by decide +kernel
  have hentries : result.2.registry.consumers.entries = [("1", renamed), ("2", new)] := by
    decide +kernel
  have hmem {i : String} {d : Consumer} (hi : result.2.registry.consumers.get? i = some d) :
      (i = "1" ∧ d = renamed) ∨ (i = "2" ∧ d = new) := by
    have hentry := Dict.get?_eq_some_iff.mp hi
    rw [hentries] at hentry
    simpa using hentry
  have huuids : DistinctUuids result.2.registry.consumers := by
    intro i j d d' hi hj h
    rcases hmem hi with ⟨rfl, rfl⟩ | ⟨rfl, rfl⟩ <;> rcases hmem hj with ⟨rfl, rfl⟩ | ⟨rfl, rfl⟩
    · rfl
    · exact absurd h (by decide)
    · exact absurd h (by decide)
    · rfl
  have hids : OneHolder result.2.registry.consumers "a" := by
    intro i j d d' x hi hj h h'
    rcases hmem hi with ⟨rfl, rfl⟩ | ⟨rfl, rfl⟩ <;> rcases hmem hj with ⟨rfl, rfl⟩ | ⟨rfl, rfl⟩
    · rfl
    · exact absurd (h.trans h'.symm) (by decide)
    · exact absurd (h.trans h'.symm) (by decide)
    · rfl
  have hmachines : OneMachine result.2.registry.consumers "a" := by
    intro i j d d' u hi hj h h'
    rcases hmem hi with ⟨rfl, rfl⟩ | ⟨rfl, rfl⟩ <;> rcases hmem hj with ⟨rfl, rfl⟩ | ⟨rfl, rfl⟩
    · rfl
    · exact absurd (h.trans h'.symm) (by decide +kernel)
    · exact absurd (h.trans h'.symm) (by decide +kernel)
    · rfl
  have hdrawn : s.supplies.ids.handedOut result.2.supplies.ids = ["2"] := by decide +kernel
  have howner : result.2.registry.owners.get? r.ownerKey = some (.named "a") := by decide +kernel
  have hfiled : FiledById s.registry.consumers :=
    filedById_insert (fun _ _ hi => by cases hi) rfl
  have hfresh : ∀ i ∈ s.supplies.ids.handedOut result.2.supplies.ids,
      s.registry.consumers.contains i = false := by
    rw [hdrawn]
    intro i hi
    obtain rfl := List.mem_singleton.mp hi
    decide +kernel
  have honce : (s.supplies.ids.handedOut result.2.supplies.ids).Nodup := by
    rw [hdrawn]
    exact List.nodup_singleton _
  have hfaults : result.2.faults.bulkFailure = none := by decide +kernel
  have hrun : (ofStore s).reconcileAmid [] s.supplies .byGrants now r = (.ok first, result.2) :=
    Prod.ext hresult rfl
  clear_value s r result
  exact ⟨hresult, reconcile_idempotent (c := c) (filed_ofStore hfiled) hrun hfresh honce rfl rfl
    huuids howner hids hmachines rfl hfaults rfl rfl⟩

end World

end HostRoster
