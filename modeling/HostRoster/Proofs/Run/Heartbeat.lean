import HostRoster.Proofs.Run.Lockstep
import HostRoster.Proofs.Store.Filing

/-!
# What a heartbeat touches

A heartbeat writes the hosts of its reporter in one batch. The batch is never refused for its ids,
since it leaves every id with its holder, and the records in it differ from those in the store in
the time of the last check-in alone. So the heartbeat succeeds, and nothing but that time changes.
-/

namespace HostRoster

/-- A hypervisor of an owner whose identity names a reporter. -/
def Consumer.IsHostOf (c : Consumer) (ownerKey reporter : String) : Prop :=
  c.ownerKey = ownerKey ∧ c.kind = .hypervisor ∧ ∃ i ∈ c.identity, i.reporterId = some reporter

instance (c : Consumer) (ownerKey reporter : String) : Decidable (c.IsHostOf ownerKey reporter) :=
  inferInstanceAs (Decidable (_ ∧ _ ∧ ∃ i ∈ c.identity, _))

namespace Transaction

variable {t : Transaction} {view : Dict Consumer} {hosts : List Consumer} {c : Consumer}
  {k reporter : String} {now : Timestamp}

/-- The hosts of a reporter are found among all consumers. -/
theorem consumersOfReporter_eq_filter (t : Transaction) (k reporter : String) :
    t.consumersOfReporter k reporter = t.view.values.filter fun c => c.IsHostOf k reporter := by
  rw [consumersOfReporter, ownedBy, List.filter_filter]
  refine List.filter_congr fun c _ => ?_
  rw [Bool.eq_iff_iff, Bool.and_eq_true, Bool.and_eq_true, decide_eq_true_iff]
  simp only [Consumer.IsHostOf, Consumer.isHypervisor, Consumer.reporterId?, beq_iff_eq,
    Option.bind_eq_some_iff, Option.mem_def, and_comm]

/-- They are the hosts of the owner that the reporter looks after. -/
theorem mem_consumersOfReporter :
    c ∈ t.consumersOfReporter k reporter ↔
      (∃ i, t.view.get? i = some c) ∧ c.IsHostOf k reporter := by
  rw [consumersOfReporter_eq_filter, List.mem_filter, Dict.mem_values_iff, decide_eq_true_iff]

/-- There are as many as a count of the view gives. -/
theorem length_consumersOfReporter (t : Transaction) (k reporter : String) :
    (t.consumersOfReporter k reporter).length =
      t.view.values.countP fun c => c.IsHostOf k reporter := by
  rw [consumersOfReporter_eq_filter, List.countP_eq_length_filter]

/-- Marking hosts as heard of leaves every id with its holder. -/
theorem oneHolder_heardOf (hfiled : FiledById view)
    (hhosts : ∀ c ∈ hosts, ∃ i, view.get? i = some c) (hone : OneHolder view k) (now : Timestamp) :
    OneHolder (overwritten view (hosts.map (·.heardOf now))) k := by
  refine hone.of_held?_eq fun i => ?_
  rw [get?_overwritten_heardOf hfiled hhosts, Option.bind_map]
  refine congrArg (view.get? i).bind (funext fun c => ?_)
  rw [Function.comp_apply]
  split <;> rfl

/-- So the batch of a heartbeat is accepted, and laid over the view as it is. -/
theorem writeTo_heartbeats (hfault : t.faults.bulkFailure = none) (hfiled : FiledById t.view)
    (hone : OneHolder t.view k) (reporter : String) (now : Timestamp) :
    (t.heartbeats k reporter now).writeTo t =
      (.ok (), t.written ((t.consumersOfReporter k reporter).map (·.heardOf now))) := by
  have hhosts : ∀ c ∈ t.consumersOfReporter k reporter, ∃ i, t.view.get? i = some c :=
    fun c hc => (mem_consumersOfReporter.mp hc).1
  have hcheck : t.checkBulk ((t.consumersOfReporter k reporter).map (·.heardOf now)) = .ok () := by
    refine checkBulk_eq_ok_iff.mpr ⟨hfault, fun d hd => ?_, checkIdentities_eq_ok_iff.mpr ?_⟩
    · obtain ⟨c, hc, rfl⟩ := List.mem_map.mp hd
      obtain ⟨i, hi⟩ := hhosts c hc
      have hid : c.id = some i := hfiled hi
      exact ⟨i, hid, Dict.contains_iff.mpr ⟨c, hi⟩⟩
    · intro d hd
      obtain ⟨c, hc, rfl⟩ := List.mem_map.mp hd
      have howner : (c.heardOf now).ownerKey = k := (mem_consumersOfReporter.mp hc).2.1
      rw [howner]
      exact oneHolder_heardOf hfiled hhosts hone now
  have hattributes : (t.heartbeats k reporter now).writeAttributes t =
      .ok (t.written ((t.consumersOfReporter k reporter).map (·.heardOf now))) := by
    unfold Batches.writeAttributes
    split
    · next hempty =>
      have hnone : (t.consumersOfReporter k reporter).map (·.heardOf now) = [] :=
        List.isEmpty_iff.mp hempty
      rw [hnone, written_nil]
    · refine updateAttributes_eq_ok_iff.mpr ⟨hcheck, ?_⟩
      exact congrArg t.written (map_keepingGuests_heardOf hfiled hhosts now).symm
  rw [Batches.writeTo, hattributes]
  rfl

end Transaction

namespace Store

variable {s : Store} {c : Circumstances} {h : Heartbeat} {o : Owner}

section alone

variable (hfiled : s.registry.Filed) (hone : OneHolder s.registry.consumers h.ownerKey)
  (howner : s.registry.owners.get? h.ownerKey = some o)
  (hauth : c.authorizer h.principal o .update = true) (hfault : s.faults.bulkFailure = none)
  (hout : c.outages = .none) (halone : c.competitor = none)

include hfiled hone howner hauth hfault hout halone

/-- A heartbeat that is left alone succeeds, and lays its batch over the consumers. -/
theorem heartbeat_writes :
    let hosts := s.start.consumersOfReporter h.ownerKey h.reporter
    ∃ s', s.heartbeat c h = (.ok ⟨h.ownerKey, h.reporter, hosts.length⟩, s') ∧
      s'.registry.owners = s.registry.owners ∧
      s'.registry.consumers =
        Transaction.overwritten s.registry.consumers (hosts.map (·.heardOf c.now)) := by
  intro hosts
  have hkey : o.key = h.ownerKey := hfiled.owners howner
  have howner' : s.start.owner? h.ownerKey = some o := howner
  have hwritten := Transaction.writeTo_heartbeats (t := s.start) hfault hfiled.consumers hone
    h.reporter c.now
  obtain ⟨σ, hrun, hwork⟩ : ∃ σ, (h.attempt c.authorizer c.now).run.run
      ⟨s.start, s.usage, s.supplies, .none⟩ = (.ok ⟨h.ownerKey, h.reporter, hosts.length⟩, σ) ∧
      σ.work = s.start.written (hosts.map (·.heardOf c.now)) := by
    rw [Heartbeat.run_attempt, howner']
    simp only [hauth, if_true, hkey, Batches.flushIn, hwritten]
    exact ⟨_, rfl, rfl⟩
  have hcommit : σ.work.committed s.registry =
      .ok ((s.start.written (hosts.map (·.heardOf c.now))).published s.registry) := by
    rw [hwork]
    exact committed_written_start s.registry s.faults s.listing _
  rw [heartbeat, execute_eq_conclude s hout, halone]
  exact ⟨_, conclude_of_ok hrun hcommit, rfl,
    Transaction.published_written_start s.registry s.registry s.faults s.listing _⟩

/-- A heartbeat that is left alone succeeds, and says how many hosts the reporter has with the
owner. It marks these as heard of at its time, and changes nothing else of any consumer. -/
theorem heartbeat_touches_hosts :
    ∃ s', s.heartbeat c h =
        (.ok ⟨h.ownerKey, h.reporter,
          s.registry.consumers.values.countP fun d => d.IsHostOf h.ownerKey h.reporter⟩, s') ∧
      s'.registry.owners = s.registry.owners ∧
      ∀ i, s'.registry.consumers.get? i = (s.registry.consumers.get? i).map fun d =>
        if d.IsHostOf h.ownerKey h.reporter then { d with lastCheckin := some c.now } else d := by
  obtain ⟨s', hrun, howners, hconsumers⟩ :=
    heartbeat_writes hfiled hone howner hauth hfault hout halone
  rw [Transaction.length_consumersOfReporter] at hrun
  refine ⟨s', hrun, howners, fun i => ?_⟩
  have hhosts : ∀ d ∈ s.start.consumersOfReporter h.ownerKey h.reporter,
      ∃ i, s.registry.consumers.get? i = some d :=
    fun d hd => (Transaction.mem_consumersOfReporter.mp hd).1
  rw [hconsumers, Transaction.get?_overwritten_heardOf hfiled.consumers hhosts]
  refine Option.map_congr fun d hd => ?_
  have hmem : d ∈ s.start.consumersOfReporter h.ownerKey h.reporter ↔
      d.IsHostOf h.ownerKey h.reporter :=
    Transaction.mem_consumersOfReporter.trans (and_iff_right ⟨i, hd⟩)
  rw [if_congr hmem rfl rfl]
  rfl

end alone

/-- The owner wants no hosts attached. Of its consumers one is a host of the reporter, one is a host
of another reporter, and one is no hypervisor, although its identity names the reporter and has the
id of the host. The reporter also has a host with another owner. -/
theorem heartbeat_touches_hosts_disabled :
    let now : Timestamp := ⟨⟨2024, 1, 1⟩, ⟨12, 0, 0, 0⟩, by decide, by decide⟩
    let consumer (i owner : String) (kind : ConsumerKind) (h reporter : String) : Consumer :=
      ⟨some i, "u" ++ i, "n", owner, kind, some ⟨h, some reporter⟩, ["g"], .empty, none⟩
    let host := consumer "1" "a" .hypervisor "x" "p"
    let others := [consumer "2" "a" .hypervisor "y" "q", consumer "3" "a" .system "x" "p",
      consumer "4" "b" .hypervisor "x" "p"]
    let s : Store :=
      ⟨{ Registry.empty.addOwner ⟨"a", "a", true⟩ with
          consumers := Transaction.overwritten .empty (host :: others) },
        .none, .none, ⟨⟨fun _ => "5", 0⟩, ⟨fun _ => "z", 0⟩⟩, .given⟩
    let h : Heartbeat := ⟨"a", "p", (Principal.user "joe").grant "a" .update⟩
    ∃ s', s.heartbeat ⟨.byGrants, now, .none, none⟩ h = (.ok ⟨"a", "p", 1⟩, s') ∧
      s'.registry.consumers.get? "1" = some { host with lastCheckin := some now } ∧
      ∀ d ∈ others, s'.registry.consumers.get? (d.id.getD "") = some d := by
  intro now consumer host others s h
  have hfiled : s.registry.Filed :=
    ⟨filedByKey_insert filedByKey_empty _, filedById_overwritten (fun _ _ hi => by simp at hi) _⟩
  have hcheck : Transaction.checkIdentities s.listing .empty (host :: others) = .ok () := by
    decide +kernel
  have hone : OneHolder s.registry.consumers h.ownerKey :=
    Transaction.oneHolderEach_overwritten (fun _ _ _ _ _ _ hi => by simp at hi) hcheck _
  have hcount : (s.registry.consumers.values.countP fun d => d.IsHostOf "a" "p") = 1 := by
    decide +kernel
  obtain ⟨s', hrun, _, hconsumers⟩ := heartbeat_touches_hosts (s := s) (h := h)
    (c := ⟨.byGrants, now, .none, none⟩) (o := ⟨"a", "a", true⟩) hfiled hone (by decide +kernel)
    (by decide +kernel) rfl rfl rfl
  rw [hcount] at hrun
  refine ⟨s', hrun, ?_, fun d hd => ?_⟩
  · rw [hconsumers]
    decide +kernel
  · rw [hconsumers]
    revert d
    decide +kernel

end Store

end HostRoster
