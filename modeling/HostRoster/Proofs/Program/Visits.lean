import HostRoster.Proofs.Program.Calls

/-!
# State files over many calls

Between calls a store lives in its state file, where versions, counts and refusals are lost. Runs
that are left alone do not miss them. So the calls on one state file make of it what their tasks
make of a single store that is never put away, and a call that fails makes nothing of it.
-/

namespace HostRoster.Program

open HostRoster.Command HostRoster.Json

/-- Whether a task does nothing to any store, or makes a run for the same errand on every one. -/
def IsRun (now : Timestamp) (task : Store → Store) : Prop :=
  (∀ s, task s = s) ∨ ∃ e : Errand, ∀ s, task s = (s.runFor (circumstances now) e).2

/-- The task of a heartbeat does nothing if its parameters are blank, and is a run otherwise. -/
theorem isRun_heartbeat (h : Heartbeat) (now : Timestamp) :
    IsRun now fun s => (heartbeat h now s).2 := by
  by_cases howner : Text.isBlank h.ownerKey = true
  · exact Or.inl fun s => by simp [heartbeat, Store.runHeartbeat, howner]
  by_cases hreporter : Text.isBlank h.reporter = true
  · exact Or.inl fun s => by simp [heartbeat, Store.runHeartbeat, howner, hreporter]
  · refine Or.inr ⟨.heartbeat h, fun s => ?_⟩
    simp [heartbeat, Store.runHeartbeat, howner, hreporter, Store.runFor]

/-- The task of a report does nothing if it is not valid, and is a run otherwise. -/
theorem isRun_update (p : UpdateParameters) (data : String) (maxHosts : Nat) (now : Timestamp) :
    IsRun now fun s => (update p data maxHosts now s).2 := by
  cases hvalid : UpdateForm.validate
      ⟨p.ownerKey, data, p.createMissing, p.principal, p.reporter⟩ maxHosts with
  | error e => exact Or.inl fun s => by simp only [update, hvalid]
  | ok request =>
    exact Or.inr ⟨.reconcile request, fun s => by simp only [update, hvalid]; rfl⟩

/-- Whatever the task of a call is, it is a run or does nothing. -/
theorem isRun_afterTask (d : Disk) (maxHosts : Nat) (now : Timestamp) (task : Task) :
    IsRun now fun s => afterTask d maxHosts now s task := by
  cases task with
  | heartbeat h => exact isRun_heartbeat h now
  | update p =>
    cases htext : (d.files.get? p.reportPath).bind Text.ofUtf8? with
    | none => exact Or.inl fun s => by simp only [afterTask, htext]
    | some data =>
      have hupdate := isRun_update p data maxHosts now
      simpa only [afterTask, htext] using hupdate

namespace IsRun

variable {now : Timestamp} {task : Store → Store} {s s' : Store}

/-- Stores that are the same to runs are the same to tasks. -/
theorem alike (htask : IsRun now task) (h : s.Alike s') : (task s).Alike (task s') := by
  rcases htask with hsame | ⟨e, hrun⟩
  · rw [hsame, hsame]
    exact h
  · rw [hrun, hrun]
    exact (h.runFor rfl rfl e).2

/-- Tasks keep a store filed. -/
theorem filed (htask : IsRun now task) (h : s.registry.Filed) : (task s).registry.Filed := by
  rcases htask with hsame | ⟨e, hrun⟩
  · rw [hsame]
    exact h
  · rw [hrun]
    exact Store.filed_runFor h _ e

/-- They leave the writes that are refused. -/
theorem faults (htask : IsRun now task) (s : Store) : (task s).faults = s.faults := by
  rcases htask with hsame | ⟨e, hrun⟩
  · rw [hsame]
  · rw [hrun]
    exact Store.faults_runFor s rfl rfl e

/-- They leave the order in which batches are gone through. -/
theorem listing (htask : IsRun now task) (s : Store) : (task s).listing = s.listing := by
  rcases htask with hsame | ⟨e, hrun⟩
  · rw [hsame]
  · rw [hrun]
    exact Store.listing_runFor s rfl rfl e

end IsRun

/-- The calls on one state file, next to a store that is made from it once and does the tasks of the
calls that succeed, with the times and new ids of these calls. Between calls others may change the
machine as they like, all but the state file. -/
inductive Visits (path : String) : Disk → Store → Prop where
  /-- The store is made from the state file. -/
  | first {d : Disk} {snapshot : Snapshot} (hstored : d.stored path = .ok snapshot)
    (hids : ∀ c ∈ snapshot.consumers, c.id ≠ none) (supplies : Supplies) :
    Visits path d (.ofSnapshot snapshot supplies)
  /-- Others change the machine. -/
  | others {d d' : Disk} {s : Store} (h : Visits path d s)
    (hsame : d'.files.get? path = d.files.get? path) : Visits path d' s
  /-- A call does its task. -/
  | succeeded {d d' : Disk} {s : Store} {arguments : List String} {moment : Moment}
    {settings : Settings} {line : Line} {v : Value} (h : Visits path d s)
    (hplan : (d.run (plan arguments)).1 = some (settings, line))
    (hpath : stateFile settings line = path)
    (hrun : d.run (run arguments moment) = (.done v, d')) :
    Visits path d' (afterTask d settings.maxReportHosts moment.now
      { s with supplies := moment.supplies } line.task)
  /-- A call does not come to a result. -/
  | failed {d d' : Disk} {s : Store} {arguments : List String} {moment : Moment}
    {ending : Ending} (h : Visits path d s)
    (hpath : ∀ p, statePath? d arguments = some p → p = path)
    (hrun : d.run (run arguments moment) = (ending, d')) (hdone : ending.isDone = false) :
    Visits path d' s

/-- Whether what a state file holds is to runs what a store is. -/
def Keeps (d : Disk) (path : String) (s : Store) : Prop :=
  ∃ snapshot, d.stored path = .ok snapshot ∧ (∀ c ∈ snapshot.consumers, c.id ≠ none) ∧
    ∀ supplies, (Store.ofSnapshot snapshot supplies).Alike { s with supplies := supplies }

/-- After each call the state file holds to runs what the single store holds. -/
theorem Visits.keeps {path : String} {d : Disk} {s : Store} (h : Visits path d s) :
    Keeps d path s := by
  induction h with
  | first hstored hids supplies =>
    refine ⟨_, hstored, hids, fun supplies' => ?_⟩
    rw [Store.ofSnapshot_of_ids hids, Store.ofSnapshot_of_ids hids]
    exact ⟨rfl, rfl, rfl, rfl, rfl⟩
  | others _ hsame ih =>
    obtain ⟨snapshot, hstored, hkept⟩ := ih
    exact ⟨snapshot, (Disk.stored_congr hsame).trans hstored, hkept⟩
  | failed _ hpath hrun hdone ih =>
    obtain ⟨snapshot, hstored, hkept⟩ := ih
    have hsame := stateFile_of_not_done hrun hdone hpath
    exact ⟨snapshot, (Disk.stored_congr hsame).trans hstored, hkept⟩
  | @succeeded d d' s arguments moment settings line v _ hplan hpath hrun ih =>
    obtain ⟨snapshot, hstored, _, halike⟩ := ih
    obtain ⟨settings', line', s₁, hplan', ⟨snapshot', hstored', hs₁⟩, hcontent⟩ := run_done hrun
    cases hplan.symm.trans hplan'
    rw [hpath] at hstored' hcontent
    cases hstored.symm.trans hstored'
    have htask := isRun_afterTask d settings.maxReportHosts moment.now line.task
    have hfiled : s₁.registry.Filed :=
      hs₁ ▸ htask.filed (Registry.filed_ofSnapshot snapshot moment.supplies.ids)
    have hfaults : s₁.faults = .none := hs₁ ▸ htask.faults (.ofSnapshot snapshot moment.supplies)
    have hlisting : s₁.listing = .given :=
      hs₁ ▸ htask.listing (.ofSnapshot snapshot moment.supplies)
    have hsame := htask.alike (halike moment.supplies)
    rw [← hs₁] at hsame
    refine ⟨s₁.snapshot, Disk.stored_of_content hcontent, hfiled.ids_snapshot, fun supplies => ?_⟩
    rw [Store.ofSnapshot_snapshot hfiled]
    exact ⟨hfaults.symm.trans hsame.faults, hlisting.symm.trans hsame.listing, hsame.owners,
      hsame.consumers, rfl⟩

/-- The state file is only ever written as a whole, and only with what a call has come to. A call
that fails has changed no file but the temporary one, which is never the state file. And however
many calls are made on one state file whose consumers have ids, it holds after each of them what a
single store holds that has done the tasks of those that have succeeded. -/
theorem state_file_transactional :
    (∀ (d d' : Disk) (arguments : List String) (moment : Moment) (ending : Ending),
      d.run (run arguments moment) = (ending, d') → ending.code ≠ 0 →
        (∀ path, statePath? d arguments = some path →
          d'.files.get? path = d.files.get? path) ∧
        ∀ p, d'.files.get? p ≠ d.files.get? p →
          ∃ path, statePath? d arguments = some path ∧ p = Snapshot.temporaryPath path) ∧
    ∀ (path : String) (d : Disk) (s : Store), Visits path d s →
      ∃ snapshot, d.stored path = .ok snapshot ∧ ∀ supplies,
        (Store.ofSnapshot snapshot supplies).registry.owners = s.registry.owners ∧
        (Store.ofSnapshot snapshot supplies).registry.consumers = s.registry.consumers := by
  refine ⟨fun d d' arguments moment ending hrun hcode => ?_, fun path d s h => ?_⟩
  · obtain ⟨hspares, hnone⟩ := run_spares hrun (Ending.isDone_of_code hcode)
    refine ⟨fun path hpath => (hspares path hpath).stateFile, fun p hp => ?_⟩
    cases hpath : statePath? d arguments with
    | none => exact absurd (by rw [hnone hpath]) hp
    | some path =>
      refine ⟨path, rfl, ?_⟩
      by_contra hne
      exact hp ((hspares path hpath).others p hne)
  · obtain ⟨snapshot, hstored, _, halike⟩ := h.keeps
    refine ⟨snapshot, hstored, fun supplies => ?_⟩
    exact ⟨(halike supplies).owners, (halike supplies).consumers⟩

/-- A heartbeat fails because the state file cannot be replaced, and the next one succeeds. -/
theorem state_file_transactional_retry :
    let now : Timestamp := ⟨⟨2024, 1, 1⟩, ⟨0, 0, 0, 0⟩, by decide, by decide⟩
    let moment : Moment := ⟨now, ⟨⟨fun _ => "i", 0⟩, ⟨fun _ => "u", 0⟩⟩⟩
    let arguments := ["--state", "s", "heartbeat", "--owner", "a", "--reporter", "r", "--admin"]
    let heartbeat : Heartbeat := ⟨"a", "r", ⟨"admin", true, .empty⟩⟩
    let host (lastCheckin : Option Timestamp) : Consumer :=
      ⟨some "1", "u", "n", "a", .hypervisor, some ⟨"h", some "r"⟩, [], .empty, lastCheckin⟩
    let text := "\x7b\"owners\":[[\"a\",\"a\"]],\"consumers\":[[\"1\",\"u\",\"n\",\"a\"," ++
      "\"hypervisor\",[\"h\",\"r\"],[],\x7b\x7d,null]]\x7d"
    let d₀ : Disk := ⟨[], [], Dict.empty.insert "s" text.toUTF8,
      fun n => if n = 3 then some .busy else none, 0⟩
    let first := d₀.run (run arguments moment)
    let d₁ : Disk := { first.2 with errors := fun _ => none }
    let second := d₁.run (run arguments moment)
    let s : Store := .ofSnapshot ⟨[.named "a"], [host none]⟩ moment.supplies
    let s' := afterTask d₁ Settings.default.maxReportHosts now { s with supplies := moment.supplies }
      (.heartbeat heartbeat)
    first.1.code = 1 ∧
      (∀ path, statePath? d₀ arguments = some path →
        first.2.files.get? path = d₀.files.get? path) ∧
      second.1.code = 0 ∧ s'.registry.consumers.get? "1" = some (host (some now)) ∧
      ∃ snapshot, second.2.stored "s" = .ok snapshot ∧ ∀ supplies,
        (Store.ofSnapshot snapshot supplies).registry.owners = s'.registry.owners ∧
        (Store.ofSnapshot snapshot supplies).registry.consumers = s'.registry.consumers := by
  intro now moment arguments heartbeat host text d₀ first d₁ second s s'
  have hfirst : first.1.code = 1 := by decide +kernel
  have hstored : d₀.stored "s" = .ok ⟨[.named "a"], [host none]⟩ := by decide +kernel
  have hids : ∀ c ∈ [host none], c.id ≠ none := by decide
  have hpath : statePath? d₀ arguments = some "s" := by decide +kernel
  have hplan : (d₁.run (plan arguments)).1 =
      some (.default, ⟨some "s", .heartbeat heartbeat⟩) := by decide +kernel
  have hsecond : second.1.isDone = true := by decide +kernel
  have hheard : s'.registry.consumers.get? "1" = some (host (some now)) := by decide +kernel
  have hrun₁ : d₀.run (run arguments moment) = first := rfl
  have hrun₂ : d₁.run (run arguments moment) = second := rfl
  clear_value second first
  have hsame : d₁.files.get? "s" = first.2.files.get? "s" := rfl
  clear_value d₁
  obtain ⟨ending₁, d₁'⟩ := first
  obtain ⟨ending₂, d₂⟩ := second
  have hcode : ending₁.code ≠ 0 := by
    dsimp only at hfirst
    omega
  cases ending₂ with
  | done v =>
    have hfailed : Visits "s" d₁' s :=
      .failed (.first hstored hids moment.supplies)
        (fun p hp => Option.some.inj (hp.symm.trans hpath)) hrun₁ (Ending.isDone_of_code hcode)
    have hvisits := Visits.succeeded (.others hfailed hsame) hplan rfl hrun₂
    exact ⟨hfirst, (state_file_transactional.1 _ _ _ _ _ hrun₁ hcode).1, rfl, hheard,
      state_file_transactional.2 "s" d₂ s' hvisits⟩
  | _ => cases hsecond

end HostRoster.Program
