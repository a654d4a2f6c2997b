import HostRoster.Proofs.Answers
import HostRoster.Proofs.Run.Amid
import HostRoster.Proofs.Run.Errand
import HostRoster.Proofs.Store.Conflicts

/-!
# Atomicity

Writes and commits are made step by step, and what they have done is not taken back when they fail.
They leave no trace all the same, since whatever may fail in them comes before the first record is
staged or published. As nothing but a commit changes the store, a run that fails has changed nothing
of what is committed, however much it had written before, and whichever call it was that failed.
-/

namespace HostRoster

namespace Act

variable {α β : Type}

/-- Calls that leave the unit of work as it was if they fail. The counts of calls may change. -/
def KeepsWork (act : Act α) : Prop :=
  ∀ σ e, (act.run.run σ).1 = .error e → (act.run.run σ).2.work = σ.work

/-- Calls that depend on the session. -/
theorem keepsWork_get {f : Session → Act α}
    (h : ∀ σ e, ((f σ).run.run σ).1 = .error e → ((f σ).run.run σ).2.work = σ.work) :
    (get >>= f : Act α).KeepsWork := h

/-- A call that is out of order does nothing. -/
theorem keepsWork_call {act : Act α} (h : act.KeepsWork) (c : Call) : (call c act).KeepsWork := by
  refine keepsWork_get fun σ e he => ?_
  cases hout : σ.outages c with
  | some message => rfl
  | none =>
    rw [hout] at he
    exact h σ e he

/-- Counting a call does not touch the unit of work. -/
theorem keepsWork_count {act : Act α} (h : act.KeepsWork) (f : Usage → Usage) :
    (do count f; act).KeepsWork :=
  fun σ => h { σ with usage := f σ.usage }

/-- A session's unit of work is as it was if the calls in it leave no trace. -/
theorem keepsWork_inWork {x : Work α} (h : x.Atomic) : (inWork x).KeepsWork :=
  fun σ e he => h σ.work e he

/-- Only what is sure to succeed may follow a call that has changed the unit of work. -/
theorem keepsWork_bind {act : Act α} (h : act.KeepsWork) {f : α → Act β}
    (hf : ∀ a, (f a).Succeeds) : (act >>= f).KeepsWork := by
  intro σ e he
  have hkeeps := h σ
  rw [Effect.run_bind] at he ⊢
  rcases hrun : act.run.run σ with ⟨e' | a, τ⟩
  · rw [hrun] at hkeeps
    exact hkeeps e' rfl
  · obtain ⟨b, hb⟩ := hf a τ
    rw [hrun] at he
    rw [hb] at he
    cases he

/-- Registering leaves the unit of work as it was if it fails. -/
theorem keepsWork_create (c : Consumer) : (create c).KeepsWork := by
  refine keepsWork_call (keepsWork_count (keepsWork_get fun σ => ?_) _) .create
  refine keepsWork_bind (keepsWork_inWork (Work.atomic_create _ c)) (fun created => ?_) σ
  exact Effect.succeeds_bind (Effect.succeeds_modify _) fun _ => Effect.succeeds_pure created

/-- So does writing attributes. -/
theorem keepsWork_updateAttributes (cs : List Consumer) : (updateAttributes cs).KeepsWork :=
  keepsWork_call (keepsWork_count (keepsWork_inWork (Work.atomic_updateAttributes cs)) _)
    .updateAttributes

/-- And so does writing consumers. -/
theorem keepsWork_updateMemberships (cs : List Consumer) : (updateMemberships cs).KeepsWork :=
  keepsWork_call (keepsWork_count (keepsWork_inWork (Work.atomic_updateMemberships cs)) _)
    .updateMemberships

end Act

namespace World

/-- Only a commit that succeeds changes the store. -/
theorem registry_step {w : World} {x : Step} (h : ∀ name, w.deed x ≠ .committed name) :
    (w.step x).store.registry = w.store.registry := by
  have hdid := w.did_step x
  generalize w.deed x = d at h hdid
  generalize w.step x = w' at hdid
  cases hdid with
  | opened | idle => rfl
  | wrote _ _ _ hregistry | ended _ hregistry => exact hregistry
  | @committed _ name => exact absurd rfl (h name)

/-- A commit that fails leaves what is committed as it was. -/
theorem registry_commit {w : World} {name : String} {t : Transaction} {e : StoreError}
    (h : (w.commit name t).1 = .error e) :
    (w.commit name t).2.store.registry = w.store.registry := by
  rw [commit_answer] at h
  cases hc : t.committed w.store.registry with
  | error e => rw [commit_of_error hc, drop]
  | ok r =>
    rw [hc] at h
    cases h

end World

namespace Store

variable {α : Type}

/-- Makes the attempt of a run in a unit of work that was opened before, and commits or rolls back,
where any call may be out of order. -/
def concludeIn (s : Store) (outages : Outages) (t : Transaction) (attempt : RunM α) :
    Except RunError α × Store :=
  match attempt.run.run ⟨t, s.usage, s.supplies, outages⟩ with
  | (.ok result, σ) => (σ.leave s).settle outages σ.work result
  | (.error e, σ) => (.error e, (σ.leave s).abandon outages)

/-- The store as others leave it to a run: the run comes no further than its opening, or its
competitor is registered before it goes on. -/
def leftByOthers (s : Store) (c : Circumstances) : Store :=
  match c.outages .start with
  | some _ => s
  | none => (s.compete c.competitor).2

variable {s : Store} {outages : Outages} {t : Transaction} {e : RunError}

/-- A run without a competitor finds the store as it is. -/
theorem leftByOthers_of_alone {c : Circumstances} (halone : c.competitor = none) :
    s.leftByOthers c = s := by
  unfold leftByOthers
  cases c.outages .start with
  | some message => rfl
  | none => rw [halone]; rfl

/-- The end of a run that fails leaves the store as it was. -/
theorem settle_of_error {a : α} (h : (s.settle outages t a).1 = .error e) :
    (s.settle outages t a).2 = s := by
  unfold settle at h ⊢
  cases hout : outages .commit with
  | some message => rfl
  | none =>
    cases hc : t.committed s.registry with
    | error e => simp only [commit_of_error hc]
    | ok r =>
      simp only [hout, commit_of_ok hc] at h
      cases h

/-- Rolling back changes nothing of what is committed. -/
theorem registry_abandon (s : Store) (outages : Outages) :
    (s.abandon outages).registry = s.registry := by
  unfold abandon
  cases outages .rollback <;> rfl

/-- Whichever call of a run fails, nothing of what is committed has changed. -/
theorem registry_concludeIn {attempt : RunM α}
    (h : (s.concludeIn outages t attempt).1 = .error e) :
    (s.concludeIn outages t attempt).2.registry = s.registry := by
  unfold concludeIn at h ⊢
  rcases hrun : attempt.run.run ⟨t, s.usage, s.supplies, outages⟩ with ⟨e | a, σ⟩
  · exact registry_abandon _ _
  · simp only [hrun] at h ⊢
    rw [settle_of_error h]
    rfl

/-- A whole run that fails leaves what others have left to it. -/
theorem registry_execute {c : Circumstances} {attempt : Authorizer → Timestamp → RunM α}
    (h : (s.execute c attempt).1 = .error e) :
    (s.execute c attempt).2.registry = (s.leftByOthers c).registry := by
  unfold execute at h ⊢
  unfold leftByOthers
  cases hout : c.outages .start with
  | some message => rfl
  | none =>
    rcases hc : s.compete c.competitor with ⟨e | _, s'⟩
    · rfl
    · simp only [hout, hc] at h ⊢
      exact registry_concludeIn h

/-- So does a run for any errand. -/
theorem registry_runFor {c : Circumstances} {errand : Errand}
    (h : (s.runFor c errand).1 = .error e) :
    (s.runFor c errand).2.registry = (s.leftByOthers c).registry := by
  cases errand with
  | reconcile r => exact registry_execute (Answers.map_eq_error_iff.mp h)
  | heartbeat h' => exact registry_execute (Answers.map_eq_error_iff.mp h)

end Store

/-- The attempt of a run while others take their steps, where any call may be out of order. The unit
of work is opened before these steps and comes to its end after them; new ids and uuids come from
any supplies. -/
def World.attemptAmid {α : Type} (w : World) (others : List Step) (supplies : Supplies)
    (outages : Outages) (attempt : RunM α) : Except RunError α × Store :=
  ({ (w.run others).store with supplies := supplies } : Store).concludeIn outages w.store.start
    attempt

/-- Whatever fails leaves no trace: a write none in its unit of work, a commit none in the registry,
and a run none in what is committed. Nor does any step leave one there that is not a commit. -/
theorem failures_leave_no_trace :
    ((∀ id c, (Work.create id c).Atomic) ∧ (∀ cs, (Work.updateAttributes cs).Atomic) ∧
      (∀ cs, (Work.updateMemberships cs).Atomic) ∧ ∀ t : Transaction, t.commit.Atomic) ∧
    ((∀ c, (Act.create c).KeepsWork) ∧ (∀ cs, (Act.updateAttributes cs).KeepsWork) ∧
      ∀ cs, (Act.updateMemberships cs).KeepsWork) ∧
    (∀ (w : World) (name : String) (t : Transaction) (e : StoreError),
      (w.commit name t).1 = .error e →
        (w.commit name t).2.store.registry = w.store.registry) ∧
    (∀ (w : World) (x : Step), (∀ name, w.deed x ≠ .committed name) →
      (w.step x).store.registry = w.store.registry) ∧
    (∀ (w : World) (others : List Step) (supplies : Supplies) (outages : Outages)
      (authorizer : Authorizer) (now : Timestamp) (errand : Errand) (e : RunError),
      (w.attemptAmid others supplies outages (errand.attempt authorizer now)).1 = .error e →
        (w.attemptAmid others supplies outages (errand.attempt authorizer now)).2.registry =
          (w.run others).store.registry) ∧
    ∀ (s : Store) (c : Circumstances) (errand : Errand) (e : RunError),
      (s.runFor c errand).1 = .error e →
        (s.runFor c errand).2.registry = (s.leftByOthers c).registry :=
  ⟨⟨Work.atomic_create, Work.atomic_updateAttributes, Work.atomic_updateMemberships,
      Transaction.atomic_commit⟩,
    ⟨Act.keepsWork_create, Act.keepsWork_updateAttributes, Act.keepsWork_updateMemberships⟩,
    fun _ _ _ _ h => World.registry_commit h, fun _ _ h => World.registry_step h,
    fun _ _ _ _ _ _ _ _ h => Store.registry_concludeIn h,
    fun _ _ _ _ h => Store.registry_runFor h⟩

/-- A host is registered and another one written before the call fails that would have written the
guests of a third; with all calls in order, the commit fails if somebody else is the first. -/
theorem failures_leave_no_trace_halfway :
    let now : Timestamp := ⟨⟨2024, 1, 1⟩, ⟨0, 0, 0, 0⟩, by decide, by decide⟩
    let host (id hypervisorId : String) : Consumer :=
      ⟨some id, "u" ++ id, "n" ++ id, "a", .hypervisor, some ⟨hypervisorId, none⟩, [], .empty, none⟩
    let s : Store :=
      ⟨{ Registry.empty.addOwner (.named "a") with
          consumers := Transaction.overwritten .empty [host "1" "h", host "2" "i"] },
        .none, .none, ⟨⟨fun _ => "3", 0⟩, ⟨fun _ => "u3", 0⟩⟩, .given⟩
    let outages : Outages := fun call => if call = .updateMemberships then some "down" else none
    let errand : Errand :=
      .reconcile ⟨"a", true, some "q", .admin "root",
        ⟨[.withId "j", .withId "h", (ReportedHost.withId "i").withGuests ["g"]]⟩⟩
    let others : List Step := [.start "x", .create "x" (host "" "k"), .commit "x"]
    let broken := s.runFor ⟨.byGrants, now, outages, none⟩ errand
    let lost := (World.ofStore s).attemptAmid others s.supplies .none (errand.attempt .byGrants now)
    (broken.1 = .error (.store (.backend "down")) ∧ broken.2.usage.creates = 1 ∧
      broken.2.usage.attributeUpdates = 1 ∧ broken.2.usage.rollbacks = 1 ∧
      broken.2.registry = s.registry) ∧
    lost.1 = .error (.store (.conflict "a")) ∧
      lost.2.registry = ((World.ofStore s).run others).store.registry := by
  intro now host s outages errand others broken lost
  have hbroken : broken.1 = .error (.store (.backend "down")) := by decide +kernel
  have hlost : lost.1 = .error (.store (.conflict "a")) := by decide +kernel
  have hcreates : broken.2.usage.creates = 1 := by decide +kernel
  have hupdates : broken.2.usage.attributeUpdates = 1 := by decide +kernel
  have hrollbacks : broken.2.usage.rollbacks = 1 := by decide +kernel
  clear_value s outages errand others
  obtain ⟨_, _, _, _, hamid, hrun⟩ := failures_leave_no_trace
  refine ⟨⟨hbroken, hcreates, hupdates, hrollbacks, ?_⟩, hlost, ?_⟩
  · exact (hrun s _ errand _ hbroken).trans (by rw [Store.leftByOthers_of_alone rfl])
  · exact hamid _ others _ _ _ _ errand _ hlost

end HostRoster
