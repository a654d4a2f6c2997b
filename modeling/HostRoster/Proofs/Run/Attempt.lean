import HostRoster.Proofs.Run.Persist
import HostRoster.Run

/-!
# Attempts of a run

What a run does within its unit of work when no call is out of order: it asks for the owner, looks
up what the report mentions, plans, and carries the plans out. A run with its opening and its commit
taken apart is the same attempt, made in a unit of work that was opened earlier.
-/

namespace HostRoster

/-- The registered hosts that entries mention. -/
def Transaction.knownHosts (t : Transaction) (ownerKey : String) (es : List HostEntry) :
    KnownHosts :=
  t.hostConsumers ownerKey (reportedIds es) (reportedSystemUuids es)

/-- The registered guests that entries mention. -/
def Transaction.knownGuests (t : Transaction) (ownerKey : String) (es : List HostEntry) :
    KnownGuests :=
  if (reportedGuests es).isEmpty then .empty else t.guestConsumers ownerKey (reportedGuests es)

/-- The counts after the look-ups for entries. -/
def Usage.afterLookUps (u : Usage) (es : List HostEntry) : Usage :=
  { u with
    hostLookups := u.hostLookups + 1
    guestLookups := u.guestLookups + if (reportedGuests es).isEmpty then 0 else 1 }

namespace Request

/-- What the entries of the report have in common. -/
def planner (r : Request) (authorizer : Authorizer) (now : Timestamp) (o : Owner) : Planner :=
  ⟨o, r.createMissing, r.reporter, now, r.denial? authorizer o⟩

/-- Why the report is not reconciled with the hosts of an owner at all. -/
def refusal? (r : Request) (authorizer : Authorizer) (o : Owner) : Option RunError :=
  if authorizer r.principal o .update then
    if o.autobindDisabled then some (.autobindDisabled o.key) else none
  else some (.accessDenied r.principal.description .update o.key)

/-- A request is not refused as a whole if the principal may change the owner and autobind is not
disabled. -/
theorem refusal?_eq_none_iff (r : Request) (authorizer : Authorizer) {o : Owner} :
    r.refusal? authorizer o = none ↔
      authorizer r.principal o .update = true ∧ o.autobindDisabled = false := by
  unfold refusal?
  cases authorizer r.principal o .update <;> cases o.autobindDisabled <;> simp

end Request

namespace Planner

variable (p : Planner) (σ : Session) (es : List HostEntry)

/-- The plans for entries in a session, and the supply that is left. -/
def plans : List Mutation × Supply :=
  p.planEntries (σ.work.knownHosts p.owner.key es) σ.supplies.uuids es

/-- The session in which the plans for entries are carried out. -/
def planned : Session :=
  { σ with
    usage := σ.usage.afterLookUps es
    supplies := { σ.supplies with uuids := (p.plans σ es).2 } }

/-- What the pass over the plans for entries leaves behind. -/
def carried : Carried := (p.planned σ es).carry (p.plans σ es).1

/-- What the batches of the plans for entries come to, and the session they leave. -/
def flushed : Except StoreError Unit × Session :=
  (Batches.of (p.plans σ es).1).flushIn (p.carried σ es).session

/-- The states of the hosts and the guests that moved. -/
def tally : Tally :=
  ((Tally.start p.createMissing).recordAll (p.carried σ es).states).recordMigrations
    (migrations (p.plans σ es).1 (σ.work.knownGuests p.owner.key es))

variable {p σ} in
/-- What the pass over the plans leaves of the session. -/
theorem carries_carried (hσ : σ.outages = .none) (es : List HostEntry) :
    (p.planned σ es).Carries (p.plans σ es).1 (p.carried σ es) :=
  (p.planned σ es).carries hσ (p.plans σ es).1

/-- The pass writes the registered consumers. -/
theorem work_carried (hσ : σ.outages = .none) :
    (p.carried σ es).session.work = σ.work.written (p.carried σ es).registered :=
  (carries_carried hσ es).work

/-- So they are laid over the view. -/
theorem view_carried (hσ : σ.outages = .none) :
    (p.carried σ es).session.work.view =
      Transaction.overwritten σ.work.view (p.carried σ es).registered :=
  congrArg Transaction.view (p.work_carried σ es hσ)

/-- Reconciles entries with the registered hosts of the owner. -/
def reconcileEntries : RunM Outcome := do
  let known ← (Act.hostConsumers p.owner.key (reportedIds es) (reportedSystemUuids es)).inRun
  let guests ← (lookUpGuests p.owner.key (reportedGuests es)).inRun
  let ms ← planIn p known es
  let (t, written) ← ((Tally.start p.createMissing).apply ms : StateM Session _)
  match written with
  | .error e => throw (.store e)
  | .ok () => return (t.recordMigrations (migrations ms guests)).outcome

end Planner

/-- A consumer that was just heard of. -/
def Consumer.heardOf (now : Timestamp) (c : Consumer) : Consumer :=
  { c with lastCheckin := some now }

/-- The batches of a heartbeat. -/
def Transaction.heartbeats (t : Transaction) (ownerKey reporter : String) (now : Timestamp) :
    Batches :=
  ⟨(t.consumersOfReporter ownerKey reporter).map (·.heardOf now), []⟩

namespace RunM

/-- Calls in a run answer what they answer by themselves. -/
theorem run_inRun {α : Type} (act : Act α) (σ : Session) :
    act.inRun.run.run σ = ((act.run.run σ).1.mapError .store, (act.run.run σ).2) := rfl

/-- What cannot fail does not make a run fail. -/
theorem run_lift {α : Type} (act : StateM Session α) (σ : Session) :
    (act : RunM α).run.run σ = (.ok (act.run σ).1, (act.run σ).2) := rfl

/-- Planning draws uuids and does nothing else to the session. -/
theorem run_planIn (p : Planner) (known : KnownHosts) (es : List HostEntry) (σ : Session) :
    (planIn p known es).run.run σ =
      (.ok (p.planEntries known σ.supplies.uuids es).1,
        { σ with
          supplies :=
            { σ.supplies with uuids := (p.planEntries known σ.supplies.uuids es).2 } }) := rfl

end RunM

section equations

variable (t : Transaction) (u : Usage) (s : Supplies)

/-- Guests are looked up if any are reported. -/
theorem run_lookUpGuests (ownerKey : String) (es : List HostEntry) :
    (lookUpGuests ownerKey (reportedGuests es)).run.run ⟨t, u, s, .none⟩ =
      (.ok (t.knownGuests ownerKey es),
        ⟨t, { u with
          guestLookups := u.guestLookups + if (reportedGuests es).isEmpty then 0 else 1 }, s,
          .none⟩) := by
  unfold lookUpGuests Transaction.knownGuests
  cases (reportedGuests es).isEmpty with
  | true => rfl
  | false => exact Act.run_guestConsumers t u s ownerKey (reportedGuests es)

/-- The owner is found if it is there and the principal may change its consumers. -/
theorem run_authorizedOwner (authorizer : Authorizer) (ownerKey : String) (principal : Principal) :
    (authorizedOwner authorizer ownerKey principal).run.run ⟨t, u, s, .none⟩ =
      (match t.owner? ownerKey with
        | none => .error (.ownerNotFound ownerKey)
        | some o =>
          if authorizer principal o .update then .ok o
          else .error (.accessDenied principal.description .update o.key),
        ⟨t, u, s, .none⟩) := by
  rw [authorizedOwner, Effect.run_bind, RunM.run_inRun, Act.run_owner?]
  simp only [Except.mapError]
  cases t.owner? ownerKey with
  | none => rfl
  | some o =>
    cases hauth : authorizer principal o .update with
    | false =>
      simp only [hauth, Bool.false_eq_true, if_false]
      rfl
    | true =>
      simp only [hauth, if_true]
      rfl

/-- Entries are reconciled by the pass over their plans and the batches of the plans. -/
theorem run_reconcileEntries (p : Planner) (es : List HostEntry) :
    (p.reconcileEntries es).run.run ⟨t, u, s, .none⟩ =
      (((p.flushed ⟨t, u, s, .none⟩ es).1.mapError .store).map
          fun _ => (p.tally ⟨t, u, s, .none⟩ es).outcome,
        (p.flushed ⟨t, u, s, .none⟩ es).2) := by
  rw [Planner.reconcileEntries, Effect.run_bind, RunM.run_inRun, Act.run_hostConsumers]
  simp only [Except.mapError]
  rw [Effect.run_bind, RunM.run_inRun, run_lookUpGuests]
  simp only [Except.mapError]
  rw [Effect.run_bind, RunM.run_planIn]
  simp only
  rw [Effect.run_bind, RunM.run_lift, Tally.run_apply,
    Batches.run_flush _ (Session.carries _ rfl _).outages]
  change (match (p.flushed ⟨t, u, s, .none⟩ es).1 with
    | .error e => throw (.store e)
    | .ok () => return (p.tally ⟨t, u, s, .none⟩ es).outcome : RunM Outcome).run.run
      (p.flushed ⟨t, u, s, .none⟩ es).2 = _
  cases (p.flushed ⟨t, u, s, .none⟩ es).1 <;> rfl

/-- A report is refused as a whole, or its entries are reconciled. -/
theorem Request.run_attempt (r : Request) (authorizer : Authorizer) (now : Timestamp) :
    (r.attempt authorizer now).run.run ⟨t, u, s, .none⟩ =
      match t.owner? r.ownerKey with
      | none => (.error (.ownerNotFound r.ownerKey), ⟨t, u, s, .none⟩)
      | some o =>
        match r.refusal? authorizer o with
        | some e => (.error e, ⟨t, u, s, .none⟩)
        | none =>
          ((r.planner authorizer now o).reconcileEntries r.report.entries).run.run
            ⟨t, u, s, .none⟩ := by
  rw [Request.attempt, Effect.run_bind, run_authorizedOwner]
  cases t.owner? r.ownerKey with
  | none => rfl
  | some o =>
    cases hauth : authorizer r.principal o .update with
    | false => simp only [Request.refusal?, hauth, Bool.false_eq_true, if_false]
    | true =>
      cases hbind : o.autobindDisabled with
      | false =>
        simp only [Request.refusal?, hauth, hbind, Bool.false_eq_true, if_true, if_false]
        rfl
      | true =>
        simp only [Request.refusal?, hauth, hbind, if_true]
        rfl

/-- An attempt comes to a result exactly if the report is not refused and all batches are written.
-/
theorem Request.run_attempt_eq_ok_iff (r : Request) (authorizer : Authorizer) (now : Timestamp)
    {outcome : Outcome} {σ : Session} :
    (r.attempt authorizer now).run.run ⟨t, u, s, .none⟩ = (.ok outcome, σ) ↔
      ∃ o, t.owner? r.ownerKey = some o ∧ r.refusal? authorizer o = none ∧
        (r.planner authorizer now o).flushed ⟨t, u, s, .none⟩ r.report.entries = (.ok (), σ) ∧
        ((r.planner authorizer now o).tally ⟨t, u, s, .none⟩ r.report.entries).outcome =
          outcome := by
  rw [r.run_attempt t u s authorizer now]
  cases t.owner? r.ownerKey with
  | none => exact ⟨fun h => (by cases h), fun ⟨_, ho, _⟩ => (by cases ho)⟩
  | some o =>
    simp only [Option.some.injEq, exists_eq_left']
    cases hgranted : r.refusal? authorizer o with
    | some e => exact ⟨fun h => (by cases h), fun ⟨h, _⟩ => (by cases h)⟩
    | none =>
      simp only [run_reconcileEntries, true_and]
      rcases (r.planner authorizer now o).flushed ⟨t, u, s, .none⟩ r.report.entries with ⟨e | _, τ⟩
      · exact ⟨fun h => (by cases h), fun ⟨h, _⟩ => (by cases h)⟩
      · constructor
        · rintro ⟨⟩
          exact ⟨rfl, rfl⟩
        · rintro ⟨⟨⟩, rfl⟩
          rfl

/-- A heartbeat is refused, or writes its batch. -/
theorem Heartbeat.run_attempt (h : Heartbeat) (authorizer : Authorizer) (now : Timestamp) :
    (h.attempt authorizer now).run.run ⟨t, u, s, .none⟩ =
      match t.owner? h.ownerKey with
      | none => (.error (.ownerNotFound h.ownerKey), ⟨t, u, s, .none⟩)
      | some o =>
        if authorizer h.principal o .update then
          let flushed := (t.heartbeats o.key h.reporter now).flushIn ⟨t, u, s, .none⟩
          ((flushed.1.mapError .store).map fun _ =>
            ⟨h.ownerKey, h.reporter, (t.consumersOfReporter o.key h.reporter).length⟩, flushed.2)
        else (.error (.accessDenied h.principal.description .update o.key), ⟨t, u, s, .none⟩) := by
  rw [Heartbeat.attempt, Effect.run_bind, run_authorizedOwner]
  cases t.owner? h.ownerKey with
  | none => rfl
  | some o =>
    cases hauth : authorizer h.principal o .update with
    | false => simp only [hauth, Bool.false_eq_true, if_false]
    | true =>
      simp only [hauth, if_true]
      rw [Effect.run_bind, RunM.run_inRun, Act.run_consumersOfReporter]
      simp only [Except.mapError]
      rw [← Batches.run_flush _ rfl, Transaction.heartbeats, Batches.flush]
      simp only [List.isEmpty_map, List.isEmpty_nil, if_true]
      cases (t.consumersOfReporter o.key h.reporter).isEmpty with
      | true => rfl
      | false =>
        simp only [Bool.false_eq_true, if_false, Consumer.heardOf]
        simp only [Effect.run_bind, RunM.run_inRun]
        rcases (Act.updateAttributes _).run.run _ with ⟨e | _, σ'⟩ <;> rfl

end equations

namespace Store

/-- Makes the attempt of a run in a unit of work that was opened before, and commits or rolls back.
The calls of the attempt touch nothing but the unit of work. -/
def conclude {α : Type} (s : Store) (t : Transaction) (attempt : RunM α) :
    Except RunError α × Store :=
  match attempt.run.run ⟨t, s.usage, s.supplies, .none⟩ with
  | (.ok result, σ) => (σ.leave s).settle .none σ.work result
  | (.error e, σ) => (.error e, (σ.leave s).abandon .none)

/-- A run is concluded in the unit of work that it opened before its competitor came. -/
theorem execute_eq_conclude {α : Type} (s : Store) {c : Circumstances} (hout : c.outages = .none)
    (attempt : Authorizer → Timestamp → RunM α) :
    s.execute c attempt =
      match s.compete c.competitor with
      | (.error e, s) => (.error (.store e), s)
      | (.ok (), s') => s'.conclude s.start (attempt c.authorizer c.now) := by
  have hcalls : c.outages .start = none := by rw [hout]; rfl
  rw [execute, hcalls, hout]
  rcases s.compete c.competitor with ⟨e | _, s'⟩ <;> rfl

variable {α : Type} {s : Store} {t : Transaction} {attempt : RunM α} {σ : Session}

/-- A run whose attempt fails is rolled back. -/
theorem conclude_of_error {e : RunError}
    (h : attempt.run.run ⟨t, s.usage, s.supplies, .none⟩ = (.error e, σ)) :
    s.conclude t attempt = (.error e, (σ.leave s).rollback) := by
  rw [conclude, h]
  rfl

/-- A run that has come to a result fails if its commit does. -/
theorem conclude_of_conflict {a : α} {e : StoreError}
    (h : attempt.run.run ⟨t, s.usage, s.supplies, .none⟩ = (.ok a, σ))
    (hcommit : σ.work.committed s.registry = .error e) :
    s.conclude t attempt = (.error (.store e), σ.leave s) := by
  have hfail : (σ.leave s).commit σ.work = (.error e, σ.leave s) := commit_of_error hcommit
  rw [conclude, h]
  simp only [settle, Outages.none, hfail]

/-- Otherwise it answers its result and leaves the registry that its commit comes to. -/
theorem conclude_of_ok {a : α} {r : Registry}
    (h : attempt.run.run ⟨t, s.usage, s.supplies, .none⟩ = (.ok a, σ))
    (hcommit : σ.work.committed s.registry = .ok r) :
    s.conclude t attempt =
      (.ok a, { σ.leave s with
        registry := r
        usage := { σ.usage with commits := σ.usage.commits + 1 } }) := by
  have hdone : (σ.leave s).commit σ.work = (.ok (), _) := commit_of_ok hcommit
  rw [conclude, h]
  simp only [settle, Outages.none, hdone]
  rfl

/-- A run comes to a result exactly if its attempt does and the commit meets no conflict. -/
theorem conclude_eq_ok_iff {a : α} {s' : Store} :
    s.conclude t attempt = (.ok a, s') ↔
      ∃ σ, attempt.run.run ⟨t, s.usage, s.supplies, .none⟩ = (.ok a, σ) ∧
        σ.work.conflict? s.registry = none ∧
        s' = { σ.leave s with
          registry := σ.work.published s.registry
          usage := { σ.usage with commits := σ.usage.commits + 1 } } := by
  constructor
  · intro h
    rcases hrun : attempt.run.run ⟨t, s.usage, s.supplies, .none⟩ with ⟨e | b, σ⟩
    · rw [conclude_of_error hrun] at h
      cases h
    · cases hcommit : σ.work.committed s.registry with
      | error e =>
        rw [conclude_of_conflict hrun hcommit] at h
        cases h
      | ok r =>
        obtain ⟨hfree, rfl⟩ := Transaction.committed_eq_ok_iff.mp hcommit
        rw [conclude_of_ok hrun hcommit] at h
        cases h
        exact ⟨σ, rfl, hfree, rfl⟩
  · rintro ⟨σ, hrun, hfree, rfl⟩
    exact conclude_of_ok hrun (Transaction.committed_eq_ok_iff.mpr ⟨hfree, rfl⟩)

/-- A run that fails leaves the registry alone, and one that does not has published its writes. -/
theorem conclude_cases (s : Store) (t : Transaction) (attempt : RunM α) :
    (s.conclude t attempt).2.faults = s.faults ∧
      ((∃ e, (s.conclude t attempt).1 = .error e ∧
          (s.conclude t attempt).2.registry = s.registry) ∨
        ∃ a σ, attempt.run.run ⟨t, s.usage, s.supplies, .none⟩ = (.ok a, σ) ∧
          σ.work.conflict? s.registry = none ∧ (s.conclude t attempt).1 = .ok a ∧
          (s.conclude t attempt).2.registry = σ.work.published s.registry) := by
  rcases h : attempt.run.run ⟨t, s.usage, s.supplies, .none⟩ with ⟨e | a, σ⟩
  · rw [conclude_of_error h]
    exact ⟨rfl, Or.inl ⟨e, rfl, rfl⟩⟩
  · cases hcommit : σ.work.committed s.registry with
    | error e =>
      rw [conclude_of_conflict h hcommit]
      exact ⟨rfl, Or.inl ⟨_, rfl, rfl⟩⟩
    | ok r =>
      obtain ⟨hfree, rfl⟩ := Transaction.committed_eq_ok_iff.mp hcommit
      rw [conclude_of_ok h hcommit]
      exact ⟨rfl, Or.inr ⟨a, σ, rfl, hfree, rfl, rfl⟩⟩

end Store

end HostRoster
