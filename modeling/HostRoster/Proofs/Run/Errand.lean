import HostRoster.Proofs.Run.Footprint

/-!
# Errands

Reports and heartbeats as one kind of errand. Whichever it is, a run writes consumers of the owner
that it finds only, and comes to the same in two sessions that are the same to this owner.
-/

namespace HostRoster

/-- What a run is made for. -/
inductive Errand where
  /-- A report is to be reconciled. -/
  | reconcile (request : Request)
  /-- The hosts of a reporter were heard of. -/
  | heartbeat (heartbeat : Heartbeat)
  deriving DecidableEq, Repr

/-- What a run answers that does not fail. -/
inductive Answer where
  /-- A report was reconciled. -/
  | reconciled (outcome : Outcome)
  /-- Hosts were heard of. -/
  | heardOf (outcome : HeartbeatOutcome)
  deriving DecidableEq, Repr

namespace Errand

/-- The key of the owner. -/
def ownerKey : Errand → String
  | .reconcile r => r.ownerKey
  | .heartbeat h => h.ownerKey

/-- What is done within a unit of work. -/
def attempt (authorizer : Authorizer) (now : Timestamp) : Errand → RunM Answer
  | .reconcile r => .reconciled <$> r.attempt authorizer now
  | .heartbeat h => .heardOf <$> h.attempt authorizer now

end Errand

/-- A run for an errand. -/
def Store.runFor (s : Store) (c : Circumstances) : Errand → Except RunError Answer × Store
  | .reconcile r => ((s.reconcile c r).1.map .reconciled, (s.reconcile c r).2)
  | .heartbeat h => ((s.heartbeat c h).1.map .heardOf, (s.heartbeat c h).2)

/-- A part of a run may be made before its result is changed. -/
theorem Session.run_map {α β : Type} (f : α → β) (x : RunM α) (σ : Session) :
    (f <$> x).run.run σ = ((x.run.run σ).1.map f, (x.run.run σ).2) := by
  rw [map_eq_pure_bind, Effect.run_bind]
  rcases x.run.run σ with ⟨e | a, σ'⟩ <;> rfl

/-- A part of a run whose changed result is known has a result. -/
theorem Session.exists_of_run_map {α β : Type} {f : α → β} {x : RunM α} {σ σ' : Session} {b : β}
    (h : (f <$> x).run.run σ = (.ok b, σ')) : ∃ a, x.run.run σ = (.ok a, σ') := by
  rw [run_map] at h
  rcases hx : x.run.run σ with ⟨e | a, τ⟩
  · rw [hx] at h
    cases h
  · rw [hx] at h
    obtain ⟨_, rfl⟩ := Prod.mk.inj h
    exact ⟨a, rfl⟩

namespace Store

/-- The end of a run does not depend on its result. -/
theorem settle_map {α β : Type} (s : Store) (outages : Outages) (t : Transaction) (f : α → β)
    (a : α) :
    s.settle outages t (f a) = ((s.settle outages t a).1.map f, (s.settle outages t a).2) := by
  unfold settle
  cases outages .commit with
  | some message => rfl
  | none => rcases s.commit t with ⟨e | _, s'⟩ <;> rfl

/-- What a run answers may be changed at its end. -/
theorem conclude_map {α β : Type} (s : Store) (t : Transaction) (f : α → β) (x : RunM α) :
    s.conclude t (f <$> x) = ((s.conclude t x).1.map f, (s.conclude t x).2) := by
  rw [conclude, conclude, Session.run_map]
  rcases x.run.run ⟨t, s.usage, s.supplies, .none⟩ with ⟨e | a, σ⟩
  · rfl
  · exact settle_map _ _ _ f a

/-- A run for an errand that is left alone makes its attempt in a unit of work of its own. -/
theorem runFor_eq_conclude (s : Store) {c : Circumstances} (hout : c.outages = .none)
    (halone : c.competitor = none) (e : Errand) :
    s.runFor c e = s.conclude s.start (e.attempt c.authorizer c.now) := by
  have hexecute {α : Type} (attempt : Authorizer → Timestamp → RunM α) :
      s.execute c attempt = s.conclude s.start (attempt c.authorizer c.now) := by
    rw [execute_eq_conclude s hout, halone]
    rfl
  cases e with
  | reconcile r => rw [runFor, reconcile, hexecute, Errand.attempt, conclude_map]
  | heartbeat h => rw [runFor, heartbeat, hexecute, Errand.attempt, conclude_map]

end Store

/-- Two errors of runs for an owner whose stores go through batches in two orders: one error, or two
clashes of ids within the owner. -/
inductive RunError.UpToListing (ownerKey : String) (listing listing' : Listing) :
    RunError → RunError → Prop where
  /-- The errors are one. -/
  | same (e : RunError) : UpToListing ownerKey listing listing' e e
  /-- The stores fail with errors that correspond. -/
  | store {e e' : StoreError} (h : StoreError.UpToListing ownerKey listing listing' e e') :
    UpToListing ownerKey listing listing' (.store e) (.store e')

namespace Errand

variable {e : Errand} (authorizer : Authorizer) (now : Timestamp) {σ : Session} {k : String}

/-- The session that the attempt leaves. -/
def after (e : Errand) (authorizer : Authorizer) (now : Timestamp) (σ : Session) : Session :=
  ((e.attempt authorizer now).run.run σ).2

/-- An errand writes new consumers of the owner that it finds and those that it sees. -/
theorem keeps_after (hσ : σ.outages = .none) (hfiled : FiledById σ.work.view)
    (hk : ∀ o, σ.work.owner? e.ownerKey = some o → o.key = k) :
    σ.Keeps k (e.after authorizer now σ) := by
  have hsame : σ.Keeps k σ := ⟨⟨[], rfl, fun _ hd => by simp at hd⟩, .refl _, .refl _⟩
  obtain ⟨t, u, s, o⟩ := σ
  obtain rfl : o = .none := hσ
  cases e with
  | reconcile r =>
    rw [after, attempt, Session.run_map, Request.run_attempt]
    cases ho : t.owner? r.ownerKey with
    | none => exact hsame
    | some o =>
      obtain rfl : o.key = k := hk o ho
      cases hrefuse : r.refusal? authorizer o with
      | some e => simpa only [hrefuse] using hsame
      | none =>
        simp only [hrefuse, run_reconcileEntries]
        exact Planner.keeps_flushed (p := r.planner authorizer now o) rfl hfiled
  | heartbeat h =>
    rw [after, attempt, Session.run_map, Heartbeat.run_attempt]
    cases ho : t.owner? h.ownerKey with
    | none => exact hsame
    | some o =>
      obtain rfl : o.key = k := hk o ho
      cases hauth : authorizer h.principal o .update with
      | false => simpa only [hauth, Bool.false_eq_true, if_false] using hsame
      | true =>
        simp only [hauth, if_true]
        exact Session.keeps_heartbeats (σ := ⟨t, u, s, .none⟩) hfiled _ _ _

/-- An errand comes to the same in sessions that are the same to the owner that it finds, but for
the clash of ids that is named where a batch is refused, if the uuids that it draws are not in use
elsewhere. -/
theorem attempt_congr {σ' : Session} (h : σ.SameFor k σ')
    (howner : σ.work.owner? e.ownerKey = σ'.work.owner? e.ownerKey) (hfiled : FiledById σ.work.view)
    (hk : ∀ o, σ.work.owner? e.ownerKey = some o → o.key = k)
    (hr : Reserved σ.work.view k
      (σ.supplies.uuids.HandedOut (e.after authorizer now σ).supplies.uuids))
    (hr' : Reserved σ'.work.view k
      (σ.supplies.uuids.HandedOut (e.after authorizer now σ).supplies.uuids)) :
    Answers.Same (RunError.UpToListing k σ.work.listing σ'.work.listing)
        ((e.attempt authorizer now).run.run σ).1 ((e.attempt authorizer now).run.run σ').1 ∧
      (e.after authorizer now σ).SameFor k (e.after authorizer now σ') := by
  obtain ⟨t, u, s, o⟩ := σ
  obtain ⟨t', u', s', o'⟩ := σ'
  obtain ⟨rfl, rfl, rfl⟩ : s = s' ∧ o = .none ∧ o' = .none := ⟨h.supplies, h.outages, h.outages'⟩
  cases e with
  | reconcile r =>
    have howner : t.owner? r.ownerKey = t'.owner? r.ownerKey := howner
    rw [after] at hr hr'
    rw [after, after]
    simp only [attempt, Session.run_map, Request.run_attempt, ← howner] at hr hr' ⊢
    cases ho : t.owner? r.ownerKey with
    | none => exact ⟨.error (.same _), h⟩
    | some o =>
      obtain rfl : o.key = k := hk o ho
      simp only [ho] at hr hr'
      cases hrefuse : r.refusal? authorizer o with
      | some e =>
        simp only [hrefuse]
        exact ⟨.error (.same e), h⟩
      | none =>
        simp only [hrefuse, run_reconcileEntries, Planner.uuids_flushed] at hr hr' ⊢
        obtain ⟨hresult, hsession, htally⟩ := Planner.flushed_congr
          (p := r.planner authorizer now o) h hfiled hr hr'
        rw [htally]
        exact ⟨((hresult.mapError .store).map _).map _, hsession⟩
  | heartbeat h' =>
    have howner : t.owner? h'.ownerKey = t'.owner? h'.ownerKey := howner
    rw [after, after]
    simp only [attempt, Session.run_map, Heartbeat.run_attempt, ← howner]
    cases ho : t.owner? h'.ownerKey with
    | none => exact ⟨.error (.same _), h⟩
    | some o =>
      obtain rfl : o.key = k := hk o ho
      cases hauth : authorizer h'.principal o .update with
      | false =>
        simp only [hauth, Bool.false_eq_true, if_false]
        exact ⟨.error (.same _), h⟩
      | true =>
        have hchanges := Transaction.changes_heartbeats hfiled o.key h'.reporter now
        have hbatches := h.work.heartbeats h'.reporter now
        have hcount := h.work.consumersOfReporter h'.reporter
        obtain ⟨hresult, hsession⟩ := h.flushIn hchanges fun d hd => by
          simp [Transaction.heartbeats] at hd
        simp only [hauth, if_true, ← hbatches, ← hcount]
        exact ⟨((hresult.mapError .store).map _).map _, hsession⟩

end Errand

end HostRoster
