import HostRoster.Proofs.Run.Attempt
import HostRoster.Proofs.Store.Interleaving

/-!
# Runs amid other units of work

A run opens its unit of work, others take steps of their own, and the run commits or rolls back. Of
all that others do, nothing counts for the run but whether they commit a write to the owners that it
has written itself.
-/

namespace HostRoster

namespace World

/-- Whether a step commits a write to an owner. -/
def publishes (w : World) (ownerKey : String) : Step → Bool
  | .commit name =>
    (w.works.get? name).any fun t =>
      (t.conflict? w.store.registry).isNone && t.touched.contains ownerKey
  | _ => false

/-- Whether one of some steps commits a write to an owner. -/
def commitsTo (w : World) (ownerKey : String) : List Step → Bool
  | [] => false
  | s :: rest => w.publishes ownerKey s || (w.step s).commitsTo ownerKey rest

/-- A report is reconciled while others take their steps. The unit of work is opened before these
and comes to its end after them; new ids and uuids come from any supplies. -/
def reconcileAmid (w : World) (others : List Step) (supplies : Supplies) (authorizer : Authorizer)
    (now : Timestamp) (r : Request) : Except RunError Outcome × Store :=
  ({ (w.run others).store with supplies := supplies } : Store).conclude w.store.start
    (r.attempt authorizer now)

/-- The session that is left of such a run before its end. -/
def leftAmid (w : World) (others : List Step) (supplies : Supplies) (authorizer : Authorizer)
    (now : Timestamp) (r : Request) : Session :=
  ((r.attempt authorizer now).run.run
    ⟨w.store.start, (w.run others).store.usage, supplies, .none⟩).2

/-- The version of an owner's consumers. -/
def version (w : World) (ownerKey : String) : Nat :=
  Registry.version w.store.registry.versions ownerKey

/-- A step raises the version of an owner by one if it commits a write to it, and not otherwise. -/
theorem version_step (w : World) (k : String) (s : Step) :
    (w.step s).version k = w.version k + if w.publishes k s = true then 1 else 0 := by
  cases s with
  | commit name =>
    rw [step, whenOpen, publishes]
    cases ht : w.works.get? name with
    | none => rfl
    | some t =>
      simp only [Option.any_some]
      rcases Option.eq_none_or_eq_some (t.conflict? w.store.registry) with hfree | ⟨key, hfree⟩
      · have hcommit := Transaction.committed_eq_ok_iff.mpr ⟨hfree, rfl⟩
        simp [version, (commit_of_ok hcommit name).1, Transaction.version_published, hfree]
      · have hcommit : t.committed w.store.registry = .error (.conflict key) := by
          rw [Transaction.committed_eq, hfree]
        simp [version, commit_of_error hcommit name, drop, hfree]
  | create name c =>
    rw [step, whenOpen]
    cases w.works.get? name <;> rfl
  | updateAttributes name cs =>
    rw [step, whenOpen]
    cases w.works.get? name <;> rfl
  | updateMemberships name cs =>
    rw [step, whenOpen]
    cases w.works.get? name <;> rfl
  | rollback name =>
    rw [step, whenOpen]
    cases w.works.get? name <;> rfl
  | start name => rfl
  | drop name => rfl

/-- The version of an owner tells whether steps have committed a write to it. -/
theorem version_run (w : World) (k : String) (steps : List Step) :
    w.version k ≤ (w.run steps).version k ∧
      (w.commitsTo k steps = true ↔ (w.run steps).version k ≠ w.version k) := by
  induction steps generalizing w with
  | nil => simp [commitsTo]
  | cons s rest ih =>
    obtain ⟨hle, hiff⟩ := ih (w.step s)
    have hstep := w.version_step k s
    rw [run_cons, commitsTo, Bool.or_eq_true, hiff]
    split at hstep
    · next hpublishes =>
      simp only [hpublishes, true_or, true_iff]
      omega
    · next hpublishes =>
      simp only [hpublishes, Bool.false_eq_true, false_or]
      rw [hstep, Nat.add_zero] at hle ⊢
      exact ⟨hle, Iff.rfl⟩

section openWork

variable {w : World} {name : String} {t : Transaction}

/-- In an open unit of work the consumer is registered. -/
theorem step_create_of_open (h : w.works.get? name = some t) (c : Consumer) :
    w.step (.create name c) = (w.act name t (Act.create c).run).2 := by
  rw [step, whenOpen, h]

/-- An open unit of work is committed. -/
theorem step_commit_of_open (h : w.works.get? name = some t) :
    w.step (.commit name) = (w.commit name t).2 := by
  rw [step, whenOpen, h]

end openWork

/-- A run that is left alone is a run amid no steps. -/
theorem reconcile_eq_reconcileAmid (s : Store) {c : Circumstances} (hout : c.outages = .none)
    (halone : c.competitor = none) (r : Request) :
    s.reconcile c r = (ofStore s).reconcileAmid [] s.supplies c.authorizer c.now r := by
  rw [Store.reconcile, Store.execute_eq_conclude s hout, halone]
  rfl

/-- A run with a competitor is a run amid the steps in which the competitor is registered. -/
theorem reconcile_eq_reconcileAmid_competitor (s : Store) {c : Circumstances}
    (hout : c.outages = .none) {d : Consumer} {s' : Store}
    (hcompete : s.compete c.competitor = (.ok (), s')) (hd : c.competitor = some d) (r : Request) :
    s.reconcile c r =
      (ofStore s).reconcileAmid [.start "", .create "" d, .commit ""] s'.supplies c.authorizer c.now
        r := by
  have hstore : ({ ((ofStore s).run [.start "", .create "" d, .commit ""]).store with
      supplies := s'.supplies } : Store) = s' := by
    rw [hd, Store.compete, Store.registerAlone] at hcompete
    rcases hcreate : (Act.create d).run (.start s .none) with ⟨result, σ⟩
    rw [hcreate] at hcompete
    have hopen : ((ofStore s).step (.start "")).works.get? "" = some s.start :=
      Dict.get?_insert_self _ _ _
    have hact : (((ofStore s).step (.start "")).act "" s.start (Act.create d).run).2 =
        ⟨((Act.create d).run (.start s .none)).2.leave s,
          ((ofStore s).step (.start "")).works.insert ""
            ((Act.create d).run (.start s .none)).2.work⟩ := rfl
    rw [hcreate] at hact
    rw [run_cons, run_cons, run_cons, run_nil, step_create_of_open hopen, hact,
      step_commit_of_open (Dict.get?_insert_self _ _ _)]
    cases result with
    | error e => cases hcompete
    | ok created =>
      have hcommit : (σ.leave s).commit σ.work = (.ok (), s') := hcompete
      simp only [commit, drop]
      rw [hcommit]
  rw [Store.reconcile, Store.execute_eq_conclude s hout, hcompete, reconcileAmid, hstore]
  rfl

end World

end HostRoster
