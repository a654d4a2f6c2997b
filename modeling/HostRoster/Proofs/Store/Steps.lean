import HostRoster.Proofs.Store.Calls

/-!
# Steps of units of work

The steps that units of work on one store take, each told by what it has come to: which records were
accepted, and whether a commit got through. A step leaves nothing but what its deed leaves: an
opening copies the store, accepted records are laid over one view, a commit that succeeds publishes,
and all else leaves the store as it is.
-/

namespace HostRoster

/-- A step of a named unit of work. -/
inductive Step where
  /-- Opens it. -/
  | start (name : String)
  /-- Registers a consumer. -/
  | create (name : String) (consumer : Consumer)
  /-- Writes consumers, all but their guests. -/
  | updateAttributes (name : String) (consumers : List Consumer)
  /-- Writes consumers. -/
  | updateMemberships (name : String) (consumers : List Consumer)
  /-- Commits it. -/
  | commit (name : String)
  /-- Rolls it back. -/
  | rollback (name : String)
  /-- Drops it. -/
  | drop (name : String)
  deriving DecidableEq, Repr

namespace World

/-- What becomes of a world by means of a unit of work, if that is open. -/
def whenOpen (w : World) (name : String) (f : Transaction → World) : World :=
  match w.works.get? name with
  | some t => f t
  | none => w

/-- The world after a step; steps of a unit of work that is not open do nothing. -/
def step (w : World) : Step → World
  | .start name => w.start name
  | .create name c => w.whenOpen name fun t => (w.act name t (Act.create c).run).2
  | .updateAttributes name cs =>
    w.whenOpen name fun t => (w.act name t (Act.updateAttributes cs).run).2
  | .updateMemberships name cs =>
    w.whenOpen name fun t => (w.act name t (Act.updateMemberships cs).run).2
  | .commit name => w.whenOpen name fun t => (w.commit name t).2
  | .rollback name => w.whenOpen name fun _ => w.rollback name
  | .drop name => w.drop name

/-- The world after steps. -/
def run (w : World) (steps : List Step) : World := steps.foldl step w

@[simp] theorem run_nil (w : World) : w.run [] = w := rfl

@[simp] theorem run_cons (w : World) (s : Step) (rest : List Step) :
    w.run (s :: rest) = (w.step s).run rest := rfl

/-- A commit that succeeds leaves the registry that its unit of work comes to. -/
theorem commit_of_ok {w : World} {t : Transaction} {r : Registry}
    (h : t.committed w.store.registry = .ok r) (name : String) :
    (w.commit name t).2.store.registry = r ∧ (w.commit name t).2.works = w.works.erase name := by
  rw [commit, Store.commit_of_ok h]
  exact ⟨rfl, rfl⟩

/-- Of a commit that fails nothing is left but that its unit of work is gone. -/
theorem commit_of_error {w : World} {t : Transaction} {e : StoreError}
    (h : t.committed w.store.registry = .error e) (name : String) :
    w.commit name t = (.error e, w.drop name) := by
  rw [commit, Store.commit_of_error h]
  rfl

/-- A commit draws nothing. -/
theorem supplies_commit (w : World) (name : String) (t : Transaction) :
    (w.commit name t).2.store.supplies = w.store.supplies := by
  cases h : t.committed w.store.registry with
  | error e => rw [commit_of_error h, drop]
  | ok r => rw [commit, Store.commit_of_ok h]

/-- A commit answers what its unit of work answers. -/
theorem commit_answer (w : World) (name : String) (t : Transaction) :
    (w.commit name t).1 = (t.committed w.store.registry).map fun _ => () := by
  cases h : t.committed w.store.registry with
  | error e =>
    rw [commit_of_error h]
    rfl
  | ok r =>
    rw [commit, Store.commit_of_ok h]
    rfl

/-- A commit that succeeds finds no conflict and publishes. -/
theorem published_of_commit {w : World} {name : String} {t : Transaction}
    (hok : (w.commit name t).1 = .ok ()) :
    t.conflict? w.store.registry = none ∧
      (w.commit name t).2.store.registry = t.published w.store.registry := by
  rw [commit_answer] at hok
  cases hc : t.committed w.store.registry with
  | error e => simp [hc, Except.map] at hok
  | ok r =>
    obtain ⟨hfree, rfl⟩ := Transaction.committed_eq_ok_iff.mp hc
    exact ⟨hfree, (commit_of_ok hc name).1⟩

/-- Whether a unit of work is open and its commit succeeds. -/
def commits (w : World) (name : String) : Bool :=
  (w.works.get? name).any fun t => (w.commit name t).1.isOk

/-- An open unit of work commits exactly if its commit is answered with success. -/
theorem commits_iff {w : World} {name : String} {t : Transaction}
    (ht : w.works.get? name = some t) :
    w.commits name = true ↔ (w.commit name t).1 = .ok () := by
  rw [commits, ht, Option.any_some]
  cases (w.commit name t).1 <;> simp [Except.isOk, Except.toBool]

end World

/-- What a step of a unit of work has come to. -/
inductive Deed where
  /-- The unit of work was opened. -/
  | opened (name : String)
  /-- It has staged records; none if the call was not accepted. -/
  | wrote (name : String) (records : List Consumer)
  /-- It was committed. -/
  | committed (name : String)
  /-- It has come to its end without a commit. -/
  | ended (name : String)
  deriving DecidableEq, Repr

namespace World

/-- The records of a call in a unit of work, if that is open and the call is accepted. -/
def recordsOf {α : Type} (w : World) (name : String) (act : Act α)
    (records : Transaction → α → List Consumer) : List Consumer :=
  match w.works.get? name with
  | some t =>
    match (w.act name t act.run).1 with
    | .ok a => records t a
    | .error _ => []
  | none => []

/-- What a step comes to. A record of a write of attributes has the guests that the unit of work
sees. -/
def deed (w : World) : Step → Deed
  | .start name => .opened name
  | .create name c => .wrote name (w.recordsOf name (Act.create c) fun _ d => [d])
  | .updateAttributes name cs =>
    .wrote name (w.recordsOf name (Act.updateAttributes cs) fun t _ =>
      cs.map (Transaction.keepingGuests t.view))
  | .updateMemberships name cs =>
    .wrote name (w.recordsOf name (Act.updateMemberships cs) fun _ _ => cs)
  | .commit name => if w.commits name then .committed name else .ended name
  | .rollback name | .drop name => .ended name

/-- What a deed leaves of the world that it was done in. -/
inductive Did (w : World) : Deed → World → Prop where
  /-- A unit of work is opened. -/
  | opened (name : String) : w.Did (.opened name) (w.start name)
  /-- Records are laid over the view of a unit of work. -/
  | wrote {w' : World} {name : String} {t : Transaction} {cs : List Consumer}
    (ht : w.works.get? name = some t) (haccepts : t.Accepts cs)
    (hdraws : t.Draws w.store.supplies.ids cs w'.store.supplies.ids)
    (hregistry : w'.store.registry = w.store.registry)
    (hworks : w'.works = w.works.insert name (t.written cs)) : w.Did (.wrote name cs) w'
  /-- A call is made in a unit of work that is not open. -/
  | idle {name : String} : w.Did (.wrote name []) w
  /-- A unit of work is committed. -/
  | committed {w' : World} {name : String} {t : Transaction}
    (ht : w.works.get? name = some t) (hfree : t.conflict? w.store.registry = none)
    (hids : w'.store.supplies = w.store.supplies)
    (hregistry : w'.store.registry = t.published w.store.registry)
    (hworks : w'.works = w.works.erase name) : w.Did (.committed name) w'
  /-- A unit of work is gone without a trace. -/
  | ended {w' : World} {name : String} (hids : w'.store.supplies = w.store.supplies)
    (hregistry : w'.store.registry = w.store.registry)
    (hworks : w'.works = w.works.erase name) : w.Did (.ended name) w'

/-- A call that stages records has laid them over the view, or has done nothing. -/
theorem did_act {α : Type} {act : Act α} {records : Transaction → α → List Consumer}
    (hact : act.Stages records) (w : World) (name : String) :
    w.Did (.wrote name (w.recordsOf name act records))
      (w.whenOpen name fun t => (w.act name t act.run).2) := by
  unfold recordsOf whenOpen
  cases ht : w.works.get? name with
  | none => exact .idle
  | some t =>
    rcases hact t w.store.usage w.store.supplies with
      ⟨a, σ, hrun, haccepts, hdraws, hwork⟩ | ⟨e, σ, hrun, hids, hwork⟩
    · have hworld : w.act name t act.run =
          (.ok a, ⟨σ.leave w.store, w.works.insert name σ.work⟩) := by
        unfold World.act
        rw [hrun]
      simp only [hworld]
      exact .wrote ht haccepts hdraws rfl (by rw [hwork])
    · have hworld : w.act name t act.run =
          (.error e, ⟨σ.leave w.store, w.works.insert name σ.work⟩) := by
        unfold World.act
        rw [hrun]
      have hseen : t.Draws w.store.supplies.ids [] σ.supplies.ids :=
        hids ▸ .seen fun c hc => by simp at hc
      simp only [hworld]
      exact .wrote ht (Act.accepts_nil t) hseen rfl (by rw [hwork, Transaction.written_nil])

/-- A unit of work that is not open comes to no end. -/
theorem did_ended_of_none {w : World} {name : String} (h : w.works.get? name = none) :
    w.Did (.ended name) w :=
  .ended rfl rfl (Dict.erase_eq_self h).symm

/-- A commit has published, or its unit of work has come to its end. -/
theorem did_commit (w : World) (name : String) :
    w.Did (if w.commits name then .committed name else .ended name)
      (w.whenOpen name fun t => (w.commit name t).2) := by
  unfold commits whenOpen
  cases ht : w.works.get? name with
  | none => exact did_ended_of_none ht
  | some t =>
    simp only [Option.any_some, commit_answer]
    cases hc : t.committed w.store.registry with
    | error e =>
      rw [commit_of_error hc]
      exact .ended rfl rfl rfl
    | ok r =>
      obtain ⟨hregistry, hworks⟩ := commit_of_ok hc name
      obtain ⟨hfree, rfl⟩ := Transaction.committed_eq_ok_iff.mp hc
      exact .committed ht hfree (w.supplies_commit name t) hregistry hworks

/-- Every step leaves what its deed leaves. -/
theorem did_step (w : World) (x : Step) : w.Did (w.deed x) (w.step x) := by
  cases x with
  | start name => exact .opened name
  | create name c => exact did_act (Act.stages_create c) w name
  | updateAttributes name cs => exact did_act (Act.stages_updateAttributes cs) w name
  | updateMemberships name cs => exact did_act (Act.stages_updateMemberships cs) w name
  | commit name => exact did_commit w name
  | rollback name =>
    cases ht : w.works.get? name with
    | none =>
      simp only [deed, step, whenOpen, ht]
      exact did_ended_of_none ht
    | some t =>
      simp only [deed, step, whenOpen, ht]
      exact .ended rfl rfl rfl
  | drop name => exact .ended rfl rfl rfl

end World

end HostRoster
