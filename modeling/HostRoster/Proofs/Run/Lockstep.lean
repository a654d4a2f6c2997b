import HostRoster.Proofs.Run.Errand

/-!
# Runs in lockstep

The calls of a run see the faults, the owners and the consumers of its unit of work and the order in
which batches are gone through, draw from the supplies of its session, and lay consumers over the
view. They see neither the versions at the start nor the counts of calls. So two runs that start
from the same contents answer the same and lay the same consumers, whichever calls are out of order.
With one unit of work in both places this says what a run may do to it, and a run that nobody else
interferes with can be told by its attempt alone.
-/

namespace HostRoster

/-- Two units of work that show the same to the calls of a run. -/
structure Transaction.Alike (t t' : Transaction) : Prop where
  /-- The same writes are refused. -/
  faults : t.faults = t'.faults
  /-- Batches are gone through in the same order. -/
  listing : t.listing = t'.listing
  /-- There are the same owners. -/
  owners : t.owners = t'.owners
  /-- There are the same consumers. -/
  view : t.view = t'.view

theorem Transaction.Alike.refl (t : Transaction) : t.Alike t :=
  ⟨rfl, rfl, rfl, rfl⟩

/-- The same consumers may be laid over both. -/
theorem Transaction.Alike.written {t t' : Transaction} (h : t.Alike t') (ds : List Consumer) :
    (t.written ds).Alike (t'.written ds) :=
  ⟨h.faults, h.listing, h.owners, by rw [written_view, written_view, h.view]⟩

namespace Transaction.Alike

variable {t t' : Transaction}

/-- They show the same consumers of every owner. -/
theorem ownedBy (h : t.Alike t') (ownerKey : String) :
    t.ownedBy ownerKey = t'.ownedBy ownerKey := by
  rw [Transaction.ownedBy, Transaction.ownedBy, h.view]

theorem owner? (h : t.Alike t') (key : String) : t.owner? key = t'.owner? key := by
  rw [Transaction.owner?, Transaction.owner?, h.owners]

/-- They find the same hosts. -/
theorem hostConsumers (h : t.Alike t') (ownerKey : String) (hypervisorIds systemUuids : Keys) :
    t.hostConsumers ownerKey hypervisorIds systemUuids =
      t'.hostConsumers ownerKey hypervisorIds systemUuids := by
  rw [Transaction.hostConsumers, Transaction.hostConsumers, h.ownedBy]

/-- They find the same guests. -/
theorem guestConsumers (h : t.Alike t') (ownerKey : String) (guestIds : Keys) :
    t.guestConsumers ownerKey guestIds = t'.guestConsumers ownerKey guestIds := by
  rw [Transaction.guestConsumers, Transaction.guestConsumers, h.ownedBy]

/-- They find the same hosts of every reporter. -/
theorem consumersOfReporter (h : t.Alike t') (ownerKey reporter : String) :
    t.consumersOfReporter ownerKey reporter = t'.consumersOfReporter ownerKey reporter := by
  rw [Transaction.consumersOfReporter, Transaction.consumersOfReporter, h.ownedBy]

/-- They let the same consumers be registered. -/
theorem checkNew (h : t.Alike t') (c : Consumer) : t.checkNew c = t'.checkNew c := by
  rw [Transaction.checkNew, Transaction.checkNew, h.faults, h.view]

/-- They judge batches in the same way, and name the same clash. -/
theorem checkBulk (h : t.Alike t') (cs : List Consumer) : t.checkBulk cs = t'.checkBulk cs := by
  rw [Transaction.checkBulk, Transaction.checkBulk, h.faults, h.listing, h.view]

end Transaction.Alike

namespace Work

/-- Calls that answer the same in units of work that are alike, and lay the same consumers over
their views. -/
def KeepsAlike {α : Type} (x : Work α) : Prop :=
  ∀ t t', t.Alike t' → (x.run.run t).1 = (x.run.run t').1 ∧
    ∃ ds, (x.run.run t).2 = t.written ds ∧ (x.run.run t').2 = t'.written ds

/-- A write that lays a batch over the view once the batch has passed its check keeps units of work
alike. -/
theorem keepsAlike_of_checked {x : Work Unit} (hx : x.Atomic) {cs : List Consumer}
    (laid : Dict Consumer → List Consumer)
    (hafter : ∀ t, x.after t = (t.checkBulk cs).map fun _ => t.written (laid t.view)) :
    x.KeepsAlike := by
  intro t t' h
  rw [hx.run_eq_after, hx.run_eq_after, hafter, hafter, h.checkBulk, h.view]
  rcases t'.checkBulk cs with e | _
  · exact ⟨rfl, [], rfl, rfl⟩
  · exact ⟨rfl, _, rfl, rfl⟩

/-- Writing attributes keeps units of work alike. -/
theorem keepsAlike_updateAttributes (cs : List Consumer) : (updateAttributes cs).KeepsAlike :=
  keepsAlike_of_checked (atomic_updateAttributes cs)
    (fun view => cs.map (Transaction.keepingGuests view)) fun t => t.updateAttributes_eq cs

/-- So does writing consumers. -/
theorem keepsAlike_updateMemberships (cs : List Consumer) : (updateMemberships cs).KeepsAlike :=
  keepsAlike_of_checked (atomic_updateMemberships cs) (fun _ => cs) fun t =>
    t.updateMemberships_eq cs

/-- So does registering a consumer. -/
theorem keepsAlike_create (id : String) (c : Consumer) : (create id c).KeepsAlike := by
  intro t t' h
  rw [(atomic_create id c).run_eq_result, (atomic_create id c).run_eq_result,
    ← Transaction.create, ← Transaction.create, Transaction.create_eq, Transaction.create_eq,
    h.checkNew, h.listing, h.view]
  rcases t'.checkNew c with e | _
  · exact ⟨rfl, [], rfl, rfl⟩
  · rcases Transaction.checkIdentities t'.listing t'.view [{ c with id := some id }] with e | _
    · exact ⟨rfl, [], rfl, rfl⟩
    · exact ⟨rfl, _, rfl, rfl⟩

end Work

/-- Two sessions in which the same was written since two units of work. -/
structure Session.InStep (t t' : Transaction) (σ σ' : Session) : Prop where
  /-- The same consumers were laid over both views. -/
  work : ∃ ds, σ.work = t.written ds ∧ σ'.work = t'.written ds
  /-- The same was drawn from the same supplies. -/
  supplies : σ.supplies = σ'.supplies
  /-- The same calls are out of order. -/
  outages : σ.outages = σ'.outages

/-- Calls that answer the same in sessions that are in step, and leave them in step. -/
def Session.KeepsStep (t t' : Transaction) {α : Type} (x : StateM Session α) : Prop :=
  ∀ σ σ', InStep t t' σ σ' → (x.run σ).1 = (x.run σ').1 ∧ InStep t t' (x.run σ).2 (x.run σ').2

namespace Session

variable {t t' : Transaction} {ε α β : Type}

/-- In sessions in step the units of work are alike. -/
theorem InStep.alike {σ σ' : Session} (hs : t.Alike t') (h : InStep t t' σ σ') :
    σ.work.Alike σ'.work := by
  obtain ⟨ds, hwork, hwork'⟩ := h.work
  rw [hwork, hwork']
  exact hs.written ds

/-- Sessions stay in step when the same consumers are laid over their views. -/
theorem InStep.written {σ σ' : Session} (h : InStep t t' σ σ') (ds : List Consumer) :
    InStep t t' { σ with work := σ.work.written ds } { σ' with work := σ'.work.written ds } := by
  obtain ⟨before, hwork, hwork'⟩ := h.work
  refine ⟨⟨before ++ ds, ?_, ?_⟩, h.supplies, h.outages⟩
  · simp only [hwork, Transaction.written_append]
  · simp only [hwork', Transaction.written_append]

theorem keepsStep_pure (a : α) : KeepsStep t t' (pure a) := fun _ _ h => ⟨rfl, h⟩

/-- Programs that keep sessions in step do so one after the other. -/
theorem keepsStep_bind {x : StateM Session α} {f : α → StateM Session β} (hx : KeepsStep t t' x)
    (hf : ∀ a, KeepsStep t t' (f a)) : KeepsStep t t' (x >>= f) := by
  intro σ σ' h
  obtain ⟨hanswer, hafter⟩ := hx σ σ' h
  obtain ⟨hresult, hend⟩ := hf (x.run σ).1 _ _ hafter
  have hrun (τ : Session) : (x >>= f).run τ = (f (x.run τ).1).run (x.run τ).2 := rfl
  rw [hrun σ, hrun σ', ← hanswer]
  exact ⟨hresult, hend⟩

/-- Calls that follow one another, the later ones only if the earlier ones do not fail. -/
theorem keepsStep_andThen {x : ExceptT ε (StateM Session) α}
    {f : α → ExceptT ε (StateM Session) β} (hx : KeepsStep t t' x.run)
    (hf : ∀ a, KeepsStep t t' (f a).run) : KeepsStep t t' (x >>= f).run := by
  change KeepsStep t t' (x.run >>= ExceptT.bindCont f)
  refine keepsStep_bind hx fun answer => ?_
  cases answer with
  | ok a => exact hf a
  | error e => exact keepsStep_pure _

/-- Calls that depend on the session must do so in the same way in both. -/
theorem keepsStep_get {f : Session → ExceptT ε (StateM Session) α}
    (h : ∀ σ σ', InStep t t' σ σ' → ((f σ).run.run σ).1 = ((f σ').run.run σ').1 ∧
      InStep t t' ((f σ).run.run σ).2 ((f σ').run.run σ').2) :
    KeepsStep t t' (get >>= f : ExceptT ε (StateM Session) α).run := h

/-- What keeps a session in step with itself only lays consumers over the view that it finds. -/
theorem KeepsStep.lays {x : StateM Session α} {σ : Session} (h : KeepsStep σ.work σ.work x) :
    ∃ ds, (x.run σ).2.work = σ.work.written ds := by
  obtain ⟨_, ⟨ds, hds, _⟩, _, _⟩ := h σ σ ⟨⟨[], rfl, rfl⟩, rfl, rfl⟩
  exact ⟨ds, hds⟩

end Session

namespace Act

open Session

variable {t t' : Transaction} {α : Type}

/-- A call is out of order in both sessions or in none. -/
theorem keepsStep_call {act : Act α} (h : KeepsStep t t' act.run) (c : Call) :
    KeepsStep t t' (call c act).run := by
  refine keepsStep_get fun σ σ' hstep => ?_
  rw [← hstep.outages]
  cases σ.outages c with
  | some message => exact ⟨rfl, hstep⟩
  | none => exact h σ σ' hstep

/-- Counts do not matter. -/
theorem keepsStep_count (f : Usage → Usage) : KeepsStep t t' (count f).run :=
  fun _ _ hstep => ⟨rfl, hstep.work, hstep.supplies, hstep.outages⟩

/-- What can be read off a unit of work is the same in both. -/
theorem keepsStep_read (hs : t.Alike t') (read : Transaction → α)
    (h : ∀ u u', u.Alike u' → read u = read u') :
    KeepsStep t t' (do return read (← get).work : Act α).run :=
  fun _ _ hstep => ⟨congrArg Except.ok (h _ _ (hstep.alike hs)), hstep⟩

/-- So is what calls in the unit of work come to that keep units of work alike. -/
theorem keepsStep_inWork (hs : t.Alike t') {x : Work α} (h : x.KeepsAlike) :
    KeepsStep t t' (inWork x).run := by
  intro σ σ' hstep
  obtain ⟨hanswer, ds, hwork, hwork'⟩ := h _ _ (hstep.alike hs)
  have hrun (τ : Session) : (inWork x).run.run τ =
      ((x.run.run τ.work).1, { τ with work := (x.run.run τ.work).2 }) := rfl
  rw [hrun, hrun, hwork, hwork']
  exact ⟨hanswer, hstep.written ds⟩

/-- Looking up an owner keeps sessions in step. -/
theorem keepsStep_owner? (hs : t.Alike t') (key : String) : KeepsStep t t' (owner? key).run :=
  keepsStep_call (keepsStep_read hs (·.owner? key) fun _ _ h => h.owner? key) .owner

/-- So does looking up hosts. -/
theorem keepsStep_hostConsumers (hs : t.Alike t') (ownerKey : String)
    (hypervisorIds systemUuids : Keys) :
    KeepsStep t t' (hostConsumers ownerKey hypervisorIds systemUuids).run :=
  keepsStep_call (keepsStep_andThen (keepsStep_count _) fun _ =>
    keepsStep_read hs (·.hostConsumers ownerKey hypervisorIds systemUuids) fun _ _ h =>
      h.hostConsumers ownerKey hypervisorIds systemUuids) .hostConsumers

/-- So does looking up guests. -/
theorem keepsStep_guestConsumers (hs : t.Alike t') (ownerKey : String) (guestIds : Keys) :
    KeepsStep t t' (guestConsumers ownerKey guestIds).run :=
  keepsStep_call (keepsStep_andThen (keepsStep_count _) fun _ =>
    keepsStep_read hs (·.guestConsumers ownerKey guestIds) fun _ _ h =>
      h.guestConsumers ownerKey guestIds) .guestConsumers

/-- So does looking up the hosts of a reporter. -/
theorem keepsStep_consumersOfReporter (hs : t.Alike t') (ownerKey reporter : String) :
    KeepsStep t t' (consumersOfReporter ownerKey reporter).run :=
  keepsStep_call (keepsStep_read hs (·.consumersOfReporter ownerKey reporter) fun _ _ h =>
    h.consumersOfReporter ownerKey reporter) .consumersOfReporter

/-- A new id is drawn from the supplies of both. -/
theorem keepsStep_create (hs : t.Alike t') (c : Consumer) : KeepsStep t t' (create c).run := by
  refine keepsStep_call (keepsStep_andThen (keepsStep_count _) fun _ => ?_) .create
  refine keepsStep_get fun σ σ' hstep => ?_
  rw [← hstep.supplies]
  refine keepsStep_andThen (keepsStep_inWork hs (Work.keepsAlike_create _ c)) (fun created => ?_)
    σ σ' hstep
  refine keepsStep_andThen (fun τ τ' hτ => ⟨rfl, hτ.work, ?_, hτ.outages⟩) fun _ =>
    keepsStep_pure _
  exact congrArg (fun s : Supplies => { s with ids := s.ids.rest }) hτ.supplies

/-- Writing attributes keeps sessions in step. -/
theorem keepsStep_updateAttributes (hs : t.Alike t') (cs : List Consumer) :
    KeepsStep t t' (updateAttributes cs).run :=
  keepsStep_call (keepsStep_andThen (keepsStep_count _) fun _ =>
    keepsStep_inWork hs (Work.keepsAlike_updateAttributes cs)) .updateAttributes

/-- So does writing consumers. -/
theorem keepsStep_updateMemberships (hs : t.Alike t') (cs : List Consumer) :
    KeepsStep t t' (updateMemberships cs).run :=
  keepsStep_call (keepsStep_andThen (keepsStep_count _) fun _ =>
    keepsStep_inWork hs (Work.keepsAlike_updateMemberships cs)) .updateMemberships

end Act

section programs

open Session

variable {t t' : Transaction}

/-- Batches are written in both sessions or in none. -/
theorem Batches.keepsStep_flush (hs : t.Alike t') (b : Batches) : KeepsStep t t' b.flush.run := by
  have hmemberships : KeepsStep t t'
      (if b.memberships.isEmpty then pure ()
        else Act.updateMemberships b.memberships : Act Unit).run := by
    cases b.memberships.isEmpty with
    | true => exact keepsStep_pure _
    | false => exact Act.keepsStep_updateMemberships hs _
  unfold flush
  cases b.attributes.isEmpty with
  | true => exact hmemberships
  | false => exact keepsStep_andThen (Act.keepsStep_updateAttributes hs _) fun _ => hmemberships

namespace Tally

/-- A host is recorded alike in both sessions, whether or not it could be registered. -/
theorem keepsStep_create (hs : t.Alike t') (tally : Tally) (hostKey : String) (c : Consumer) :
    KeepsStep t t' (tally.create hostKey c) := by
  refine keepsStep_bind (Act.keepsStep_create hs c) fun answer => ?_
  cases answer <;> exact keepsStep_pure _

/-- The pass over plans keeps sessions in step, by induction on the plans. -/
theorem keepsStep_carryOut (hs : t.Alike t') (tally : Tally) (b : Batches) (ms : List Mutation) :
    KeepsStep t t' (tally.carryOut b ms) := by
  induction ms generalizing tally b with
  | nil => exact keepsStep_pure _
  | cons m rest ih =>
    cases m with
    | create hostKey c => exact keepsStep_bind (keepsStep_create hs tally hostKey c) fun _ => ih _ b
    | update hostKey c changes => exact ih _ _
    | skip hostKey => exact ih _ _
    | failed hostKey message kind => exact ih _ _

/-- So does all that is done for the plans. -/
theorem keepsStep_apply (hs : t.Alike t') (tally : Tally) (ms : List Mutation) :
    KeepsStep t t' (tally.apply ms) :=
  keepsStep_bind (keepsStep_carryOut hs tally .empty ms) fun carried =>
    keepsStep_bind (carried.2.keepsStep_flush hs) fun _ => keepsStep_pure _

end Tally

/-- Calls keep sessions in step as parts of a run too. -/
theorem keepsStep_inRun {α : Type} {act : Act α} (h : KeepsStep t t' act.run) :
    KeepsStep t t' act.inRun.run := by
  intro σ σ' hstep
  obtain ⟨hanswer, hafter⟩ := h σ σ' hstep
  exact ⟨congrArg (Except.mapError RunError.store) hanswer, hafter⟩

theorem keepsStep_lift {α : Type} {x : StateM Session α} (h : KeepsStep t t' x) :
    KeepsStep t t' (x : RunM α).run := by
  intro σ σ' hstep
  obtain ⟨hanswer, hafter⟩ := h σ σ' hstep
  exact ⟨congrArg Except.ok hanswer, hafter⟩

/-- The owner is refused in both sessions or in none. -/
theorem keepsStep_authorizedOwner (hs : t.Alike t') (authorizer : Authorizer) (ownerKey : String)
    (principal : Principal) :
    KeepsStep t t' (authorizedOwner authorizer ownerKey principal).run := by
  refine keepsStep_andThen (keepsStep_inRun (Act.keepsStep_owner? hs ownerKey)) fun found => ?_
  cases found with
  | none => exact keepsStep_pure _
  | some o =>
    dsimp only
    split <;> exact keepsStep_pure _

/-- Guests are looked up in both sessions or in none. -/
theorem keepsStep_lookUpGuests (hs : t.Alike t') (ownerKey : String) (guestIds : Keys) :
    KeepsStep t t' (lookUpGuests ownerKey guestIds).run := by
  unfold lookUpGuests
  cases guestIds.isEmpty with
  | true => exact keepsStep_pure _
  | false => exact Act.keepsStep_guestConsumers hs ownerKey guestIds

/-- Planning draws the same uuids in both. -/
theorem keepsStep_planIn (p : Planner) (known : KnownHosts) (es : List HostEntry) :
    KeepsStep t t' (planIn p known es).run := by
  refine keepsStep_get fun σ σ' hstep => ?_
  rw [← hstep.supplies]
  exact ⟨rfl, hstep.work, rfl, hstep.outages⟩

/-- The attempt to reconcile a report keeps sessions in step. -/
theorem Request.keepsStep_attempt (hs : t.Alike t') (r : Request) (authorizer : Authorizer)
    (now : Timestamp) : KeepsStep t t' (r.attempt authorizer now).run := by
  refine keepsStep_andThen (keepsStep_authorizedOwner hs _ _ _) fun o => ?_
  cases o.autobindDisabled with
  | true => exact keepsStep_pure _
  | false =>
    refine keepsStep_andThen (keepsStep_inRun (Act.keepsStep_hostConsumers hs _ _ _))
      fun known => ?_
    refine keepsStep_andThen (keepsStep_inRun (keepsStep_lookUpGuests hs _ _)) fun guests => ?_
    refine keepsStep_andThen (keepsStep_planIn _ known _) fun ms => ?_
    refine keepsStep_andThen (keepsStep_lift (Tally.keepsStep_apply hs _ ms)) fun applied => ?_
    obtain ⟨tally, e | _⟩ := applied <;> exact keepsStep_pure _

/-- So does the attempt of a heartbeat. -/
theorem Heartbeat.keepsStep_attempt (hs : t.Alike t') (h : Heartbeat) (authorizer : Authorizer)
    (now : Timestamp) : KeepsStep t t' (h.attempt authorizer now).run := by
  refine keepsStep_andThen (keepsStep_authorizedOwner hs _ _ _) fun o => ?_
  refine keepsStep_andThen (keepsStep_inRun (Act.keepsStep_consumersOfReporter hs _ _)) fun cs => ?_
  cases cs.isEmpty with
  | true => exact keepsStep_pure _
  | false =>
    exact keepsStep_andThen (keepsStep_inRun (Act.keepsStep_updateAttributes hs _)) fun _ =>
      keepsStep_pure _

/-- An errand comes to the same in sessions in step, and leaves them in step. -/
theorem Errand.keepsStep_attempt (hs : t.Alike t') (e : Errand) (authorizer : Authorizer)
    (now : Timestamp) : KeepsStep t t' (e.attempt authorizer now).run := by
  cases e with
  | reconcile r =>
    exact keepsStep_andThen (r.keepsStep_attempt hs authorizer now) fun _ => keepsStep_pure _
  | heartbeat h =>
    exact keepsStep_andThen (h.keepsStep_attempt hs authorizer now) fun _ => keepsStep_pure _

end programs

/-- Whichever calls are out of order, an errand only lays consumers over the view that it finds. -/
theorem Errand.lays_attempt (e : Errand) (authorizer : Authorizer) (now : Timestamp) (σ : Session) :
    ∃ ds, (e.after authorizer now σ).work = σ.work.written ds :=
  (e.keepsStep_attempt (.refl σ.work) authorizer now).lays

namespace Store

/-- What was laid over a view of the store meets no conflict as long as nobody else commits. -/
theorem committed_written_start (r : Registry) (faults : Faults) (listing : Listing)
    (ds : List Consumer) :
    ((Transaction.start r faults listing).written ds).committed r =
      .ok (((Transaction.start r faults listing).written ds).published r) := by
  refine Transaction.committed_eq_ok_iff.mpr ⟨?_, rfl⟩
  exact Transaction.conflict?_eq_none_iff.mpr fun _ _ => rfl

variable {c : Circumstances}

/-- A run that is left alone fails with its attempt, or publishes what its attempt has written. -/
theorem runFor_eq (s : Store) (hout : c.outages = .none) (halone : c.competitor = none)
    (e : Errand) :
    s.runFor c e =
      match (e.attempt c.authorizer c.now).run.run (.start s .none) with
      | (.ok answer, σ) =>
        (.ok answer, { σ.leave s with
          registry := σ.work.published s.registry
          usage := { σ.usage with commits := σ.usage.commits + 1 } })
      | (.error cause, σ) => (.error cause, (σ.leave s).rollback) := by
  obtain ⟨ds, hds⟩ := e.lays_attempt c.authorizer c.now (.start s .none)
  rw [Errand.after] at hds
  rw [runFor_eq_conclude s hout halone]
  rcases hrun : (e.attempt c.authorizer c.now).run.run (.start s .none) with ⟨cause | answer, σ⟩
  · exact conclude_of_error hrun
  · rw [hrun] at hds
    have hcommit := committed_written_start s.registry s.faults s.listing ds
    have hwork : σ.work = (Transaction.start s.registry s.faults s.listing).written ds := hds
    rw [← hwork] at hcommit
    exact conclude_of_ok hrun hcommit

section alone

variable (s : Store) (hout : c.outages = .none) (halone : c.competitor = none) (e : Errand)
include hout halone

/-- It answers what its attempt does. -/
theorem answer_runFor :
    (s.runFor c e).1 = ((e.attempt c.authorizer c.now).run.run (.start s .none)).1 := by
  rw [runFor_eq s hout halone]
  rcases (e.attempt c.authorizer c.now).run.run (.start s .none) with ⟨cause | answer, σ⟩ <;> rfl

/-- It leaves the supplies that its attempt does. -/
theorem supplies_runFor :
    (s.runFor c e).2.supplies = (e.after c.authorizer c.now (.start s .none)).supplies := by
  rw [runFor_eq s hout halone, Errand.after]
  rcases (e.attempt c.authorizer c.now).run.run (.start s .none) with ⟨cause | answer, σ⟩ <;> rfl

/-- It leaves the writes that are refused. -/
theorem faults_runFor : (s.runFor c e).2.faults = s.faults := by
  rw [runFor_eq s hout halone]
  rcases (e.attempt c.authorizer c.now).run.run (.start s .none) with ⟨cause | answer, σ⟩ <;> rfl

/-- It leaves the order in which batches are gone through. -/
theorem listing_runFor : (s.runFor c e).2.listing = s.listing := by
  rw [runFor_eq s hout halone]
  rcases (e.attempt c.authorizer c.now).run.run (.start s .none) with ⟨cause | answer, σ⟩ <;> rfl

/-- It leaves the owners. -/
theorem owners_runFor : (s.runFor c e).2.registry.owners = s.registry.owners := by
  rw [runFor_eq s hout halone]
  rcases (e.attempt c.authorizer c.now).run.run (.start s .none) with ⟨cause | answer, σ⟩
  · rfl
  · exact Transaction.published_owners _ _

/-- If it fails, the consumers stay as they were; otherwise they become what its attempt sees. -/
theorem consumers_runFor :
    (s.runFor c e).2.registry.consumers =
      match (s.runFor c e).1 with
      | .ok _ => (e.after c.authorizer c.now (.start s .none)).work.view
      | .error _ => s.registry.consumers := by
  obtain ⟨ds, hds⟩ := e.lays_attempt c.authorizer c.now (.start s .none)
  rw [Errand.after] at hds
  rw [runFor_eq s hout halone, Errand.after]
  rcases hrun : (e.attempt c.authorizer c.now).run.run (.start s .none) with ⟨cause | answer, σ⟩
  · rfl
  · rw [hrun] at hds
    have hwork : σ.work = (Transaction.start s.registry s.faults s.listing).written ds := hds
    simp only [hwork, Transaction.published_written_start, Transaction.written_view]
    rfl

end alone

/-- Two stores that are the same to runs, which see neither versions nor counts. -/
structure Alike (s s' : Store) : Prop where
  /-- The same writes are refused. -/
  faults : s.faults = s'.faults
  /-- Batches are gone through in the same order. -/
  listing : s.listing = s'.listing
  /-- There are the same owners. -/
  owners : s.registry.owners = s'.registry.owners
  /-- There are the same consumers. -/
  consumers : s.registry.consumers = s'.registry.consumers
  /-- New ids and uuids are the same. -/
  supplies : s.supplies = s'.supplies

/-- Units of work on such stores are alike. -/
theorem Alike.start {s s' : Store} (h : s.Alike s') : s.start.Alike s'.start :=
  ⟨h.faults, h.listing, h.owners, h.consumers⟩

/-- Runs that are left alone answer the same in such stores, and leave such stores. -/
theorem Alike.runFor {s s' : Store} (h : s.Alike s') (hout : c.outages = .none)
    (halone : c.competitor = none) (e : Errand) :
    (s.runFor c e).1 = (s'.runFor c e).1 ∧ (s.runFor c e).2.Alike (s'.runFor c e).2 := by
  obtain ⟨hanswer, ⟨ds, hwork, hwork'⟩, hsupplies, _⟩ :=
    e.keepsStep_attempt h.start c.authorizer c.now (.start s .none) (.start s' .none)
      ⟨⟨[], rfl, rfl⟩, h.supplies, rfl⟩
  have hsame : (s.runFor c e).1 = (s'.runFor c e).1 := by
    rw [answer_runFor s hout halone, answer_runFor s' hout halone, hanswer]
  have hview : (e.after c.authorizer c.now (.start s .none)).work.view =
      (e.after c.authorizer c.now (.start s' .none)).work.view := by
    rw [Errand.after, Errand.after, hwork, hwork', Transaction.written_view,
      Transaction.written_view, h.start.view]
  refine ⟨hsame, ?_, ?_, ?_, ?_, ?_⟩
  · rw [faults_runFor s hout halone, faults_runFor s' hout halone, h.faults]
  · rw [listing_runFor s hout halone, listing_runFor s' hout halone, h.listing]
  · rw [owners_runFor s hout halone, owners_runFor s' hout halone, h.owners]
  · rw [consumers_runFor s hout halone, consumers_runFor s' hout halone, hsame, hview,
      h.consumers]
  · rw [supplies_runFor s hout halone, supplies_runFor s' hout halone]
    exact hsupplies

end Store

end HostRoster
