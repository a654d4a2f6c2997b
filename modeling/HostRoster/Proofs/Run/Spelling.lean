import HostRoster.Proofs.Run.Atomicity
import HostRoster.Proofs.Spelling

/-!
# Runs of reports in other spellings

A run makes the same calls for a report and for one with other spellings of the ids of hosts, so
each call is answered in the same way whichever calls are out of order, and the store is left the
same. Outcomes are recorded by the lower-case host keys, and differ in nothing but the wording of
the refusals for hosts that could not be changed.
-/

namespace HostRoster

namespace Session

variable {ε α β γ δ : Type}

/-- Two programs that come to corresponding results from any session, and leave it the same. -/
def Corresponds (R : α → β → Prop) (x : StateM Session α) (y : StateM Session β) : Prop :=
  ∀ σ, R (x.run σ).1 (y.run σ).1 ∧ (x.run σ).2 = (y.run σ).2

theorem corresponds_self (x : StateM Session α) : Corresponds Eq x x := fun _ => ⟨rfl, rfl⟩

/-- Results that correspond may be answered. -/
theorem corresponds_pure {R : α → β → Prop} {a : α} {b : β} (h : R a b) :
    Corresponds R (pure a) (pure b) :=
  fun _ => ⟨h, rfl⟩

/-- Programs correspond if their parts do. -/
theorem corresponds_bind {R : α → β → Prop} {S : γ → δ → Prop} {x : StateM Session α}
    {y : StateM Session β} {f : α → StateM Session γ} {g : β → StateM Session δ}
    (h : Corresponds R x y) (hf : ∀ a b, R a b → Corresponds S (f a) (g b)) :
    Corresponds S (x >>= f) (y >>= g) := by
  intro σ
  obtain ⟨hresult, hsession⟩ := h σ
  have hnext := hf _ _ hresult (x.run σ).2
  have hrun : (x >>= f).run σ = (f (x.run σ).1).run (x.run σ).2 := rfl
  have hrun' : (y >>= g).run σ = (g (y.run σ).1).run (y.run σ).2 := rfl
  rw [hrun, hrun', ← hsession]
  exact hnext

/-- A failure of the first part is one of the whole. -/
theorem corresponds_andThen {R : α → β → Prop} {S : γ → δ → Prop}
    {x : ExceptT ε (StateM Session) α} {y : ExceptT ε (StateM Session) β}
    {f : α → ExceptT ε (StateM Session) γ} {g : β → ExceptT ε (StateM Session) δ}
    (h : Corresponds (Answers.Rel R) x.run y.run)
    (hf : ∀ a b, R a b → Corresponds (Answers.Rel S) (f a).run (g b).run) :
    Corresponds (Answers.Rel S) (x >>= f).run (y >>= g).run := by
  change Corresponds _ (x.run >>= ExceptT.bindCont f) (y.run >>= ExceptT.bindCont g)
  refine corresponds_bind h fun answer answer' hanswer => ?_
  cases hanswer with
  | ok hab => exact hf _ _ hab
  | error e => exact corresponds_pure (.error e)

/-- A program that may fail corresponds to itself. -/
theorem corresponds_same (x : ExceptT ε (StateM Session) α) :
    Corresponds (Answers.Rel Eq) x.run x.run := by
  refine fun σ => ⟨?_, rfl⟩
  cases (x.run.run σ).1 with
  | ok a => exact .ok rfl
  | error e => exact .error e

/-- What cannot fail corresponds as a part of a run too. -/
theorem corresponds_lift {R : α → β → Prop} {x : StateM Session α} {y : StateM Session β}
    (h : Corresponds R x y) : Corresponds (Answers.Rel R) (x : RunM α).run (y : RunM β).run :=
  fun σ => ⟨.ok (h σ).1, (h σ).2⟩

end Session

/-- Messages about the refusal of one host, to be changed, under two spellings of its id. -/
inductive FailureRespelled (es es' : List HostEntry) : String → String → Prop where
  /-- The refusals differ at most in the spelling of the claimant. -/
  | intro {e e' : HostEntry} (h : Counterparts es es' e e') {r r' : Refusal}
    (hr : r.Respelled r') (hkind : r.kind = .update) :
    FailureRespelled es es' (r.message e.hostKey) (r'.message e'.hostKey)

/-- What became of one host under two spellings of its id. -/
inductive HostState.Respelled (es es' : List HostEntry) : HostState → HostState → Prop where
  /-- The same became of it, and it did not fail to be changed. -/
  | same (s : HostState) (h : s.failed? .update = none) : Respelled es es' s s
  /-- It could not be changed. -/
  | failed {m m' : String} (h : FailureRespelled es es' m m') :
    Respelled es es' (.failed .update m) (.failed .update m')

/-- Refusals that differ in spelling come to states that do. -/
theorem Refusal.Respelled.state {es es' : List HostEntry} {e e' : HostEntry} {r r' : Refusal}
    (hr : r.Respelled r') (h : Counterparts es es' e e') :
    HostState.Respelled es es' (.failed r.kind (r.message e.hostKey))
      (.failed r'.kind (r'.message e'.hostKey)) := by
  cases hr with
  | alreadyReported hk => exact .failed (.intro h (.alreadyReported hk) rfl)
  | same r =>
    cases r with
    | notCreated name cause => exact .same _ rfl
    | _ => exact .failed (.intro h (.same _) rfl)

namespace HostState.Respelled

variable {es es' : List HostEntry} {s s' : HostState}

/-- Such states are failures or not alike. -/
theorem isSuccess_eq (h : Respelled es es' s s') : s.isSuccess = s'.isSuccess := by
  cases h <;> rfl

theorem created?_eq (h : Respelled es es' s s') : s.created? = s'.created? := by
  cases h <;> rfl

theorem updated?_eq (h : Respelled es es' s s') : s.updated? = s'.updated? := by
  cases h <;> rfl

theorem failedCreate?_eq (h : Respelled es es' s s') : s.failed? .create = s'.failed? .create := by
  cases h <;> rfl

/-- Messages of failures differ in the spelling of host keys. -/
theorem rel_failedUpdate? (h : Respelled es es' s s') :
    Option.Rel (FailureRespelled es es') (s.failed? .update) (s'.failed? .update) := by
  cases h with
  | failed hm => exact .some hm
  | same s hs =>
    rw [hs]
    exact .none

end HostState.Respelled

/-- What was recorded for two reports that differ in the spelling of ids. -/
structure Tally.Respelled (es es' : List HostEntry) (t t' : Tally) : Prop where
  /-- New hosts are registered for both or for neither. -/
  createMissing : t.createMissing = t'.createMissing
  /-- The same became of each host. -/
  states : KeyedList.Alike (HostState.Respelled es es') t.states t'.states
  /-- The same guests moved. -/
  migrated : t.migrated = t'.migrated

/-- The outcomes of two reports that differ in the spelling of ids. -/
structure Outcome.Respelled (es es' : List HostEntry) (o o' : Outcome) : Prop where
  /-- The same hosts were registered. -/
  created : o.created = o'.created
  /-- The same hosts were changed. -/
  updated : o.updated = o'.updated
  /-- The same hosts could not be registered, for the same reasons. -/
  failedCreate : o.failedCreate = o'.failedCreate
  /-- The same hosts could not be changed. -/
  failedUpdate : List.Forall₂ (FailureRespelled es es') o.failedUpdate o'.failedUpdate
  /-- The same guests moved. -/
  migrated : o.migrated = o'.migrated

namespace Tally.Respelled

variable {es es' : List HostEntry} {t t' : Tally} {k k' : String}

theorem start (createMissing : Bool) :
    Respelled es es' (.start createMissing) (.start createMissing) :=
  ⟨rfl, .nil, rfl⟩

/-- The states of a host differ in spelling. -/
theorem rel_state? (h : Respelled es es' t t') (hk : SameLetters k k') :
    Option.Rel (HostState.Respelled es es') (t.state? k) (t'.state? k') := by
  rw [state?, state?, ← hk]
  exact KeyedList.rel_find? h.states _

/-- A host was written in both or in none. -/
theorem succeeded_eq (h : Respelled es es' t t') (hk : SameLetters k k') :
    t.succeeded k = t'.succeeded k' := by
  have hstate := h.rel_state? hk
  rw [succeeded, succeeded]
  generalize t.state? k = s, t'.state? k' = s' at hstate ⊢
  cases hstate with
  | none => rfl
  | some hs => exact hs.isSuccess_eq

/-- Recording such states keeps tallies alike. -/
theorem record (h : Respelled es es' t t') (hk : SameLetters k k') {s s' : HostState}
    (hs : HostState.Respelled es es' s s') :
    Respelled es es' (t.record k s) (t'.record k' s') := by
  have hstate := h.rel_state? hk
  unfold Tally.record
  generalize t.state? k = found, t'.state? k' = found' at hstate ⊢
  cases hstate with
  | some _ => exact h
  | none => exact ⟨h.createMissing, List.rel_append h.states (.cons ⟨hk, hs⟩ .nil), h.migrated⟩

/-- The same guests are recorded if they moved to the same hosts. -/
theorem recordMigrations (h : Respelled es es' t t') {l l' : List (String × Migration)}
    (hl : List.Forall₂ (fun m m' => SameLetters m.1 m'.1 ∧ m.2 = m'.2) l l') :
    Respelled es es' (t.recordMigrations l) (t'.recordMigrations l') := by
  have hmoved := List.rel_filter (p := fun m => t.succeeded m.1) (q := fun m => t'.succeeded m.1)
    (fun m m' hm => Bool.eq_iff_iff.mp (h.succeeded_eq hm.1)) hl
  refine List.rel_foldl (P := Respelled es es') (fun u u' hu m m' hm => ?_) h hmoved
  rw [recordMigration, recordMigration, hm.2, hu.migrated]
  exact ⟨hu.createMissing, hu.states, rfl⟩

/-- Such tallies come to such outcomes. -/
theorem outcome (h : Respelled es es' t t') : Outcome.Respelled es es' t.outcome t'.outcome := by
  have hcontents : List.Forall₂ (HostState.Respelled es es') (KeyedList.contents t.states)
      (KeyedList.contents t'.states) := List.rel_map (fun _ _ hs => hs.2) h.states
  have hcreated := Lists.filterMap_eq_filterMap (hcontents.imp fun _ _ hs => hs.created?_eq)
  have hupdated := Lists.filterMap_eq_filterMap (hcontents.imp fun _ _ hs => hs.updated?_eq)
  refine ⟨?_, hupdated, ?_, ?_, h.migrated⟩
  · simp only [Tally.outcome, h.createMissing, hcreated, hupdated]
  · exact Lists.filterMap_eq_filterMap (hcontents.imp fun _ _ hs => hs.failedCreate?_eq)
  · exact List.rel_filterMap (fun _ _ hs => hs.rel_failedUpdate?) hcontents

end Tally.Respelled

section programs

open Session

variable {es es' : List HostEntry}

namespace Tally

variable {t t' : Tally} {ms ms' : List Mutation}

/-- Registering one consumer under two host keys. -/
theorem corresponds_create (h : t.Respelled es es' t') {k k' : String} (hk : SameLetters k k')
    (c : Consumer) :
    Corresponds (Tally.Respelled es es') (t.create k c) (t'.create k' c) := by
  refine corresponds_bind (corresponds_self (Act.create c).run) fun answer _ hanswer => ?_
  subst hanswer
  cases answer with
  | ok created => exact corresponds_pure (h.record hk (.same _ rfl))
  | error e => exact corresponds_pure (h.record hk (.same _ rfl))

/-- The pass over plans comes to such tallies and to the same batches. -/
theorem corresponds_carryOut (h : t.Respelled es es' t') (b : Batches)
    (hms : List.Forall₂ (Mutation.Respelled es es') ms ms') :
    Corresponds (fun p p' => p.1.Respelled es es' p'.1 ∧ p.2 = p'.2) (t.carryOut b ms)
      (t'.carryOut b ms') := by
  induction hms generalizing t t' b with
  | nil => exact corresponds_pure ⟨h, rfl⟩
  | cons hm _ ih =>
    cases hm with
    | create he c =>
      exact corresponds_bind (corresponds_create h he.respelled.hostKey c) fun _ _ hnext =>
        ih hnext b
    | update he c changes => exact ih (h.record he.respelled.hostKey (.same _ rfl)) _
    | refused he hr => exact ih (h.record he.respelled.hostKey (hr.state he)) b

theorem corresponds_apply (h : t.Respelled es es' t')
    (hms : List.Forall₂ (Mutation.Respelled es es') ms ms') :
    Corresponds (fun p p' => p.1.Respelled es es' p'.1 ∧ p.2 = p'.2) (t.apply ms)
      (t'.apply ms') := by
  refine corresponds_bind (corresponds_carryOut h .empty hms) ?_
  rintro ⟨u, b⟩ ⟨u', _⟩ ⟨hu, rfl⟩
  exact corresponds_bind (corresponds_self b.flush.run) fun _ _ hanswer =>
    corresponds_pure ⟨hu, hanswer⟩

end Tally

/-- The same guests are added to the same hosts. -/
theorem respelled_migrations {ms ms' : List Mutation} (guests : KnownGuests)
    (hms : List.Forall₂ (Mutation.Respelled es es') ms ms') :
    List.Forall₂ (fun m m' => SameLetters m.1 m'.1 ∧ m.2 = m'.2) (migrations ms guests)
      (migrations ms' guests) := by
  have hadded {m m' : Mutation} (hm : Mutation.Respelled es es' m m') :
      List.Forall₂ (fun a a' => SameLetters a.1 a'.1 ∧ a.2 = a'.2) m.addedGuests
        m'.addedGuests := by
    cases hm with
    | create he c =>
      exact List.rel_map (R := Eq) (fun g _ hg => ⟨he.respelled.hostKey, by rw [hg]⟩)
        (List.forall₂_refl _)
    | update he c changes =>
      exact List.rel_map (R := Eq) (fun g _ hg => ⟨he.respelled.hostKey, by rw [hg]⟩)
        (List.forall₂_refl _)
    | refused he hr => exact .nil
  refine List.rel_filterMap ?_ (List.rel_flatMap hms fun _ _ hm => hadded hm)
  rintro ⟨k, uuid, g⟩ ⟨k', _⟩ ⟨hk, rfl⟩
  dsimp only
  cases guests.get? g with
  | none => exact .none
  | some c => exact .some ⟨hk, rfl⟩

/-- Planning comes to plans that differ in spelling. -/
theorem corresponds_planIn (p : Planner) (known : KnownHosts)
    (h : List.Forall₂ HostEntry.Respelled es es') :
    Corresponds (Answers.Rel (List.Forall₂ (Mutation.Respelled es es'))) (planIn p known es).run
      (planIn p known es').run := by
  intro σ
  obtain ⟨hms, hsupply⟩ := Planner.respelled_planEntries (p := p) (v := σ.supplies.uuids) known h
  rw [RunM.run_planIn, RunM.run_planIn, hsupply]
  exact ⟨.ok hms, rfl⟩

/-- Entries that differ in the spelling of host keys are reconciled in the same way. -/
theorem Planner.corresponds_reconcileEntries (p : Planner)
    (h : List.Forall₂ HostEntry.Respelled es es') :
    Corresponds (Answers.Rel (Outcome.Respelled es es')) (p.reconcileEntries es).run
      (p.reconcileEntries es').run := by
  unfold reconcileEntries
  rw [← reportedIds_eq_of_respelled h, ← reportedSystemUuids_eq_of_respelled h,
    ← reportedGuests_eq_of_respelled h]
  refine corresponds_andThen (corresponds_same _) fun known _ hknown => ?_
  subst hknown
  refine corresponds_andThen (corresponds_same _) fun guests _ hguests => ?_
  subst hguests
  refine corresponds_andThen (corresponds_planIn p known h) fun ms ms' hms => ?_
  refine corresponds_andThen (corresponds_lift (Tally.corresponds_apply (.start _) hms)) ?_
  rintro ⟨t, written⟩ ⟨t', _⟩ ⟨ht, rfl⟩
  cases written with
  | error e => exact corresponds_pure (.error _)
  | ok _ =>
    exact corresponds_pure (.ok (ht.recordMigrations (respelled_migrations guests hms)).outcome)

/-- So are reports that differ in the spelling of the ids of hosts. -/
theorem Request.corresponds_attempt (r : Request) {report : Report}
    (h : r.report.Respelled report) (hnamed : ∀ host ∈ r.report.hosts, host.IsNamed)
    (authorizer : Authorizer) (now : Timestamp) :
    Corresponds (Answers.Rel (Outcome.Respelled r.report.entries report.entries))
      (r.attempt authorizer now).run (({ r with report := report }).attempt authorizer now).run := by
  refine corresponds_andThen (corresponds_same _) fun o _ ho => ?_
  subst ho
  cases o.autobindDisabled with
  | true => exact corresponds_pure (.error _)
  | false =>
    exact Planner.corresponds_reconcileEntries (r.planner authorizer now o) (h.entries hnamed)

end programs

namespace Store

open Session

variable {α β : Type} {R : α → β → Prop}

/-- The end of a run is the same for results that correspond. -/
theorem rel_settle (s : Store) (outages : Outages) (work : Transaction) {a : α} {b : β}
    (h : R a b) :
    Answers.Rel R (s.settle outages work a).1 (s.settle outages work b).1 ∧
      (s.settle outages work a).2 = (s.settle outages work b).2 := by
  unfold settle
  cases outages .commit with
  | some message => exact ⟨.error _, rfl⟩
  | none =>
    dsimp only
    rcases s.commit work with ⟨e | _, s'⟩
    · exact ⟨.error _, rfl⟩
    · exact ⟨.ok h, rfl⟩

/-- Attempts that correspond are concluded with the same store. -/
theorem rel_concludeIn (s : Store) (outages : Outages) (t : Transaction) {attempt : RunM α}
    {attempt' : RunM β} (h : Corresponds (Answers.Rel R) attempt.run attempt'.run) :
    Answers.Rel R (s.concludeIn outages t attempt).1 (s.concludeIn outages t attempt').1 ∧
      (s.concludeIn outages t attempt).2 = (s.concludeIn outages t attempt').2 := by
  obtain ⟨hanswer, hsession⟩ := h ⟨t, s.usage, s.supplies, outages⟩
  unfold concludeIn
  generalize attempt.run.run ⟨t, s.usage, s.supplies, outages⟩ = found,
    attempt'.run.run ⟨t, s.usage, s.supplies, outages⟩ = found' at hanswer hsession ⊢
  obtain ⟨answer, σ⟩ := found
  obtain ⟨answer', σ'⟩ := found'
  obtain rfl : σ = σ' := hsession
  cases hanswer with
  | ok hab => exact rel_settle _ _ _ hab
  | error e => exact ⟨.error e, rfl⟩

/-- Whole runs with such attempts correspond and leave the same store. -/
theorem rel_execute (s : Store) (c : Circumstances) {attempt : Authorizer → Timestamp → RunM α}
    {attempt' : Authorizer → Timestamp → RunM β}
    (h : ∀ authorizer now,
      Corresponds (Answers.Rel R) (attempt authorizer now).run (attempt' authorizer now).run) :
    Answers.Rel R (s.execute c attempt).1 (s.execute c attempt').1 ∧
      (s.execute c attempt).2 = (s.execute c attempt').2 := by
  unfold execute
  cases c.outages .start with
  | some message => exact ⟨.error _, rfl⟩
  | none =>
    dsimp only
    rcases s.compete c.competitor with ⟨e | _, s'⟩
    · exact ⟨.error _, rfl⟩
    · exact rel_concludeIn s' c.outages s.start (h c.authorizer c.now)

/-- The spelling of host ids does not matter. If two reports differ in nothing but the ids of hosts,
which have the same canonical forms, and every host has a name, then reconciling them in the same
circumstances fails in the same way or comes to the same lists, but for the wording of the refusals
for hosts that could not be changed; these are of the same hosts in the same order. Either way the
same store is left. -/
theorem reconcile_respelled (s : Store) (c : Circumstances) (r : Request) {report : Report}
    (h : r.report.Respelled report) (hnamed : ∀ host ∈ r.report.hosts, host.IsNamed) :
    Answers.Rel (Outcome.Respelled r.report.entries report.entries) (s.reconcile c r).1
        (s.reconcile c { r with report := report }).1 ∧
      (s.reconcile c r).2 = (s.reconcile c { r with report := report }).2 :=
  rel_execute s c fun authorizer now => r.corresponds_attempt h hnamed authorizer now

/-- A host that is recognised by its machine, one that claims the same machine, and a new one. -/
theorem reconcile_respelled_claimed :
    let noon : ClockTime := ⟨12, 0, 0, 0⟩
    let now : Timestamp := ⟨⟨2024, 1, 1⟩, noon, by decide, by decide⟩
    let s : Store :=
      ⟨{ Registry.empty.addOwner (.named "a") with
          consumers := Dict.empty.insert "1" ⟨some "1", "x", "x", "a", .hypervisor,
            some ⟨"old", none⟩, ["g"], Dict.empty.insert systemUuidFact "m", none⟩ }, .none, .none,
        ⟨⟨fun _ => "2", 0⟩, ⟨fun _ => "z", 0⟩⟩, .given⟩
    let c : Circumstances := ⟨.byGrants, now, .none, none⟩
    let host (id name : String) : ReportedHost := (ReportedHost.withId id).named name
    let report (a b c : String) : Report :=
      ⟨[(host a "p").withFact systemUuidFact "m", (host b "q").withFact systemUuidFact "M",
        host c "r"]⟩
    let r : Request := ⟨"a", true, none, .admin "root", report " One" "two" "three"⟩
    let r' : Request := ⟨"a", true, none, .admin "root", report "ONE" "Two " "Three"⟩
    let outcome (refusal : String) : Outcome :=
      ⟨some [⟨"z", "r", "a"⟩], [⟨"x", "x", "a"⟩], [], [refusal], []⟩
    let first := outcome "two: Hypervisor already reported as \"One\" in this report"
    let second := outcome "Two: Hypervisor already reported as \"ONE\" in this report"
    (s.reconcile c r).1 = .ok first ∧ (s.reconcile c r').1 = .ok second ∧
      first.Respelled r.report.entries r'.report.entries second ∧
      (s.reconcile c r).2 = (s.reconcile c r').2 := by
  intro noon now s c host report r r' outcome first second
  have hfirst : (s.reconcile c r).1 = .ok first := by decide +kernel
  have hsecond : (s.reconcile c r').1 = .ok second := by decide +kernel
  have hreports : r.report.Respelled r'.report :=
    .cons ⟨by decide +kernel, rfl, rfl, rfl⟩ (.cons ⟨by decide +kernel, rfl, rfl, rfl⟩
      (.cons ⟨by decide +kernel, rfl, rfl, rfl⟩ .nil))
  have hnamed : ∀ host ∈ r.report.hosts, host.IsNamed :=
    List.forall_mem_cons.mpr ⟨⟨"p", rfl, by decide⟩,
      List.forall_mem_cons.mpr ⟨⟨"q", rfl, by decide⟩,
        List.forall_mem_singleton.mpr ⟨"r", rfl, by decide⟩⟩⟩
  obtain ⟨hanswers, hstores⟩ := reconcile_respelled s c r hreports hnamed
  change Answers.Rel _ _ (s.reconcile c r').1 at hanswers
  rw [hfirst, hsecond] at hanswers
  cases hanswers with
  | ok houtcomes => exact ⟨hfirst, hsecond, houtcomes, hstores⟩

end Store

end HostRoster
