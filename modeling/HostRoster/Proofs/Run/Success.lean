import HostRoster.Proofs.Run.Footprint
import HostRoster.Proofs.Run.Recording

/-!
# What a run leaves for each entry

Every entry registers a new host, changes a known one or is refused. The hosts that are written have
different ids in the store, where new ones do not repeat, so each of them is still there when the
run is over. If no entry is refused, every entry has a host that reflects it.
-/

namespace HostRoster

/-- Batches that are written are laid over the view, those of attributes first. -/
theorem Batches.work_of_writeTo {b : Batches} {t : Transaction} (h : (b.writeTo t).1 = .ok ()) :
    (b.writeTo t).2 =
      t.written (b.attributes.map (Transaction.keepingGuests t.view) ++ b.memberships) := by
  unfold writeTo at h ⊢
  cases h₁ : b.writeAttributes t with
  | error e =>
    simp only [h₁] at h
    cases h
  | ok t₁ =>
    simp only [h₁] at h ⊢
    cases h₂ : b.writeMemberships t₁ with
    | error e =>
      simp only [h₂] at h
      cases h
    | ok t₂ =>
      simp only
      rw [eq_of_writeMemberships h₂, eq_of_writeAttributes h₁, Transaction.written_append]

namespace Planner

variable {p : Planner} {σ : Session} {es : List HostEntry}

/-- The changed consumers as a run writes them. -/
def rewrites (p : Planner) (σ : Session) (es : List HostEntry) : List Consumer :=
  (changedConsumers false (p.plans σ es).1).map
      (Transaction.keepingGuests (p.carried σ es).session.work.view) ++
    changedConsumers true (p.plans σ es).1

/-- The consumers that a run writes, new ones first. -/
def writes (p : Planner) (σ : Session) (es : List HostEntry) : List Consumer :=
  (p.carried σ es).registered ++ p.rewrites σ es

/-- An attempt that succeeds leaves what it writes over the view. -/
theorem work_flushed (hσ : σ.outages = .none) (h : (p.flushed σ es).1 = .ok ()) :
    (p.flushed σ es).2.work = σ.work.written (p.writes σ es) := by
  rw [writes, Transaction.written_append, ← p.work_carried σ es hσ]
  exact Batches.work_of_writeTo h

/-- No two plans change one consumer. -/
theorem pairwise_uuids (p : Planner) (σ : Session) (es : List HostEntry) :
    (p.plans σ es).1.Pairwise fun m m' => ∀ c c' guests guests',
      m.changes? = some (c, guests) → m'.changes? = some (c', guests') → c.uuid ≠ c'.uuid := by
  have hdecisions := pairwise_decisions (σ.work.knownHosts p.owner.key es) .empty es
  have hzip : (es.zip (decisions (σ.work.knownHosts p.owner.key es) .empty es)).map Prod.snd =
      decisions (σ.work.knownHosts p.owner.key es) .empty es := List.map_snd_zip (by simp)
  rw [← hzip, List.pairwise_map] at hdecisions
  refine Lists.pairwise_of_forall₂ (p.forall₂_planAll σ.supplies.uuids _).1 hdecisions ?_
  intro a a' m m' hplan hplan' hapart c c' guests guests' hc hc'
  obtain ⟨e, d⟩ := a
  obtain ⟨e', d'⟩ := a'
  cases hplan with
  | create | refused => cases hc
  | update c₀ =>
    cases hplan' with
    | create | refused => cases hc'
    | update c₀' =>
      cases hc
      cases hc'
      exact hapart c₀ c₀' rfl rfl

/-- So no two plans change consumers under one id. -/
theorem pairwise_ids (p : Planner) (hfiled : FiledById σ.work.view) (es : List HostEntry) :
    (p.plans σ es).1.Pairwise fun m m' => ∀ c c' guests guests',
      m.changes? = some (c, guests) → m'.changes? = some (c', guests') → c.id ≠ c'.id := by
  refine (p.pairwise_uuids σ es).imp_of_mem ?_
  intro m m' hm hm' hapart c c' guests guests' hc hc' hid
  obtain ⟨i, d, hi, hd⟩ := p.seen_of_changes? σ es hm hc
  obtain ⟨j, d', hj, hd'⟩ := p.seen_of_changes? σ es hm' hc'
  have hij : some i = some j := by
    rw [← (hd.of_seen hfiled hi).2, hid, (hd'.of_seen hfiled hj).2]
  have hsame : d = d' := by
    rw [Option.some.inj hij, hj] at hi
    exact (Option.some.inj hi).symm
  apply hapart c c' guests guests' hc hc'
  rw [hd.2.1, hsame, hd'.2.1]

/-- What holds between the changes of any two mutations holds between any two changes. -/
theorem pairwise_changes {R : Consumer → Consumer → Prop} {ms : List Mutation}
    (h : ms.Pairwise fun m m' => ∀ c c' guests guests',
      m.changes? = some (c, guests) → m'.changes? = some (c', guests') → R c c') :
    (ms.filterMap Mutation.changes?).Pairwise fun a b => R a.1 b.1 := by
  refine h.filterMap _ ?_
  rintro m m' hapart ⟨c, g⟩ hc ⟨c', g'⟩ hc'
  exact hapart c c' g g' hc hc'

/-- So it does between any two consumers of a batch. -/
theorem pairwise_changedConsumers {R : Consumer → Consumer → Prop} {ms : List Mutation}
    (h : ms.Pairwise fun m m' => ∀ c c' guests guests',
      m.changes? = some (c, guests) → m'.changes? = some (c', guests') → R c c') (guests : Bool) :
    (changedConsumers guests ms).Pairwise R := by
  refine (pairwise_changes h).filterMap _ ?_
  rintro ⟨c, g⟩ ⟨c', g'⟩ hr d hd d' hd'
  split at hd
  · split at hd'
    · cases hd
      cases hd'
      exact hr
    · cases hd'
  · cases hd

/-- The ids that a run draws are not those of consumers that it sees. -/
def DrawsFresh (p : Planner) (σ : Session) (es : List HostEntry) : Prop :=
  ∀ i ∈ σ.supplies.ids.handedOut (p.carried σ es).session.supplies.ids,
    σ.work.view.contains i = false

/-- They do not repeat. -/
def DrawsOnce (p : Planner) (σ : Session) (es : List HostEntry) : Prop :=
  (σ.supplies.ids.handedOut (p.carried σ es).session.supplies.ids).Nodup

/-- A registered consumer has an id that was not in use. -/
theorem fresh_of_registered (hσ : σ.outages = .none) (hfresh : p.DrawsFresh σ es) {c : Consumer}
    (hc : c ∈ (p.carried σ es).registered) :
    ∃ i, c.id = some i ∧ σ.work.view.contains i = false := by
  obtain ⟨m, hm, new, hnew, i, hi, rfl⟩ := (carries_carried hσ es).registered c hc
  exact ⟨i, rfl, hfresh i (Supply.mem_handedOut.mpr hi)⟩

/-- A changed consumer is a host that was seen, as some entry changes it. -/
theorem exists_of_changed (hfiled : FiledById σ.work.view) {d : Consumer} {guests : Bool}
    (hd : d ∈ changedConsumers guests (p.plans σ es).1) :
    ∃ e ∈ es, ∃ i c, σ.work.view.get? i = some c ∧ c.id = some i ∧ c.isHypervisor = true ∧
      d = p.changedHost e c ∧ guests = (p.hostChanges e c).guestsChanged := by
  obtain ⟨m, hm, hchanges⟩ := mem_changedConsumers.mp hd
  obtain ⟨e, he, c, hmeant, _, hchanged, hguests⟩ := of_changes? hm hchanges
  obtain ⟨hh, i, hi⟩ := exists_of_meant?_knownHosts hmeant
  have hseen := (get?_ownedPart_eq_some_iff.mp hi).1
  exact ⟨e, he, i, c, hseen, hfiled hseen, hh, hchanged, hguests⟩

/-- A changed consumer has an id that was in use. -/
theorem known_of_changed (hfiled : FiledById σ.work.view) {c : Consumer} {guests : Bool}
    (hc : c ∈ changedConsumers guests (p.plans σ es).1) :
    ∃ i, c.id = some i ∧ σ.work.view.contains i = true := by
  obtain ⟨e, _, i, d, hseen, hid, _, rfl, _⟩ := exists_of_changed hfiled hc
  exact ⟨i, hid, Dict.contains_iff.mpr ⟨d, hseen⟩⟩

/-- Consumers that are changed are seen under their ids. -/
theorem known_of_mem_rewrites (hfiled : FiledById σ.work.view) {c : Consumer}
    (hc : c ∈ p.rewrites σ es) : ∃ i, c.id = some i ∧ σ.work.view.contains i = true := by
  rcases List.mem_append.mp hc with hattributes | hmemberships
  · obtain ⟨d, hd, rfl⟩ := List.mem_map.mp hattributes
    rw [Transaction.keepingGuests_id]
    exact known_of_changed hfiled hd
  · exact known_of_changed hfiled hmemberships

/-- The consumers that a run writes have different ids. -/
theorem pairwise_writes (hσ : σ.outages = .none) (hfiled : FiledById σ.work.view)
    (hfresh : p.DrawsFresh σ es) (honce : p.DrawsOnce σ es) :
    (p.writes σ es).Pairwise fun c c' => c.id ≠ c'.id := by
  have hids := p.pairwise_ids hfiled es
  have hsymm : Std.Symm fun m m' : Mutation => ∀ c c' guests guests',
      m.changes? = some (c, guests) → m'.changes? = some (c', guests') → c.id ≠ c'.id :=
    ⟨fun _ _ h c c' guests guests' hc hc' heq => h c' c guests' guests hc' hc heq.symm⟩
  have hregistered : (p.carried σ es).registered.Pairwise fun c c' => c.id ≠ c'.id := by
    have hdrawn := (carries_carried hσ es).drawn.nodup (honce.map fun _ _ h => Option.some.inj h)
    exact List.pairwise_map.mp hdrawn
  have hchanged : (p.rewrites σ es).Pairwise fun c c' => c.id ≠ c'.id := by
    rw [rewrites, List.pairwise_append, List.pairwise_map]
    simp only [Transaction.keepingGuests_id]
    refine ⟨pairwise_changedConsumers hids false, pairwise_changedConsumers hids true, ?_⟩
    intro c hc c' hc'
    obtain ⟨d, hd, rfl⟩ := List.mem_map.mp hc
    rw [Transaction.keepingGuests_id]
    obtain ⟨m, hm, hmd⟩ := mem_changedConsumers.mp hd
    obtain ⟨m', hm', hmc'⟩ := mem_changedConsumers.mp hc'
    have hne : m ≠ m' := by
      rintro rfl
      rw [hmd] at hmc'
      cases hmc'
    exact hids.forall hm hm' hne d c' false true hmd hmc'
  rw [writes, List.pairwise_append]
  refine ⟨hregistered, hchanged, fun c hc c' hc' heq => ?_⟩
  obtain ⟨i, hi, hnew⟩ := fresh_of_registered hσ hfresh hc
  obtain ⟨j, hj, hold⟩ := known_of_mem_rewrites hfiled hc'
  rw [hi, hj, Option.some.injEq] at heq
  rw [heq, hold] at hnew
  cases hnew

/-- A host that a run has written, and that is still there. -/
def Wrote (t : Transaction) (c : Consumer) : Prop :=
  ∃ i, c.id = some i ∧ t.dirty.contains i = true ∧ t.view.get? i = some c

/-- Every consumer that is written is found as it was written. -/
theorem wrote_of_mem_writes (hσ : σ.outages = .none) (hfiled : FiledById σ.work.view)
    (hfresh : p.DrawsFresh σ es) (honce : p.DrawsOnce σ es) {c : Consumer}
    (hc : c ∈ p.writes σ es) : Wrote (σ.work.written (p.writes σ es)) c := by
  have hid : ∃ i, c.id = some i := by
    rcases List.mem_append.mp hc with hregistered | hchanged
    · obtain ⟨i, hi, _⟩ := fresh_of_registered hσ hfresh hregistered
      exact ⟨i, hi⟩
    · obtain ⟨i, hi, _⟩ := known_of_mem_rewrites hfiled hchanged
      exact ⟨i, hi⟩
  obtain ⟨i, hi⟩ := hid
  exact ⟨i, hi, Transaction.contains_written_dirty.mpr (Or.inr ⟨c, hc, hi⟩),
    Transaction.get?_overwritten_of_mem _ (pairwise_writes hσ hfiled hfresh honce) hc hi⟩

/-- Registering leaves the consumers alone that were there. -/
theorem get?_carried (hσ : σ.outages = .none) (hfresh : p.DrawsFresh σ es) {c : Consumer}
    {i : String} (hi : σ.work.view.get? i = some c) :
    (p.carried σ es).session.work.view.get? i = some c := by
  have hnone : (Transaction.byId (p.carried σ es).registered).get? i = none := by
    cases hb : (Transaction.byId (p.carried σ es).registered).get? i with
    | none => rfl
    | some d =>
      obtain ⟨hd, hid⟩ := Transaction.mem_of_get?_byId hb
      obtain ⟨j, hj, hnew⟩ := fresh_of_registered hσ hfresh hd
      rw [hid, Option.some.injEq] at hj
      rw [← hj, Dict.contains, hi] at hnew
      cases hnew
  rw [p.view_carried σ es hσ, Transaction.get?_overwritten, hnone, Option.none_or, hi]

/-- A known host whose guests stay the same is written as the entry changes it. -/
theorem keepingGuests_changedHost (hσ : σ.outages = .none) (hfiled : FiledById σ.work.view)
    (hfresh : p.DrawsFresh σ es) {e : HostEntry} {c : Consumer} {i : String}
    (hi : σ.work.view.get? i = some c) (hguests : (p.hostChanges e c).guestsChanged = false) :
    Transaction.keepingGuests (p.carried σ es).session.work.view (p.changedHost e c) =
      p.changedHost e c := by
  have hempty : (GuestDiff.between c.guests e.guests).isEmpty = true := by
    simpa [Changes.guestsChanged, hostChanges, replaceGuests] using hguests
  have hid : c.id = some i := hfiled hi
  have hchanged : (p.changedHost e c).id = some i := hid
  rw [Transaction.keepingGuests_eq hchanged (get?_carried hσ hfresh hi), changedHost,
    replaceGuests_of_isEmpty hempty]

/-- So the changed consumers are written as they were planned. -/
theorem rewrites_eq (hσ : σ.outages = .none) (hfiled : FiledById σ.work.view)
    (hfresh : p.DrawsFresh σ es) :
    p.rewrites σ es =
      changedConsumers false (p.plans σ es).1 ++ changedConsumers true (p.plans σ es).1 := by
  have hsame : ∀ c ∈ changedConsumers false (p.plans σ es).1,
      Transaction.keepingGuests (p.carried σ es).session.work.view c = id c := by
    intro c hc
    obtain ⟨e, _, i, c₀, hseen, _, _, rfl, hguests⟩ := exists_of_changed hfiled hc
    exact keepingGuests_changedHost hσ hfiled hfresh hseen hguests.symm
  rw [rewrites, List.map_congr_left hsame, List.map_id]

/-- What has become of an entry in a run that has found some consumers and written others. -/
inductive Entered (p : Planner) (e : HostEntry) (found : Dict Consumer) (written : List Consumer) :
    HostState → Prop where
  /-- A consumer was registered under an id that was not in use. -/
  | created (i uuid : String) (hnew : found.contains i = false)
    (hc : { p.newHost e uuid with id := some i } ∈ written) :
    Entered p e found written (.created (p.newHost e uuid).summary)
  /-- A host that was found was changed. -/
  | updated (i : String) (c : Consumer) (hold : found.get? i = some c)
    (ho : c.ownerKey = p.owner.key) (hh : c.isHypervisor = true)
    (hc : p.changedHost e c ∈ written) :
    Entered p e found written (.updated (p.changedHost e c).summary)
  /-- The entry was refused. -/
  | refused (r : Refusal) (hr : r.Concerns e) : Entered p e found written (r.state e.hostKey)

/-- The state that is recorded for an entry says what has become of it. -/
theorem Recorded.entered (hσ : σ.outages = .none) (hfiled : FiledById σ.work.view)
    (hfresh : p.DrawsFresh σ es) {e : HostEntry} {state : String × HostState} {m : Mutation}
    (h : p.Recorded σ es e state m) : p.Entered e σ.work.view (p.writes σ es) state.2 := by
  cases h.fate with
  | created uuid i _ _ hc =>
    obtain ⟨j, hj, hnew⟩ := fresh_of_registered hσ hfresh hc
    cases hj
    exact .created i uuid hnew (List.mem_append_left _ hc)
  | rejected uuid cause => exact .refused (.notCreated e.name cause) rfl
  | updated c hmeant =>
    obtain ⟨hh, i, hi⟩ := exists_of_meant?_knownHosts hmeant
    obtain ⟨hseen, ho⟩ := get?_ownedPart_eq_some_iff.mp hi
    refine .updated i c hseen ho hh (List.mem_append_right _ ?_)
    have hchanged : p.changedHost e c ∈
        changedConsumers (p.hostChanges e c).guestsChanged (p.plans σ es).1 :=
      mem_changedConsumers.mpr ⟨_, h.plan, rfl⟩
    rw [rewrites_eq hσ hfiled hfresh, List.mem_append]
    cases hguests : (p.hostChanges e c).guestsChanged with
    | true => exact Or.inr (hguests ▸ hchanged)
    | false => exact Or.inl (hguests ▸ hchanged)
  | refused r hr => exact .refused r hr

/-- Every entry is entered with its state. -/
theorem forall₂_entered (hσ : σ.outages = .none) (hfiled : FiledById σ.work.view)
    (hfresh : p.DrawsFresh σ es) :
    List.Forall₂ (fun e state => p.Entered e σ.work.view (p.writes σ es) state) es
      (p.outcomes σ es) := by
  rw [outcomes, List.forall₂_map_right_iff]
  refine (p.forall₂_recorded hσ es).imp fun e state hrecorded => ?_
  obtain ⟨m, hm⟩ := hrecorded
  exact hm.entered hσ hfiled hfresh

/-- An entry that has not failed has written a host that reflects it. -/
theorem Entered.exists_host {e : HostEntry} {found : Dict Consumer} {written : List Consumer}
    {state : HostState} (h : p.Entered e found written state) (he : e.Clean)
    (hstate : state.isSuccess = true) :
    ∃ c ∈ written, p.Reflects e c ∧ state.summary? = some c.summary := by
  cases h with
  | created i uuid _ hc => exact ⟨_, hc, (reflects_newHost he uuid).withId (some i), rfl⟩
  | updated i c _ ho hh hc => exact ⟨_, hc, reflects_changedHost he ho hh, rfl⟩
  | refused r _ => cases hstate

/-- If nothing is listed as failed, no host has failed. -/
theorem isSuccess_of_mem_outcomes (hσ : σ.outages = .none) (hes : CleanEntries es)
    (hcreate : (p.tally σ es).outcome.failedCreate = [])
    (hupdate : (p.tally σ es).outcome.failedUpdate = []) {state : HostState}
    (hstate : state ∈ p.outcomes σ es) : state.isSuccess = true := by
  obtain ⟨_, _, hfailedCreate, hfailedUpdate⟩ := outcome_tally (p := p) hσ hes
  rw [hcreate, eq_comm, List.filterMap_eq_nil_iff] at hfailedCreate
  rw [hupdate, eq_comm, List.filterMap_eq_nil_iff] at hfailedUpdate
  cases state with
  | created s => rfl
  | updated s => rfl
  | failed kind message =>
    cases kind with
    | create => cases hfailedCreate _ hstate
    | update => cases hfailedUpdate _ hstate

/-- If no host fails, every entry has a host that reflects it and that is there in the end, and the
summaries of these hosts are those of the outcome. -/
theorem exists_hosts (hσ : σ.outages = .none) (hfiled : FiledById σ.work.view)
    (hfresh : p.DrawsFresh σ es) (honce : p.DrawsOnce σ es) (hes : CleanEntries es)
    (hflushed : (p.flushed σ es).1 = .ok ())
    (hsuccess : ∀ state ∈ p.outcomes σ es, state.isSuccess = true) :
    ∃ hosts, List.Forall₂ (fun e c => p.Reflects e c ∧ Wrote (p.flushed σ es).2.work c) es hosts ∧
      (p.outcomes σ es).filterMap HostState.summary? = hosts.map Consumer.summary := by
  have hentered := Lists.forall₂_mem (forall₂_entered hσ hfiled hfresh)
  have hfound : List.Forall₂ (fun e state => ∃ c,
      (p.Reflects e c ∧ Wrote (p.flushed σ es).2.work c) ∧ state.summary? = some c.summary)
      es (p.outcomes σ es) := by
    refine hentered.imp fun e state h => ?_
    obtain ⟨he, hstate, hentry⟩ := h
    obtain ⟨c, hc, hreflects, hsummary⟩ :=
      hentry.exists_host (hes.clean e he) (hsuccess state hstate)
    refine ⟨c, ⟨hreflects, ?_⟩, hsummary⟩
    rw [work_flushed hσ hflushed]
    exact wrote_of_mem_writes hσ hfiled hfresh honce hc
  obtain ⟨hosts, hhosts, hsummaries⟩ := Lists.exists_between hfound
  exact ⟨hosts, hhosts, Lists.filterMap_eq_map hsummaries⟩

end Planner

end HostRoster
