import HostRoster.Proofs.Run.Success
import HostRoster.Proofs.Store.Filing

/-!
# What an outcome says of the store

Every entry of a report comes to exactly one state, and the lists of an outcome divide these states
among them. If a run is left alone and succeeds, the consumers that are new to the store are the
ones listed as registered, and the ones that have changed are listed as changed.
-/

namespace HostRoster

/-- A run for entries that has reconciled a store, with nothing between its opening and its commit.
-/
structure Planner.Reconciles (p : Planner) (es : List HostEntry) (s : Store) (outcome : Outcome)
    (s' : Store) : Prop where
  /-- All batches were written. -/
  flushed : (p.flushed (.start s .none) es).1 = .ok ()
  /-- The outcome tells what was recorded. -/
  outcome : (p.tally (.start s .none) es).outcome = outcome
  /-- What was written is laid over what the store had. -/
  consumers : s'.registry.consumers =
    Transaction.overwritten s.registry.consumers (p.writes (.start s .none) es)
  /-- Ids were drawn for the new consumers. -/
  ids : s'.supplies.ids = (p.carried (.start s .none) es).session.supplies.ids

/-- A run that is left alone and succeeds has reconciled the entries for the owner of the request.
-/
theorem Store.exists_reconciles {s s' : Store} {c : Circumstances} {r : Request} {outcome : Outcome}
    (hout : c.outages = .none) (halone : c.competitor = none)
    (hrun : s.reconcile c r = (.ok outcome, s')) :
    ∃ o, s.registry.owners.get? r.ownerKey = some o ∧
      (r.planner c.authorizer c.now o).Reconciles r.report.entries s outcome s' := by
  rw [reconcile, s.execute_eq_conclude hout, halone] at hrun
  obtain ⟨σ, hattempt, _, rfl⟩ := conclude_eq_ok_iff.mp hrun
  obtain ⟨o, ho, _, hflushed, houtcome⟩ :=
    (r.run_attempt_eq_ok_iff s.start s.usage s.supplies c.authorizer c.now).mp hattempt
  have hok : ((r.planner c.authorizer c.now o).flushed (.start s .none) r.report.entries).1 =
      .ok () := congrArg Prod.fst hflushed
  have hleft : σ = ((r.planner c.authorizer c.now o).flushed (.start s .none) r.report.entries).2 :=
    (congrArg Prod.snd hflushed).symm
  have hwork := Planner.work_flushed (σ := .start s .none) rfl hok
  refine ⟨o, ho, hok, houtcome, ?_, ?_⟩
  · rw [hleft, hwork]
    exact Transaction.published_written_start s.registry s.registry s.faults s.listing _
  · rw [hleft]
    rfl

/-- The lists of an outcome are those of some states. -/
structure Outcome.Lists (outcome : Outcome) (states : List HostState) : Prop where
  /-- The hosts that were registered. -/
  created : outcome.created.getD [] = states.filterMap HostState.created?
  /-- The hosts that were changed. -/
  updated : outcome.updated = states.filterMap HostState.updated?
  /-- Why hosts could not be registered. -/
  failedCreate : outcome.failedCreate = states.filterMap (HostState.failed? .create)
  /-- Why hosts could not be changed. -/
  failedUpdate : outcome.failedUpdate = states.filterMap (HostState.failed? .update)

/-- Every state is in one of the lists. -/
theorem HostState.length_lists (states : List HostState) :
    (states.filterMap created?).length + (states.filterMap updated?).length +
        (states.filterMap (failed? .create)).length +
      (states.filterMap (failed? .update)).length = states.length := by
  induction states with
  | nil => rfl
  | cons state rest ih =>
    rw [List.length_cons, ← ih]
    cases state with
    | created summary =>
      simp [List.filterMap_cons, created?, updated?, failed?]
      omega
    | updated summary =>
      simp [List.filterMap_cons, created?, updated?, failed?]
      omega
    | failed kind message =>
      cases kind with
      | create =>
        simp [List.filterMap_cons, created?, updated?, failed?]
        omega
      | update =>
        simp [List.filterMap_cons, created?, updated?, failed?]
        omega

/-- The total of an outcome counts each state once. -/
theorem Outcome.Lists.total {outcome : Outcome} {states : List HostState}
    (h : outcome.Lists states) : outcome.total = states.length := by
  rw [Outcome.total, h.created, h.updated, h.failedCreate, h.failedUpdate,
    HostState.length_lists]

/-- The consumers under ids that were not in use before. -/
def newConsumers (before after : Dict Consumer) : List Consumer :=
  (after.entries.filter fun e => !before.contains e.1).map Prod.snd

/-- A consumer is new if nothing was under its id before. -/
theorem mem_newConsumers {before after : Dict Consumer} {c : Consumer} :
    c ∈ newConsumers before after ↔
      ∃ i, after.get? i = some c ∧ before.contains i = false := by
  simp only [newConsumers, List.mem_map, List.mem_filter, Bool.not_eq_true']
  constructor
  · rintro ⟨⟨i, d⟩, ⟨hmem, hnew⟩, rfl⟩
    exact ⟨i, Dict.get?_eq_some_iff.mpr hmem, hnew⟩
  · rintro ⟨i, hi, hnew⟩
    exact ⟨(i, c), ⟨Dict.get?_eq_some_iff.mp hi, hnew⟩, rfl⟩

/-- No consumer is listed as new twice. -/
theorem nodup_newConsumers {before after : Dict Consumer} (hfiled : FiledById after) :
    (newConsumers before after).Nodup := by
  have hkeys : (after.entries.filter fun e => !before.contains e.1).Pairwise
      fun a b => a.1 ≠ b.1 := (List.pairwise_map.mp after.nodup_keys).filter _
  refine List.pairwise_map.mpr (hkeys.imp_of_mem ?_)
  intro a b ha hb hne heq
  have hida := hfiled (Dict.get?_eq_some_iff.mpr (List.mem_filter.mp ha).1)
  have hidb := hfiled (Dict.get?_eq_some_iff.mpr (List.mem_filter.mp hb).1)
  rw [heq, hidb] at hida
  exact hne (Option.some.inj hida).symm

/-- What the state of an entry says of the store before and after a run for an owner. -/
inductive HostEntry.Told (e : HostEntry) (ownerKey : String) (before after : Dict Consumer) :
    HostState → Prop where
  /-- A consumer with the name and the id of the entry is there that was not there before. -/
  | created (i : String) (c : Consumer) (hbefore : before.contains i = false)
    (hafter : after.get? i = some c) (hname : c.name = e.name)
    (hheld : c.held? ownerKey = some e.hypervisorId) :
    Told e ownerKey before after (.created c.summary)
  /-- A consumer that was there before now holds the id of the entry. -/
  | updated (i : String) (c c' : Consumer) (hbefore : before.get? i = some c)
    (hafter : after.get? i = some c') (hsame : c'.summary = c.summary)
    (hheld : c'.held? ownerKey = some e.hypervisorId) :
    Told e ownerKey before after (.updated c'.summary)
  /-- The entry was refused. -/
  | refused (r : Refusal) (hr : r.Concerns e) : Told e ownerKey before after (r.state e.hostKey)

/-- An outcome accounts for the entries of a report and for all that has happened to a store. -/
structure Outcome.AccountsFor (outcome : Outcome) (ownerKey : String) (es : List HostEntry)
    (before after : Dict Consumer) : Prop where
  /-- There is one item for each entry. -/
  total : outcome.total = es.length
  /-- Each entry has its state, and the lists hold the states in the order of the entries. -/
  entries : ∃ states, List.Forall₂ (fun e => e.Told ownerKey before after) es states ∧
    outcome.Lists states
  /-- The consumers that are new are those listed as registered. -/
  created : (outcome.created.getD []).Perm ((newConsumers before after).map Consumer.summary)
  /-- The consumers that have changed are listed as changed. -/
  updated : ∀ i c c', before.get? i = some c → after.get? i = some c' → c' ≠ c →
    c'.summary = c.summary ∧ c'.summary ∈ outcome.updated
  /-- No consumer is removed. -/
  kept : ∀ i, before.contains i = true → after.contains i = true
  /-- No uuid is repeated, so a consumer is known by its uuid. -/
  uuids : DistinctUuids after

@[simp] theorem Transaction.keepingGuests_summary (view : Dict Consumer) (c : Consumer) :
    (keepingGuests view c).summary = c.summary := by
  unfold keepingGuests
  split <;> rfl

namespace Planner

variable {p : Planner} {σ : Session} {es : List HostEntry}

/-- A changed consumer is written over one with the same summary and is listed as changed. -/
theorem updated_of_mem_rewrites (hσ : σ.outages = .none) (hfiled : FiledById σ.work.view)
    {c : Consumer} (hc : c ∈ p.rewrites σ es) :
    ∃ i d, c.id = some i ∧ σ.work.view.get? i = some d ∧ c.summary = d.summary ∧
      .updated c.summary ∈ p.outcomes σ es := by
  have hchanged {d : Consumer} {guests : Bool} (hd : d ∈ changedConsumers guests (p.plans σ es).1) :
      ∃ i d', d.id = some i ∧ σ.work.view.get? i = some d' ∧ d.summary = d'.summary := by
    obtain ⟨e, _, i, c₀, hseen, hid, _, rfl, _⟩ := exists_of_changed hfiled hd
    exact ⟨i, c₀, hid, hseen, rfl⟩
  rcases List.mem_append.mp hc with hattributes | hmemberships
  · obtain ⟨d, hd, rfl⟩ := List.mem_map.mp hattributes
    rw [Transaction.keepingGuests_id, Transaction.keepingGuests_summary]
    obtain ⟨i, d', hi, hd', hsame⟩ := hchanged hd
    exact ⟨i, d', hi, hd', hsame, updated_of_changed hσ hd⟩
  · obtain ⟨i, d', hi, hd', hsame⟩ := hchanged hmemberships
    exact ⟨i, d', hi, hd', hsame, updated_of_changed hσ hmemberships⟩

/-- A run repeats no uuid. -/
theorem distinctUuids_writes (hσ : σ.outages = .none) (hfiled : FiledById σ.work.view)
    (huuids : DistinctUuids σ.work.view) (hfresh : p.DrawsFresh σ es) :
    DistinctUuids (Transaction.overwritten σ.work.view (p.writes σ es)) := by
  have hsplit : Transaction.overwritten σ.work.view (p.writes σ es) =
      Transaction.overwritten (p.carried σ es).session.work.view (p.rewrites σ es) := by
    rw [p.view_carried σ es hσ]
    exact congrArg Transaction.view (σ.work.written_append _ _)
  rw [hsplit]
  have hkeeps : Transaction.KeepsUuids (p.carried σ es).session.work.view (p.rewrites σ es) := by
    intro c hc
    obtain ⟨i, d, hi, hd, hsame, _⟩ := updated_of_mem_rewrites hσ hfiled hc
    exact ⟨i, d, hi, get?_carried hσ hfresh hd, (congrArg Summary.uuid hsame).symm⟩
  exact hkeeps.distinctUuids ((carries_carried hσ es).distinct huuids)

section written

variable (hσ : σ.outages = .none) (hfiled : FiledById σ.work.view) (hfresh : p.DrawsFresh σ es)

include hσ hfiled hfresh

/-- What an entry has come to can be seen in the store. -/
theorem Entered.told (honce : p.DrawsOnce σ es) {e : HostEntry} {state : HostState} (he : e.Clean)
    (h : p.Entered e σ.work.view (p.writes σ es) state) :
    e.Told p.owner.key σ.work.view (Transaction.overwritten σ.work.view (p.writes σ es)) state := by
  have hids := pairwise_writes hσ hfiled hfresh honce
  cases h with
  | created i uuid hnew hc =>
    have hreflects := (reflects_newHost (p := p) he uuid).withId (some i)
    have hafter := Transaction.get?_overwritten_of_mem σ.work.view hids hc rfl
    exact .created i { p.newHost e uuid with id := some i } hnew hafter rfl hreflects.held?
  | updated i c hold ho hh hc =>
    have hreflects : p.Reflects e (p.changedHost e c) := reflects_changedHost he ho hh
    have hid : c.id = some i := hfiled hold
    exact .updated i c _ hold (Transaction.get?_overwritten_of_mem _ hids hc hid) rfl
      hreflects.held?
  | refused r hr => exact .refused r hr

/-- The consumers that are new are those that were registered. -/
theorem perm_newConsumers (honce : p.DrawsOnce σ es) :
    (p.carried σ es).registered.Perm
      (newConsumers σ.work.view (Transaction.overwritten σ.work.view (p.writes σ es))) := by
  have hids := pairwise_writes hσ hfiled hfresh honce
  have hnodup : (p.carried σ es).registered.Nodup :=
    (List.pairwise_append.mp hids).1.imp fun hne heq => hne (congrArg Consumer.id heq)
  refine (List.perm_ext_iff_of_nodup hnodup
    (nodup_newConsumers (filedById_overwritten hfiled _))).mpr fun c => ?_
  rw [mem_newConsumers]
  constructor
  · intro hc
    obtain ⟨i, hi, hnew⟩ := fresh_of_registered hσ hfresh hc
    exact ⟨i, Transaction.get?_overwritten_of_mem _ hids (List.mem_append_left _ hc) hi, hnew⟩
  · rintro ⟨i, hi, hnew⟩
    rcases Transaction.get?_overwritten_cases hi with ⟨hc, hid⟩ | hold
    · refine (List.mem_append.mp hc).resolve_right fun hrewritten => ?_
      obtain ⟨j, hj, hknown⟩ := known_of_mem_rewrites hfiled hrewritten
      rw [hid, Option.some.injEq] at hj
      rw [← hj, hnew] at hknown
      cases hknown
    · rw [Dict.contains, hold] at hnew
      cases hnew

/-- A consumer that is not as before was written over one with the same summary. -/
theorem updated_of_ne {i : String} {c c' : Consumer} (hi : σ.work.view.get? i = some c)
    (hi' : (Transaction.overwritten σ.work.view (p.writes σ es)).get? i = some c')
    (hne : c' ≠ c) : c'.summary = c.summary ∧ .updated c'.summary ∈ p.outcomes σ es := by
  rcases Transaction.get?_overwritten_cases hi' with ⟨hc, hid⟩ | hold
  · rcases List.mem_append.mp hc with hregistered | hrewritten
    · obtain ⟨j, hj, hnew⟩ := fresh_of_registered hσ hfresh hregistered
      rw [hid, Option.some.injEq] at hj
      rw [← hj, Dict.contains, hi] at hnew
      cases hnew
    · obtain ⟨j, d, hj, hd, hsame, hlisted⟩ := updated_of_mem_rewrites hσ hfiled hrewritten
      rw [hid, Option.some.injEq] at hj
      rw [← hj, hi, Option.some.injEq] at hd
      exact ⟨hd ▸ hsame, hlisted⟩
  · rw [hi, Option.some.injEq] at hold
    exact absurd hold.symm hne

end written

end Planner

namespace Planner.Reconciles

variable {p : Planner} {es : List HostEntry} {s s' : Store} {outcome : Outcome}

/-- The lists of the outcome are the states of the entries. -/
theorem lists (h : p.Reconciles es s outcome s') (hes : CleanEntries es) :
    outcome.Lists (p.outcomes (.start s .none) es) := by
  obtain ⟨hcreated, hupdated, hfailedCreate, hfailedUpdate⟩ :=
    outcome_tally (p := p) (σ := .start s .none) rfl hes
  rw [h.outcome] at hcreated hupdated hfailedCreate hfailedUpdate
  exact ⟨hcreated, hupdated, hfailedCreate, hfailedUpdate⟩

/-- Ids that are drawn are not in use, if none that the store hands out is. -/
theorem drawsFresh (h : p.Reconciles es s outcome s')
    (hfresh : ∀ i ∈ s.supplies.ids.handedOut s'.supplies.ids,
      s.registry.consumers.contains i = false) : p.DrawsFresh (.start s .none) es := by
  rw [h.ids] at hfresh
  exact hfresh

/-- No id is drawn twice, if the store hands none out twice. -/
theorem drawsOnce (h : p.Reconciles es s outcome s')
    (honce : (s.supplies.ids.handedOut s'.supplies.ids).Nodup) :
    p.DrawsOnce (.start s .none) es := by
  rw [h.ids] at honce
  exact honce

/-- The outcome accounts for the entries and for the store. -/
theorem accountsFor (h : p.Reconciles es s outcome s') (hes : CleanEntries es)
    (hfiled : FiledById s.registry.consumers) (huuids : DistinctUuids s.registry.consumers)
    (hfresh : p.DrawsFresh (.start s .none) es) (honce : p.DrawsOnce (.start s .none) es) :
    outcome.AccountsFor p.owner.key es s.registry.consumers s'.registry.consumers := by
  have hlists := h.lists hes
  have hentered := Lists.forall₂_mem (p.forall₂_entered (σ := .start s .none) rfl hfiled hfresh)
  rw [h.consumers]
  refine ⟨?_, ⟨_, hentered.imp fun e state hentry => ?_, hlists⟩, ?_, fun i c c' hi hi' hne => ?_,
    fun i hi => Transaction.contains_overwritten hi,
    distinctUuids_writes (σ := .start s .none) rfl hfiled huuids hfresh⟩
  · rw [hlists.total, hentered.length_eq]
  · exact hentry.2.2.told rfl hfiled hfresh honce (hes.clean e hentry.1)
  · rw [hlists.created, filterMap_created?_eq]
    exact (perm_newConsumers (σ := .start s .none) rfl hfiled hfresh honce).map _
  · obtain ⟨hsame, hlisted⟩ :=
      updated_of_ne (σ := .start s .none) rfl hfiled hfresh hi hi' hne
    refine ⟨hsame, ?_⟩
    rw [hlists.updated]
    exact List.mem_filterMap.mpr ⟨_, hlisted, rfl⟩

end Planner.Reconciles

/-- The outcome of a run that is left alone accounts for every entry of the report once, and for all
that has happened to the store. In the store uuids differ, and the ids that the run drew were not in
use and differ. -/
theorem Store.reconcile_accounts {s s' : Store} {c : Circumstances} {r : Request}
    {outcome : Outcome} (hfiled : FiledById s.registry.consumers)
    (huuids : DistinctUuids s.registry.consumers) (hout : c.outages = .none)
    (halone : c.competitor = none) (hrun : s.reconcile c r = (.ok outcome, s'))
    (hfresh : ∀ i ∈ s.supplies.ids.handedOut s'.supplies.ids,
      s.registry.consumers.contains i = false)
    (honce : (s.supplies.ids.handedOut s'.supplies.ids).Nodup) :
    ∃ o, s.registry.owners.get? r.ownerKey = some o ∧
      outcome.AccountsFor o.key r.report.entries s.registry.consumers s'.registry.consumers := by
  obtain ⟨o, ho, h⟩ := Store.exists_reconciles hout halone hrun
  exact ⟨o, ho, h.accountsFor r.report.cleanEntries hfiled huuids (h.drawsFresh hfresh)
    (h.drawsOnce honce)⟩

/-- Of four hosts one is changed, one is registered, one has a name that is refused, and one is the
machine that was changed before. -/
theorem Store.reconcile_accounts_mixed :
    let noon : ClockTime := ⟨12, 0, 0, 0⟩
    let now : Timestamp := ⟨⟨2024, 1, 1⟩, noon, by decide, by decide⟩
    let s : Store :=
      ⟨{ Registry.empty.addOwner (.named "a") with
          consumers := Dict.empty.insert "1" ⟨some "1", "x", "x", "a", .hypervisor,
            some ⟨"old", none⟩, ["g"], Dict.empty.insert systemUuidFact "m", none⟩ },
        ⟨Dict.empty.insert "bad" "no", none⟩, .none, ⟨⟨fun _ => "2", 0⟩, ⟨fun _ => "z", 0⟩⟩, .given⟩
    let r : Request :=
      ⟨"a", true, some "q", .admin "root",
        ⟨[(ReportedHost.withId "Old").withGuests ["G"], .withId "h",
          (ReportedHost.withId "i").named "bad",
          (ReportedHost.withId "j").withFact systemUuidFact "M"]⟩⟩
    let outcome : Outcome :=
      ⟨some [⟨"z", "h", "a"⟩], [⟨"x", "x", "a"⟩], ["Problem creating unit bad: no"],
        ["j: Hypervisor already reported as \"Old\" in this report"], []⟩
    let result := s.reconcile ⟨.byGrants, now, .none, none⟩ r
    result.1 = .ok outcome ∧ ∃ o, s.registry.owners.get? "a" = some o ∧
      outcome.AccountsFor o.key r.report.entries s.registry.consumers
        result.2.registry.consumers := by
  intro noon now s r outcome result
  have hresult : result.1 = .ok outcome := by decide +kernel
  have hfiled : FiledById s.registry.consumers :=
    filedById_insert (fun _ _ hi => by cases hi) rfl
  have huuids : DistinctUuids s.registry.consumers := by
    intro i j d d' hi hj _
    rw [(Dict.eq_of_get?_single hi).1, (Dict.eq_of_get?_single hj).1]
  have hdrawn : s.supplies.ids.handedOut result.2.supplies.ids = ["2"] := by decide +kernel
  have hfresh : ∀ i ∈ s.supplies.ids.handedOut result.2.supplies.ids,
      s.registry.consumers.contains i = false := by
    rw [hdrawn, List.forall_mem_singleton]
    decide +kernel
  have honce : (s.supplies.ids.handedOut result.2.supplies.ids).Nodup := by
    rw [hdrawn]
    exact List.nodup_singleton _
  have hrun : s.reconcile ⟨.byGrants, now, .none, none⟩ r = (.ok outcome, result.2) :=
    Prod.ext hresult rfl
  obtain ⟨o, ho, haccounts⟩ := Store.reconcile_accounts hfiled huuids rfl rfl hrun hfresh honce
  exact ⟨hresult, o, ho, haccounts⟩

end HostRoster
