import HostRoster.Proofs.Run.Amid
import HostRoster.Proofs.Run.Clashes
import HostRoster.Proofs.Run.Errand

/-!
# When a run fails as a whole

A run for a report fails if it may not be made at all, if the store refuses all its writes, or if
another unit of work was faster. No report can bring it down: what is wrong with a host remains a
failure of this host.
-/

namespace HostRoster

/-- A batch is empty if no mutation is for it. -/
theorem isEmpty_changedConsumers {guests : Bool} {ms : List Mutation} :
    (changedConsumers guests ms).isEmpty = true ↔ ∀ m ∈ ms, ∀ c, m.changes? ≠ some (c, guests) := by
  rw [List.isEmpty_iff, List.eq_nil_iff_forall_not_mem]
  constructor
  · intro h m hm c hc
    exact h c (mem_changedConsumers.mpr ⟨m, hm, hc⟩)
  · intro h c hc
    obtain ⟨m, hm, hchanges⟩ := mem_changedConsumers.mp hc
    exact h m hm c hchanges

/-- There is something to be written in batches exactly if an entry is matched with a known host. -/
theorem Planner.isEmpty_batches_iff (p : Planner) (known : KnownHosts) (v : Supply)
    (es : List HostEntry) :
    ((Batches.of (p.planEntries known v es).1).attributes.isEmpty &&
        (Batches.of (p.planEntries known v es).1).memberships.isEmpty) = true ↔
      ∀ c, .existing c ∉ decisions known .empty es := by
  have hplans := (p.forall₂_planAll v (es.zip (decisions known .empty es))).1
  rw [Bool.and_eq_true, Batches.of, isEmpty_changedConsumers, isEmpty_changedConsumers]
  constructor
  · rintro ⟨hattributes, hmemberships⟩ c hc
    have hzip : (es.zip (decisions known .empty es)).map Prod.snd = decisions known .empty es :=
      List.map_snd_zip (by simp)
    rw [← hzip] at hc
    obtain ⟨⟨e, d⟩, hed, rfl⟩ := List.mem_map.mp hc
    obtain ⟨m, hm, hplan⟩ := Lists.exists_right hplans hed
    cases hplan with
    | update c =>
      cases hguests : (p.hostChanges e c).guestsChanged with
      | false => exact hattributes _ hm _ (by rw [Mutation.changes?, hguests])
      | true => exact hmemberships _ hm _ (by rw [Mutation.changes?, hguests])
    | refused _ r hne _ => exact hne c rfl
  · intro hnone
    have hunchanged : ∀ m ∈ (p.planEntries known v es).1, m.changes? = none := by
      intro m hm
      obtain ⟨⟨e, d⟩, hed, hplan⟩ := Lists.exists_left hplans hm
      cases hplan with
      | update c => exact absurd (List.of_mem_zip hed).2 (hnone c)
      | create uuid _ _ _ => rfl
      | refused _ r _ _ => rfl
    constructor <;> intro m hm c hc <;> rw [hunchanged m hm] at hc <;> cases hc

section attempts

variable (r : Request) (authorizer : Authorizer) (now : Timestamp) {t : Transaction} (u : Usage)
  (s : Supplies)

/-- Entries that are reconciled fail if all writes of several consumers are refused and one is to be
made, and never because a write is rejected. -/
theorem reconcileEntries_cases (p : Planner) (hkept : WellKept t.view p.owner.key)
    (report : Report) :
    let known := t.knownHosts p.owner.key report.entries
    let result := ((p.reconcileEntries report.entries).run.run ⟨t, u, s, .none⟩).1
    (∃ message, t.faults.bulkFailure = some message ∧
        (∃ c, .existing c ∈ decisions known .empty report.entries) ∧
        result = .error (.store (.backend message))) ∨
      ((t.faults.bulkFailure = none ∨ ∀ c, .existing c ∉ decisions known .empty report.entries) ∧
        ∃ outcome, result = .ok outcome) := by
  intro known result
  have hresult : result = ((p.flushed ⟨t, u, s, .none⟩ report.entries).1.mapError .store).map
      fun _ => (p.tally ⟨t, u, s, .none⟩ report.entries).outcome :=
    congrArg Prod.fst (run_reconcileEntries t u s p report.entries)
  have hempty := p.isEmpty_batches_iff known s.uuids report.entries
  cases hbulk : t.faults.bulkFailure with
  | none =>
    have hflushed : (p.flushed ⟨t, u, s, .none⟩ report.entries).1 = .ok () :=
      Planner.flushed_of_faultless hkept report.cleanEntries rfl hbulk
    rw [hflushed] at hresult
    exact Or.inr ⟨Or.inl rfl, _, hresult⟩
  | some message =>
    have hfaults : (p.carried ⟨t, u, s, .none⟩ report.entries).session.work.faults.bulkFailure =
        some message := by
      rw [(Planner.inOrder_carried (p := p) hkept rfl).faults]
      exact hbulk
    have hflushed := (Batches.of (p.plans ⟨t, u, s, .none⟩ report.entries).1).writeTo_of_bulkFailure
      hfaults
    by_cases hnone : ∀ c, .existing c ∉ decisions known .empty report.entries
    · have hok : (p.flushed ⟨t, u, s, .none⟩ report.entries).1 = .ok () :=
        hflushed.trans (if_pos (hempty.mpr hnone))
      rw [hok] at hresult
      exact Or.inr ⟨Or.inr hnone, _, hresult⟩
    · have herror : (p.flushed ⟨t, u, s, .none⟩ report.entries).1 = .error (.backend message) :=
        hflushed.trans (if_neg (mt hempty.mp hnone))
      rw [herror] at hresult
      exact Or.inl ⟨message, rfl, by simpa using hnone, hresult⟩

/-- When the attempt of a run fails, and that it never fails because a write is rejected. -/
theorem Request.attempt_fails_iff (hkept : ∀ k, WellKept t.view k) :
    let result := ((r.attempt authorizer now).run.run ⟨t, u, s, .none⟩).1
    ((∃ e, result = .error e) ↔
      t.owner? r.ownerKey = none ∨ ∃ o, t.owner? r.ownerKey = some o ∧
        (authorizer r.principal o .update = false ∨ o.autobindDisabled = true ∨
          t.faults.bulkFailure.isSome = true ∧
            ∃ c, .existing c ∈ decisions (t.knownHosts o.key r.report.entries) .empty
              r.report.entries)) ∧
      ∀ cause, result ≠ .error (.store (.rejected cause)) := by
  intro result
  have hresult : result = _ := congrArg Prod.fst (r.run_attempt t u s authorizer now)
  cases ho : t.owner? r.ownerKey with
  | none =>
    simp only [ho] at hresult
    simp [hresult]
  | some o =>
    simp only [ho] at hresult
    rcases Option.eq_none_or_eq_some (r.refusal? authorizer o) with hallowed | ⟨e, hrefused⟩
    · obtain ⟨hauth, hbind⟩ := (r.refusal?_eq_none_iff authorizer).mp hallowed
      simp only [hallowed] at hresult
      rcases reconcileEntries_cases u s (r.planner authorizer now o) (hkept o.key) r.report with
        ⟨message, hbulk, hexisting, herror⟩ | ⟨hharmless, outcome, hok⟩
      · rw [hresult, herror]
        refine ⟨⟨fun _ => Or.inr ⟨o, rfl, Or.inr (Or.inr ⟨?_, hexisting⟩)⟩, fun _ => ⟨_, rfl⟩⟩,
          fun cause hc => by cases hc⟩
        rw [hbulk]
        rfl
      · rw [hresult, hok]
        refine ⟨⟨fun ⟨e, he⟩ => (by cases he), ?_⟩, fun cause hc => by cases hc⟩
        rintro (hnone | ⟨o', ho', hfails⟩)
        · cases hnone
        · cases ho'
          rcases hfails with hdenied | hdisabled | ⟨hbulk, c, hc⟩
          · rw [hauth] at hdenied
            cases hdenied
          · rw [hbind] at hdisabled
            cases hdisabled
          · rcases hharmless with hfaultless | hunmatched
            · rw [hfaultless] at hbulk
              cases hbulk
            · exact absurd hc (hunmatched c)
    · simp only [hrefused] at hresult
      rw [hresult]
      have hnot : ¬ (authorizer r.principal o .update = true ∧ o.autobindDisabled = false) := by
        intro h
        rw [(r.refusal?_eq_none_iff authorizer).mpr h] at hrefused
        cases hrefused
      refine ⟨⟨fun _ => Or.inr ⟨o, rfl, ?_⟩, fun _ => ⟨e, rfl⟩⟩, fun cause hc => ?_⟩
      · cases hauth : authorizer r.principal o .update with
        | false => exact Or.inl rfl
        | true => exact Or.inr (Or.inl (by simpa [hauth] using hnot))
      · cases hc
        unfold Request.refusal? at hrefused
        split at hrefused
        · split at hrefused <;> cases hrefused
        · cases hrefused

end attempts

/-- A unit of work that has written consumers of one owner only is in conflict if it has written
any and another has changed the owner's version. -/
theorem Transaction.conflict?_written_start {r r' : Registry} {faults : Faults}
    {listing : Listing} {ds : List Consumer} {k : String}
    (hds : ∀ d ∈ ds, d.ownerKey = k ∧ ∃ i, d.id = some i) :
    ((start r faults listing).written ds).conflict? r' = none ↔
      ((start r faults listing).written ds).dirty.isEmpty = true ∨
        Registry.version r'.versions k = Registry.version r.versions k := by
  rw [conflict?_eq_none_iff]
  constructor
  · intro h
    cases ds with
    | nil => exact Or.inl rfl
    | cons d rest =>
      obtain ⟨ho, i, hi⟩ := hds d List.mem_cons_self
      exact Or.inr (h k (contains_written_touched.mpr
        (Or.inr ⟨d, List.mem_cons_self, i, hi, ho⟩)))
  · rintro h j hj
    rcases contains_written_touched.mp hj with hstart | ⟨d, hd, i, hi, rfl⟩
    · simp [start] at hstart
    · rcases h with hempty | hversion
      · have hdirty := Dict.isEmpty_iff.mp hempty i
        rw [contains_written_dirty.mpr (Or.inr ⟨d, hd, hi⟩)] at hdirty
        cases hdirty
      · rw [(hds d hd).1]
        exact hversion

namespace World

section amid

variable {w : World} (others : List Step) (supplies : Supplies) (authorizer : Authorizer)
  (now : Timestamp) (r : Request)

/-- A run amid others writes consumers of the owner that it finds. -/
theorem leftAmid_work (hfiled : FiledById w.store.registry.consumers) {k : String}
    (hk : ∀ o, w.store.start.owner? r.ownerKey = some o → o.key = k) :
    ∃ ds, (w.leftAmid others supplies authorizer now r).work = w.store.start.written ds ∧
      ∀ d ∈ ds, d.ownerKey = k ∧ ∃ i, d.id = some i := by
  have hkeeps := Errand.keeps_after (e := .reconcile r) authorizer now
    (σ := ⟨w.store.start, (w.run others).store.usage, supplies, .none⟩) rfl hfiled hk
  obtain ⟨ds, hwork, hds⟩ := hkeeps.work
  rw [Errand.after, Errand.attempt, Session.run_map] at hwork
  exact ⟨ds, hwork, fun d hd => ⟨(hds d hd).1, (hds d hd).2.imp fun _ h => h.1⟩⟩

/-- A run that has come to a result fails if it has written anything and another unit of work has
committed a write to its owner. -/
theorem raced_iff (hfiled : FiledById w.store.registry.consumers) {o : Owner}
    (ho : w.store.start.owner? r.ownerKey = some o) {outcome : Outcome} {σ : Session}
    (hrun : (r.attempt authorizer now).run.run
      ⟨w.store.start, (w.run others).store.usage, supplies, .none⟩ = (.ok outcome, σ)) :
    let result := (w.reconcileAmid others supplies authorizer now r).1
    ((∃ e, result = .error e) ↔
      w.commitsTo o.key others = true ∧
        (w.leftAmid others supplies authorizer now r).work.dirty.isEmpty = false) ∧
      ∀ cause, result ≠ .error (.store (.rejected cause)) := by
  intro result
  have hleft : (w.leftAmid others supplies authorizer now r).work = σ.work := by
    rw [leftAmid, hrun]
  obtain ⟨ds, hwork, hds⟩ := leftAmid_work others supplies authorizer now r hfiled
    fun o' ho' => congrArg Owner.key (Option.some.inj (ho'.symm.trans ho))
  have hconflict : σ.work.conflict? (w.run others).store.registry = none ↔
      σ.work.dirty.isEmpty = true ∨ (w.run others).version o.key = w.version o.key := by
    rw [← hleft, hwork]
    exact Transaction.conflict?_written_start hds
  have hlost : (w.commitsTo o.key others = true ∧ σ.work.dirty.isEmpty = false) ↔
      σ.work.conflict? (w.run others).store.registry ≠ none := by
    rw [(w.version_run o.key others).2, ← Bool.not_eq_true, and_comm, ← not_or, ← hconflict]
  rw [hleft, hlost]
  rcases Option.eq_none_or_eq_some (σ.work.conflict? (w.run others).store.registry) with
    hfree | ⟨key, hraced⟩
  · have hresult : result = .ok outcome := congrArg Prod.fst
      (Store.conclude_of_ok (s := { (w.run others).store with supplies := supplies }) hrun
        (Transaction.committed_eq_ok_iff.mpr ⟨hfree, rfl⟩))
    rw [hresult]
    exact ⟨⟨fun ⟨e, he⟩ => (by cases he), fun h => absurd hfree h⟩, fun cause hc => by cases hc⟩
  · have hcommit : σ.work.committed (w.run others).store.registry = .error (.conflict key) := by
      rw [Transaction.committed_eq, hraced]
    have hresult : result = .error (.store (.conflict key)) := congrArg Prod.fst
      (Store.conclude_of_conflict (s := { (w.run others).store with supplies := supplies }) hrun
        hcommit)
    rw [hresult, hraced]
    exact ⟨⟨fun _ => Option.some_ne_none key, fun _ => ⟨_, rfl⟩⟩, fun cause hc => by cases hc⟩

/-- A run for a report fails as a whole exactly if there is no such owner, the principal may not
change its consumers, autobind is disabled for it, the store refuses all writes of several consumers
and an entry is matched with a known host, or another unit of work has committed a write to the
owner while the run has written anything. It never fails because a write is rejected. -/
theorem reconcileAmid_fails_iff (hkept : ∀ k, WellKept w.store.registry.consumers k) :
    let result := (w.reconcileAmid others supplies authorizer now r).1
    ((∃ e, result = .error e) ↔
      w.store.start.owner? r.ownerKey = none ∨
        ∃ o, w.store.start.owner? r.ownerKey = some o ∧
          (authorizer r.principal o .update = false ∨ o.autobindDisabled = true ∨
            (w.store.faults.bulkFailure.isSome = true ∧
              ∃ c, .existing c ∈ decisions (w.store.start.knownHosts o.key r.report.entries) .empty
                r.report.entries) ∨
            (w.commitsTo o.key others = true ∧
              (w.leftAmid others supplies authorizer now r).work.dirty.isEmpty = false))) ∧
      ∀ cause, result ≠ .error (.store (.rejected cause)) := by
  intro result
  have hfails := r.attempt_fails_iff authorizer now (w.run others).store.usage supplies
    (t := w.store.start) hkept
  rcases hrun : (r.attempt authorizer now).run.run
    ⟨w.store.start, (w.run others).store.usage, supplies, .none⟩ with ⟨e | outcome, σ⟩
  · rw [hrun] at hfails
    have hresult : result = .error e := congrArg Prod.fst (Store.conclude_of_error hrun)
    refine ⟨⟨fun _ => ?_, fun _ => ⟨e, hresult⟩⟩, fun cause hc => hfails.2 cause (hresult ▸ hc)⟩
    rcases hfails.1.mp ⟨e, rfl⟩ with hnone | ⟨o, ho, hdenied | hdisabled | hbulk⟩
    · exact Or.inl hnone
    · exact Or.inr ⟨o, ho, Or.inl hdenied⟩
    · exact Or.inr ⟨o, ho, Or.inr (Or.inl hdisabled)⟩
    · exact Or.inr ⟨o, ho, Or.inr (Or.inr (Or.inl hbulk))⟩
  · rw [hrun] at hfails
    have hgranted := mt hfails.1.mpr fun ⟨e, he⟩ => by cases he
    obtain ⟨o, ho⟩ := Option.ne_none_iff_exists'.mp fun hnone => hgranted (Or.inl hnone)
    obtain ⟨hraced, hrejected⟩ :=
      raced_iff others supplies authorizer now r (hkept o.key).filed ho hrun
    refine ⟨hraced.trans ⟨fun h => Or.inr ⟨o, ho, Or.inr (Or.inr (Or.inr h))⟩, ?_⟩, hrejected⟩
    rintro (hnone | ⟨o', ho', hdenied | hdisabled | hbulk | hlost⟩)
    · exact absurd (Or.inl hnone) hgranted
    · exact absurd (Or.inr ⟨o', ho', Or.inl hdenied⟩) hgranted
    · exact absurd (Or.inr ⟨o', ho', Or.inr (Or.inl hdisabled)⟩) hgranted
    · exact absurd (Or.inr ⟨o', ho', Or.inr (Or.inr hbulk)⟩) hgranted
    · rwa [Option.some.inj (ho.symm.trans ho')]

end amid

/-- A host is changed by a run while another one is registered for the owner. -/
theorem reconcileAmid_fails_race :
    let now : Timestamp := ⟨⟨2024, 1, 1⟩, ⟨0, 0, 0, 0⟩, by decide, by decide⟩
    let host (id uuid hypervisorId : String) : Consumer :=
      ⟨some id, uuid, uuid, "a", .hypervisor, some ⟨hypervisorId, none⟩, [], .empty, none⟩
    let s : Store :=
      ⟨{ Registry.empty.addOwner (.named "a") with
          consumers := Dict.empty.insert "1" (host "1" "x" "h") }, .none, .none,
        ⟨⟨fun _ => "2", 0⟩, ⟨fun _ => "z", 0⟩⟩, .given⟩
    let others : List Step := [.start "n", .create "n" (host "" "y" "i"), .commit "n"]
    let r : Request := ⟨"a", true, none, .admin "root", ⟨[.withId "h"]⟩⟩
    let result := ((ofStore s).reconcileAmid others s.supplies .byGrants now r).1
    (∀ k, WellKept s.registry.consumers k) ∧ (∃ e, result = .error e) ∧
      ∀ cause, result ≠ .error (.store (.rejected cause)) := by
  intro now host s others r result
  have honly {i : String} {c : Consumer} (hi : s.registry.consumers.get? i = some c) :
      "1" = i ∧ c = host "1" "x" "h" :=
    (Dict.eq_or_get?_of_insert hi).resolve_right (by simp)
  have hkept : ∀ k, WellKept s.registry.consumers k := by
    refine fun k => ⟨fun i c hi => ?_, fun i j c c' hi hj _ => ?_, fun i j c c' h hi hj _ _ => ?_⟩
    · obtain ⟨rfl, rfl⟩ := honly hi
      rfl
    · exact (honly hi).1.symm.trans (honly hj).1
    · exact (honly hi).1.symm.trans (honly hj).1
  have hcommits : (ofStore s).commitsTo "a" others = true := by decide +kernel
  have hwrote : ((ofStore s).leftAmid others s.supplies .byGrants now r).work.dirty.isEmpty =
      false := by decide +kernel
  have howner : (ofStore s).store.start.owner? r.ownerKey = some (.named "a") := by decide +kernel
  clear_value s others
  have hfails := reconcileAmid_fails_iff (w := ofStore s) others s.supplies .byGrants now r hkept
  exact ⟨hkept, hfails.1.mpr (Or.inr ⟨_, howner, Or.inr (Or.inr (Or.inr ⟨hcommits, hwrote⟩))⟩),
    hfails.2⟩

end World

end HostRoster
