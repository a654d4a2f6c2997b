import HostRoster.Proofs.Run.Success
import HostRoster.Proofs.Run.Traffic
import HostRoster.Proofs.WellFormed

/-!
# Hosts over a history of runs

Whatever runs are opened and concluded on a store, in whatever order and with whatever result, hosts
that are well-formed stay so. A run writes well-formed hosts if it has seen no others, and it may
publish what it has written over anything that is well-formed, so no version of an owner matters.
-/

namespace HostRoster

namespace Planner

variable {p : Planner} {σ : Session} {es : List HostEntry}

/-- A registered consumer is a new host for an entry with a name that does. -/
theorem newHost_of_registered (hσ : σ.outages = .none) {c : Consumer}
    (hc : c ∈ (p.carried σ es).registered) :
    ∃ e ∈ es, checkName e.name = .ok () ∧ ∃ uuid i, c = { p.newHost e uuid with id := some i } := by
  obtain ⟨m, hm, planned, hplanned, i, _, rfl⟩ := (carries_carried hσ es).registered c hc
  obtain ⟨e, he, _, hname, uuid, _, rfl⟩ := of_registers? hm hplanned
  exact ⟨e, he, hname, uuid, i, rfl⟩

/-- What a pass over clean entries registers is well formed. -/
theorem wellFormed_registered (hσ : σ.outages = .none) (hes : CleanEntries es) {c : Consumer}
    (hc : c ∈ (p.carried σ es).registered) : c.WellFormed := by
  obtain ⟨e, he, hname, uuid, i, rfl⟩ := newHost_of_registered hσ hc
  exact (wellFormed_newHost (hes.clean e he) hname uuid).withId (some i)

/-- Registering new hosts leaves an orderly view. -/
theorem orderly_carried (hσ : σ.outages = .none) (hes : CleanEntries es)
    (h : Orderly σ.work.view) : Orderly (p.carried σ es).session.work.view := by
  rw [p.view_carried σ es hσ]
  exact h.overwritten fun c hc _ => wellFormed_registered hσ hes hc

/-- Where a host was seen, there still is one after new hosts were registered, be it another one. -/
theorem exists_host_carried (p : Planner) (es : List HostEntry) (hσ : σ.outages = .none)
    {c : Consumer} {i : String} (hi : σ.work.view.get? i = some c) (hh : c.isHypervisor = true) :
    ∃ d, (p.carried σ es).session.work.view.get? i = some d ∧ d.isHypervisor = true := by
  rw [p.view_carried σ es hσ]
  have hcontains : σ.work.view.contains i = true := Dict.contains_iff.mpr ⟨c, hi⟩
  obtain ⟨d, hd⟩ := Dict.contains_iff.mp (Transaction.contains_overwritten hcontains)
  refine ⟨d, hd, ?_⟩
  -- Nothing is asked of the ids that are drawn, so a new host may stand where the other one did.
  rcases Transaction.get?_overwritten_cases hd with ⟨hregistered, _⟩ | hold
  · obtain ⟨e, _, _, uuid, j, rfl⟩ := newHost_of_registered hσ hregistered
    rfl
  · rw [hi, Option.some.injEq] at hold
    exact hold ▸ hh

/-- Changed hosts are well-formed, also those that keep the guests that the view has for them. -/
theorem wellFormed_rewrites (hσ : σ.outages = .none) (hes : CleanEntries es)
    (h : Orderly σ.work.view) {c : Consumer} (hc : c ∈ p.rewrites σ es) : c.WellFormed := by
  have hchanged {d : Consumer} {guests : Bool} (hd : d ∈ changedConsumers guests (p.plans σ es).1) :
      d.WellFormed ∧
        ∃ i c, d.id = some i ∧ σ.work.view.get? i = some c ∧ c.isHypervisor = true := by
    obtain ⟨e, he, i, c, hseen, hid, hh, rfl, _⟩ := exists_of_changed h.filed hd
    exact ⟨wellFormed_changedHost (hes.clean e he) (h.hosts hseen hh), i, c, hid, hseen, hh⟩
  rcases List.mem_append.mp hc with hattributes | hmemberships
  · obtain ⟨d, hd, rfl⟩ := List.mem_map.mp hattributes
    obtain ⟨hformed, i, c₀, hid, hseen, hh⟩ := hchanged hd
    obtain ⟨stored, hstored, hhost⟩ := p.exists_host_carried es hσ hseen hh
    exact (orderly_carried hσ hes h).keepingGuests hformed hid hstored hhost
  · exact (hchanged hmemberships).1

/-- A run that has seen well-formed hosts only writes no others. -/
theorem orderly_writes (hσ : σ.outages = .none) (hes : CleanEntries es) (h : Orderly σ.work.view) :
    Orderly (Transaction.overwritten σ.work.view (p.writes σ es)) := by
  refine h.overwritten fun c hc _ => ?_
  rcases List.mem_append.mp hc with hregistered | hrewritten
  · exact wellFormed_registered hσ hes hregistered
  · exact wellFormed_rewrites hσ hes h hrewritten

end Planner

/-- The time of the last check-in does not matter. -/
theorem Consumer.WellFormed.heardOf {c : Consumer} (h : c.WellFormed) (now : Timestamp) :
    (c.heardOf now).WellFormed :=
  ⟨h.hypervisorId, h.trimmed, h.guests, h.name⟩

/-- Hosts that were heard of are written as they were seen. -/
theorem Transaction.orderly_heartbeats {t : Transaction} (h : Orderly t.view) (k reporter : String)
    (now : Timestamp) : Orderly (overwritten t.view
      ((t.heartbeats k reporter now).attributes.map (keepingGuests t.view))) := by
  refine h.overwritten fun d hd _ => ?_
  obtain ⟨heard, hheard, rfl⟩ := List.mem_map.mp hd
  obtain ⟨c, hc, rfl⟩ := List.mem_map.mp hheard
  obtain ⟨howned, hreporter⟩ := List.mem_filter.mp hc
  have hh : c.isHypervisor = true := (Bool.and_eq_true _ _ ▸ hreporter).1
  obtain ⟨i, hi⟩ := mem_ownedBy_iff.mp howned
  have hseen := (get?_ownedPart_eq_some_iff.mp hi).1
  rw [keepingGuests_heardOf h.filed hseen now]
  exact (h.hosts hseen hh).heardOf now

section attempts

variable {authorizer : Authorizer} {now : Timestamp} {σ σ' : Session}

/-- A report that is reconciled leaves an orderly view. -/
theorem Request.orderly_of_ok {r : Request} {outcome : Outcome} (hσ : σ.outages = .none)
    (h : Orderly σ.work.view)
    (hrun : (r.attempt authorizer now).run.run σ = (.ok outcome, σ')) : Orderly σ'.work.view := by
  obtain ⟨t, u, s, outages⟩ := σ
  obtain rfl : outages = .none := hσ
  obtain ⟨o, _, _, hflushed, _⟩ := (r.run_attempt_eq_ok_iff t u s authorizer now).mp hrun
  have hwork := Planner.work_flushed rfl (congrArg Prod.fst hflushed)
  rw [hflushed] at hwork
  rw [hwork]
  exact Planner.orderly_writes rfl r.report.cleanEntries h

theorem Heartbeat.orderly_of_ok {b : Heartbeat} {outcome : HeartbeatOutcome}
    (hσ : σ.outages = .none) (h : Orderly σ.work.view)
    (hrun : (b.attempt authorizer now).run.run σ = (.ok outcome, σ')) : Orderly σ'.work.view := by
  obtain ⟨t, u, s, outages⟩ := σ
  obtain rfl : outages = .none := hσ
  rw [b.run_attempt t u s authorizer now] at hrun
  cases ho : t.owner? b.ownerKey with
  | none =>
    rw [ho] at hrun
    cases hrun
  | some o =>
    rw [ho] at hrun
    cases hauth : authorizer b.principal o .update with
    | false =>
      simp only [hauth, Bool.false_eq_true, if_false] at hrun
      cases hrun
    | true =>
      simp only [hauth, if_true] at hrun
      obtain ⟨hresult, rfl⟩ := Prod.mk.inj hrun
      have hwritten : ((t.heartbeats o.key b.reporter now).writeTo t).1 = .ok () := by
        cases hwrite : ((t.heartbeats o.key b.reporter now).writeTo t).1 with
        | error e => simp [Batches.flushIn, hwrite, Except.mapError, Except.map] at hresult
        | ok _ => rfl
      have hwork := Batches.work_of_writeTo hwritten
      rw [Batches.flushIn, hwork, Transaction.heartbeats, List.append_nil]
      exact Transaction.orderly_heartbeats h o.key b.reporter now

/-- An errand that comes to a result leaves an orderly view. -/
theorem Errand.orderly_of_ok {e : Errand} {a : Answer} (hσ : σ.outages = .none)
    (h : Orderly σ.work.view) (hrun : (e.attempt authorizer now).run.run σ = (.ok a, σ')) :
    Orderly σ'.work.view := by
  cases e with
  | reconcile r =>
    obtain ⟨outcome, hrun⟩ := Session.exists_of_run_map hrun
    exact r.orderly_of_ok hσ h hrun
  | heartbeat b =>
    obtain ⟨outcome, hrun⟩ := Session.exists_of_run_map hrun
    exact b.orderly_of_ok hσ h hrun

end attempts

/-- A run that is concluded leaves an orderly store, whatever it comes to. -/
theorem Run.orderly_concluded {r : Run} {s : Store} {t : Transaction}
    (hs : Orderly s.registry.consumers) (ht : Orderly t.view) :
    Orderly (r.concluded s t).2.registry.consumers := by
  obtain ⟨_, ⟨_, _, hregistry⟩ | ⟨_, σ, hrun, _, _, hregistry⟩⟩ :=
    ({ s with supplies := r.supplies } : Store).conclude_cases t
      (r.errand.attempt r.authorizer r.now)
  · rw [concluded, hregistry]
    exact hs
  · have hview : Orderly σ.work.view := Errand.orderly_of_ok rfl ht hrun
    rw [concluded, hregistry]
    exact hview.published hs

namespace Traffic

/-- The store and all that open runs see is orderly. -/
structure AllOrderly (w : Traffic) : Prop where
  /-- The store is. -/
  store : Orderly w.store.registry.consumers
  /-- So is every view. -/
  opened : ∀ name r t, w.opened.get? name = some (r, t) → Orderly t.view

/-- An orderly store without open runs is orderly in all. -/
theorem allOrderly_ofStore {s : Store} (h : Orderly s.registry.consumers) :
    (ofStore s).AllOrderly where
  store := h
  opened _ _ _ ht := by simp [ofStore] at ht

/-- Every event keeps it so. -/
theorem AllOrderly.step {w : Traffic} (h : w.AllOrderly) (e : Event) : (w.step e).AllOrderly := by
  cases e with
  | start name r =>
    refine ⟨h.store, fun n q t ht => ?_⟩
    rcases Dict.eq_or_get?_of_insert ht with ⟨_, hnew⟩ | hold
    · cases hnew
      exact h.store
    · exact h.opened n q t hold
  | finish name =>
    cases hopen : w.opened.get? name with
    | none => simpa only [Traffic.step, hopen] using h
    | some q =>
      obtain ⟨r, t⟩ := q
      simp only [Traffic.step, hopen]
      refine ⟨Run.orderly_concluded h.store (h.opened name r t hopen), fun n q t' ht' => ?_⟩
      exact h.opened n q t' (Dict.get?_of_erase ht')

theorem AllOrderly.run {w : Traffic} (h : w.AllOrderly) (events : List Event) :
    (w.run events).AllOrderly := by
  induction events generalizing w with
  | nil => exact h
  | cons e rest ih => exact ih (h.step e)

/-- Whatever runs are opened and concluded, in whatever order and with whatever result, the hosts of
a store stay well-formed. Consumers stand under their own ids, as in every store that was filled
from a snapshot or by inserting consumers. -/
theorem hostsWellFormed_run {s : Store} (hfiled : FiledById s.registry.consumers)
    (h : HostsWellFormed s.registry.consumers) (events : List Event) :
    HostsWellFormed ((ofStore s).run events).store.registry.consumers :=
  ((allOrderly_ofStore ⟨hfiled, h⟩).run events).store.hosts

/-- A host is given another id and other guests by a report that overlaps with a heartbeat, which
loses, and then a host is registered that was given a blank name. -/
theorem hostsWellFormed_run_overlap :
    let now : Timestamp := ⟨⟨2024, 1, 1⟩, ⟨0, 0, 0, 0⟩, by decide, by decide⟩
    let make (errand : Errand) : Run :=
      ⟨errand, .byGrants, now, ⟨⟨fun _ => "2", 0⟩, ⟨fun _ => "z", 0⟩⟩⟩
    let reconcile (hosts : List ReportedHost) : Run :=
      make (.reconcile ⟨"a", true, some " R ", .admin "root", ⟨hosts⟩⟩)
    let s : Store :=
      ⟨{ Registry.empty.addOwner (.named "a") with
          consumers := Dict.empty.insert "1" ⟨some "1", "x", "x", "a", .hypervisor,
            some ⟨"old", some "p"⟩, ["g"], Dict.empty.insert systemUuidFact "m", none⟩ },
        .none, .none, ⟨⟨fun _ => "", 0⟩, ⟨fun _ => "", 0⟩⟩, .given⟩
    let events : List Event :=
      [.start "k" (reconcile [((ReportedHost.withId " New ").withFact systemUuidFact "M").withGuests
          [" G ", "h", "g"]]),
        .start "l" (make (.heartbeat ⟨"a", "p", .admin "root"⟩)), .finish "k", .finish "l",
        .start "m" (reconcile [(ReportedHost.withId "J").named " "]), .finish "m"]
    let w := (ofStore s).run events
    HostsWellFormed s.registry.consumers ∧
      w.log.map (·.answer.isOk) = [true, false, true] ∧
      w.store.registry.consumers.values.map (fun c => (c.name, c.hypervisorId?, c.guests)) =
        [("x", some "new", ["g", "h"]), ("J", some "j", [])] ∧
      HostsWellFormed w.store.registry.consumers := by
  intro now make reconcile s events w
  have hfiled : FiledById s.registry.consumers :=
    filedById_insert (fun _ _ hi => by cases hi) rfl
  have hs : HostsWellFormed s.registry.consumers := by
    intro i c hi _
    rw [(Dict.eq_of_get?_single hi).2]
    refine ⟨fun h hh => ?_, by decide +kernel, List.pairwise_singleton _ _, by decide +kernel⟩
    cases hh
    decide +kernel
  exact ⟨hs, by decide +kernel, by decide +kernel, hostsWellFormed_run hfiled hs events⟩

end Traffic

end HostRoster
