import HostRoster.Proofs.Reflection
import HostRoster.Proofs.Run.Footprint

/-!
# No clash of ids in a run

A run never asks for a write that would give a hypervisor id a second holder, whatever the report
says and in whatever order. Each entry writes one consumer under the entry's own id, and no two
entries share an id. A known host takes an id only if nothing that was seen holds it, and what was
not seen was written for another entry.
-/

namespace HostRoster

theorem Keys.contains_ofList {l : List String} {k : String} :
    (Keys.ofList l).contains k = true ↔ k ∈ l := by
  have h := Keys.contains_foldl_add (l := l) (f := id) (s := .empty) (k := k)
  simpa [Keys.ofList] using h

namespace Transaction

/-- The hypervisors of an owner that entries mention. -/
def mentioned (t : Transaction) (k : String) (es : List HostEntry) : List Consumer :=
  (t.ownedBy k).filter fun c =>
    c.isHypervisor && isWanted c (reportedIds es) (reportedSystemUuids es)

/-- Known hosts are made of the consumers that the entries mention. -/
theorem knownHosts_eq (t : Transaction) (k : String) (es : List HostEntry) :
    t.knownHosts k es = .ofList (t.mentioned k es) := rfl

variable {t : Transaction} {k : String} {es : List HostEntry} {e : HostEntry} {c : Consumer}
  {i : String}

/-- Consumers that are mentioned are hypervisors of the owner in the view. -/
theorem seen_of_mem_mentioned (h : c ∈ t.mentioned k es) :
    c.ownerKey = k ∧ c.isHypervisor = true ∧ ∃ i, t.view.get? i = some c := by
  obtain ⟨howned, hwanted⟩ := List.mem_filter.mp h
  obtain ⟨i, hi⟩ := mem_ownedBy_iff.mp howned
  obtain ⟨hseen, ho⟩ := get?_ownedPart_eq_some_iff.mp hi
  exact ⟨ho, (Bool.and_eq_true_iff.mp hwanted).1, i, hseen⟩

/-- If uuids in the view do not repeat, they do not repeat among those either. -/
theorem distinct_mentioned (h : DistinctUuids t.view) (k : String) (es : List HostEntry) :
    KnownHosts.Distinct (t.mentioned k es) := by
  intro c hc c' hc' huuid
  obtain ⟨_, _, i, hi⟩ := seen_of_mem_mentioned hc
  obtain ⟨_, _, j, hj⟩ := seen_of_mem_mentioned hc'
  rw [h hi hj huuid, hj] at hi
  exact (Option.some.inj hi).symm

/-- A hypervisor that holds the id of an entry is mentioned. -/
theorem mem_mentioned_of_held? (hseen : t.view.get? i = some c) (he : e ∈ es)
    (hheld : c.held? k = some e.hypervisorId) : c ∈ t.mentioned k es := by
  obtain ⟨ho, hh, hid⟩ := Consumer.held?_eq_some_iff.mp hheld
  have hwanted : isWanted c (reportedIds es) (reportedSystemUuids es) = true := by
    have hreported : (reportedIds es).contains e.hypervisorId = true :=
      Keys.contains_ofList.mpr (List.mem_map.mpr ⟨e, he, rfl⟩)
    rw [isWanted, hid, Option.any_some, hreported, Bool.true_or]
  exact List.mem_filter.mpr ⟨mem_ownedBy_iff.mpr ⟨i, get?_ownedPart_eq_some_iff.mpr ⟨hseen, ho⟩⟩,
    by rw [hh, hwanted]; rfl⟩

/-- A look-up by the id of an entry finds the hypervisor that holds it. -/
theorem withHypervisorId?_knownHosts (huuids : DistinctUuids t.view) (hone : OneHolder t.view k)
    (he : e ∈ es) (hclean : e.Clean) (hseen : t.view.get? i = some c)
    (hheld : c.held? k = some e.hypervisorId) :
    (t.knownHosts k es).withHypervisorId? e.hypervisorId = some c := by
  have hdistinct := distinct_mentioned huuids k es
  have hkey : c.hypervisorId? = some (canonical e.hypervisorId) := by
    rw [hclean.canonical_hypervisorId]
    exact (Consumer.held?_eq_some_iff.mp hheld).2.2
  obtain ⟨c', hc'⟩ := KnownHosts.exists_withHypervisorId?
    (mem_mentioned_of_held? hseen he hheld) hkey
  have hid := KnownHosts.hypervisorId?_of_withHypervisorId? hdistinct hc'
  rw [hclean.canonical_hypervisorId] at hid
  obtain ⟨ho, hh, j, hj⟩ := seen_of_mem_mentioned (KnownHosts.mem_of_withHypervisorId? hc')
  have hheld' : c'.held? k = some e.hypervisorId := Consumer.held?_eq_some_iff.mpr ⟨ho, hh, hid⟩
  have hij : j = i := hone hj hseen hheld' hheld
  rw [hij, hseen] at hj
  rw [knownHosts_eq, hc', Option.some.inj hj]

/-- Where an id is free for a known host, nothing else that is seen holds it. -/
theorem eq_of_idFree (huuids : DistinctUuids t.view) (hone : OneHolder t.view k)
    (he : e ∈ es) (hclean : e.Clean) (hseen : t.view.get? i = some c)
    (hfree : e.IdFree (t.knownHosts k es) c) {j : String} {c' : Consumer}
    (hj : t.view.get? j = some c') (hheld : c'.held? k = some e.hypervisorId) : j = i :=
  huuids hj hseen (hfree c' (withHypervisorId?_knownHosts huuids hone he hclean hj hheld))

end Transaction

namespace Planner

variable {p : Planner} {σ : Session} {es : List HostEntry}

/-- Each entry writes a consumer that reflects it, or nothing. -/
theorem forall₂_writes (p : Planner) (σ : Session) (hes : CleanEntries es) :
    List.Forall₂ (fun e m => ∀ c, m.writes? = some c → p.Reflects e c) es (p.plans σ es).1 := by
  have hplans := Lists.forall₂_mem
    (p.forall₂_planEntries (σ.work.knownHosts p.owner.key es) σ.supplies.uuids es)
  refine hplans.imp fun e m h c hc => ?_
  obtain ⟨he, _, d, hd, hplan⟩ := h
  have hclean : e.Clean := hes.clean e he
  cases hplan with
  | update c₀ =>
    cases hc
    obtain ⟨ho, hh, _⟩ := Transaction.seen_of_mem_mentioned (HostEntry.mem_of_meant? hd.1)
    exact reflects_changedHost hclean ho hh
  | create uuid _ _ _ =>
    cases hc
    exact reflects_newHost hclean uuid
  | refused _ r _ _ => cases hc

/-- No two plans write one id. -/
theorem pairwise_held? (p : Planner) (σ : Session) (hes : CleanEntries es) :
    (p.plans σ es).1.Pairwise fun m m' => ∀ c c', m.writes? = some c → m'.writes? = some c' →
      c.held? p.owner.key ≠ c'.held? p.owner.key :=
  Lists.pairwise_of_forall₂ (p.forall₂_writes σ hes) hes.distinct
    fun h h' hid c c' hc hc' heq => hid <| by
      rw [(h c hc).held?, (h' c' hc').held?] at heq
      exact Option.some.inj heq

/-- So two plans that write one id are one plan. -/
theorem eq_of_held?_eq (hes : CleanEntries es) {m m' : Mutation}
    (hm : m ∈ (p.plans σ es).1) (hm' : m' ∈ (p.plans σ es).1) {c c' : Consumer}
    (hc : m.writes? = some c) (hc' : m'.writes? = some c')
    (hheld : c.held? p.owner.key = c'.held? p.owner.key) : m = m' := by
  by_contra hne
  have hapart := p.pairwise_held? σ hes
  have hsymm : Std.Symm fun m m' : Mutation => ∀ c c', m.writes? = some c →
      m'.writes? = some c' → c.held? p.owner.key ≠ c'.held? p.owner.key :=
    ⟨fun _ _ h c c' hc hc' heq => h c' c hc' hc heq.symm⟩
  exact hapart.forall hm hm' hne c c' hc hc' hheld

/-- A changed consumer is written under an id of the store that is seen, and nothing else that is
seen holds its hypervisor id. -/
theorem sole_of_changes? (hkept : WellKept σ.work.view p.owner.key) (hes : CleanEntries es)
    {m : Mutation}
    (hm : m ∈ (p.plans σ es).1) {d : Consumer} {guests : Bool}
    (hd : m.changes? = some (d, guests)) :
    ∃ i h, d.id = some i ∧ σ.work.view.contains i = true ∧ d.held? p.owner.key = some h ∧
      ∀ j c', σ.work.view.get? j = some c' → c'.held? p.owner.key = some h → j = i := by
  obtain ⟨e, he, c, hmeant, hfree, rfl, _⟩ := of_changes? hm hd
  obtain ⟨ho, hh, i, hi⟩ := Transaction.seen_of_mem_mentioned (HostEntry.mem_of_meant? hmeant)
  have hid : c.id = some i := hkept.filed hi
  exact ⟨i, e.hypervisorId, hid, Dict.contains_iff.mpr ⟨c, hi⟩,
    (reflects_changedHost (hes.clean e he) ho hh).held?, fun j c' hj hheld =>
      Transaction.eq_of_idFree hkept.uuids hkept.oneHolder he (hes.clean e he) hi hfree hj hheld⟩

/-- Everything that holds an id in a view was seen at first or was written by a plan. -/
def Traces (p : Planner) (ms : List Mutation) (seen view : Dict Consumer) : Prop :=
  ∀ ⦃j c⦄, view.get? j = some c → seen.get? j = some c ∨
    ∃ m ∈ ms, ∃ d, m.writes? = some d ∧ (d.id = none ∨ d.id = some j) ∧
      c.held? p.owner.key = d.held? p.owner.key

/-- A batch of consumers that plans change, be it with other guests. -/
def Changed (p : Planner) (ms : List Mutation) (cs : List Consumer) : Prop :=
  ∀ c ∈ cs, ∃ m ∈ ms, ∃ d guests, m.changes? = some (d, guests) ∧ c.id = d.id ∧
    c.held? p.owner.key = d.held? p.owner.key

variable {ms : List Mutation} {seen view : Dict Consumer} {cs : List Consumer}

theorem Traces.refl (p : Planner) (ms : List Mutation) (seen : Dict Consumer) :
    p.Traces ms seen seen := fun _ _ hj => Or.inl hj

/-- What was traced to some mutations is traced to more of them. -/
theorem Traces.mono {ms' : List Mutation} (h : p.Traces ms seen view) (hsub : ms ⊆ ms') :
    p.Traces ms' seen view := by
  intro j c hj
  refine (h hj).imp_right ?_
  rintro ⟨m, hm, hwritten⟩
  exact ⟨m, hsub hm, hwritten⟩

/-- Consumers that some mutations change are changed by more of them. -/
theorem Changed.mono {ms' : List Mutation} (h : p.Changed ms cs) (hsub : ms ⊆ ms') :
    p.Changed ms' cs := by
  intro c hc
  obtain ⟨m, hm, hchanges⟩ := h c hc
  exact ⟨m, hsub hm, hchanges⟩

/-- A view stays traced when changed consumers are laid over it. -/
theorem Traces.changed (h : p.Traces ms seen view) (hcs : p.Changed ms cs) :
    p.Traces ms seen (Transaction.overwritten view cs) := by
  intro j c hj
  rcases Transaction.get?_overwritten_cases hj with ⟨hc, hid⟩ | hold
  · obtain ⟨m, hm, d, guests, hd, hcid, hheld⟩ := hcs c hc
    exact Or.inr ⟨m, hm, d, Mutation.writes?_of_changes? hd, Or.inr (hcid.symm.trans hid), hheld⟩
  · exact h hold

/-- It also does when registered ones are. -/
theorem Traces.registered (h : p.Traces ms seen view)
    (hcs : ∀ c ∈ cs, ∃ m ∈ ms, ∃ new, m.registers? = some new ∧ new.id = none ∧
      ∃ i, c = { new with id := some i }) :
    p.Traces ms seen (Transaction.overwritten view cs) := by
  intro j c hj
  rcases Transaction.get?_overwritten_cases hj with ⟨hc, _⟩ | hold
  · obtain ⟨m, hm, new, hnew, hid, i, rfl⟩ := hcs c hc
    exact Or.inr ⟨m, hm, new, Mutation.writes?_of_registers? hnew, Or.inl hid, rfl⟩
  · exact h hold

/-- Batches that the plans change leave single holders. -/
theorem oneHolder_changed (hkept : WellKept σ.work.view p.owner.key) (hes : CleanEntries es)
    (htraces : p.Traces (p.plans σ es).1 σ.work.view view) (hone : OneHolder view p.owner.key)
    (hcs : p.Changed (p.plans σ es).1 cs) :
    OneHolder (Transaction.overwritten view cs) p.owner.key := by
  -- The holder of a written id is written in its place.
  have hplace {i j : String} {c c' : Consumer} {h : String} (hc : c ∈ cs) (hid : c.id = some i)
      (hj : (Transaction.overwritten view cs).get? j = some c')
      (hheld : c.held? p.owner.key = some h) (hheld' : c'.held? p.owner.key = some h) : i = j := by
    obtain ⟨m, hm, d, guests, hd, hcid, hcheld⟩ := hcs c hc
    obtain ⟨i', h', hid', _, hdheld, hsole⟩ := sole_of_changes? hkept hes hm hd
    have hi : i' = i := Option.some.inj (hid'.symm.trans (hcid.symm.trans hid))
    have hh : h' = h := Option.some.inj (hdheld.symm.trans (hcheld.symm.trans hheld))
    rw [hi] at hid' hsole
    rw [hh] at hdheld hsole
    rcases htraces.changed hcs hj with hseen | ⟨m', hm', d', hd', hplaced, hheld''⟩
    · exact (hsole j c' hseen hheld').symm
    · have hsame : m = m' := eq_of_held?_eq hes hm hm' (Mutation.writes?_of_changes? hd) hd'
        (hdheld.trans (hheld'.symm.trans hheld''))
      rw [← hsame, Mutation.writes?_of_changes? hd, Option.some.injEq] at hd'
      rw [← hd', hid'] at hplaced
      exact Option.some.inj (hplaced.resolve_left (Option.some_ne_none i))
  intro i j c c' h hi hj hc hc'
  rcases Transaction.get?_overwritten_cases hi with ⟨hnew, hid⟩ | hold
  · exact hplace hnew hid hj hc hc'
  · rcases Transaction.get?_overwritten_cases hj with ⟨hnew', hid'⟩ | hold'
    · exact (hplace hnew' hid' hi hc' hc).symm
    · exact hone hold hold' hc hc'

/-- A unit of work in the course of a run that has found a session, after some of its plans. -/
structure InOrder (p : Planner) (σ : Session) (ms : List Mutation) (t : Transaction) : Prop where
  /-- The same writes are refused as at first. -/
  faults : t.faults = σ.work.faults
  /-- Nothing that was seen at first has disappeared. -/
  contains : ∀ i, σ.work.view.contains i = true → t.view.contains i = true
  /-- All else was written by one of the plans. -/
  traces : p.Traces ms σ.work.view t.view
  /-- The owner has single holders. -/
  oneHolder : OneHolder t.view p.owner.key

/-- The consumers in a batch are those that mutations change. -/
theorem changed_changedConsumers (p : Planner) (ms : List Mutation) (guests : Bool) :
    p.Changed ms (changedConsumers guests ms) := by
  intro c hc
  obtain ⟨m, hm, hchanges⟩ := mem_changedConsumers.mp hc
  exact ⟨m, hm, c, guests, hchanges, rfl, rfl⟩

/-- They stay such with the guests of a view. -/
theorem Changed.keepingGuests (h : p.Changed ms cs) (view : Dict Consumer) :
    p.Changed ms (cs.map (Transaction.keepingGuests view)) := by
  intro c hc
  obtain ⟨d, hd, rfl⟩ := List.mem_map.mp hc
  rw [Transaction.keepingGuests_id, Transaction.keepingGuests_held?]
  exact h d hd

/-- The unit of work is in order when the new consumers are registered. -/
theorem inOrder_carried (hkept : WellKept σ.work.view p.owner.key) (hσ : σ.outages = .none) :
    p.InOrder σ (p.plans σ es).1 (p.carried σ es).session.work := by
  have hcarries := carries_carried (p := p) hσ es
  have hone := hcarries.oneHolder _ hkept.oneHolder
  rw [p.work_carried σ es hσ] at hone ⊢
  refine ⟨rfl, fun i hi => Transaction.contains_overwritten hi,
    (Traces.refl p _ _).registered fun c hc => ?_, hone⟩
  obtain ⟨m, hm, new, hnew, i, _, rfl⟩ := hcarries.registered c hc
  obtain ⟨_, _, _, _, _, _, rfl⟩ := of_registers? hm hnew
  exact ⟨m, hm, _, hnew, rfl, i, rfl⟩

section batches

variable (hkept : WellKept σ.work.view p.owner.key) (hes : CleanEntries es) {t : Transaction}

include hkept hes

/-- A batch of changed consumers leaves the unit of work in order. -/
theorem InOrder.written (h : p.InOrder σ ms t) (hsub : ms ⊆ (p.plans σ es).1)
    (hcs : p.Changed ms cs) : p.InOrder σ ms (t.written cs) where
  faults := h.faults
  contains i hi := Transaction.contains_overwritten (h.contains i hi)
  traces := h.traces.changed hcs
  oneHolder := oneHolder_changed hkept hes (h.traces.mono hsub) h.oneHolder (hcs.mono hsub)

/-- It is accepted, unless all such writes are refused. -/
theorem InOrder.checkBulk (h : p.InOrder σ ms t) (hsub : ms ⊆ (p.plans σ es).1)
    (hcs : p.Changed ms cs) (hfaults : σ.work.faults.bulkFailure = none) :
    t.checkBulk cs = .ok () := by
  have hchanged := hcs.mono hsub
  refine Transaction.checkBulk_eq_ok_iff.mpr ⟨by rw [h.faults, hfaults], fun c hc => ?_,
    Transaction.checkIdentities_eq_ok_iff.mpr fun c hc => ?_⟩
  · obtain ⟨m, hm, d, guests, hd, hid, _⟩ := hchanged c hc
    obtain ⟨i, _, hi, hcontains, _⟩ := sole_of_changes? hkept hes hm hd
    exact ⟨i, hid.trans hi, h.contains i hcontains⟩
  · obtain ⟨m, hm, d, guests, hd, _, hheld⟩ := hchanged c hc
    obtain ⟨_, x, _, _, hx, _⟩ := sole_of_changes? hkept hes hm hd
    rw [(Consumer.held?_eq_some_iff.mp (hheld.trans hx)).1]
    exact oneHolder_changed hkept hes (h.traces.mono hsub) h.oneHolder hchanged

/-- Unless all such writes are refused, the batches of the plans are written, whatever the report
says. -/
theorem flushed_of_faultless (hσ : σ.outages = .none)
    (hfaults : σ.work.faults.bulkFailure = none) : (p.flushed σ es).1 = .ok () := by
  have hstart : p.InOrder σ (p.plans σ es).1 (p.carried σ es).session.work :=
    inOrder_carried hkept hσ
  have hall : (p.plans σ es).1 ⊆ (p.plans σ es).1 := List.Subset.refl _
  have hattributes := changed_changedConsumers p (p.plans σ es).1 false
  have hmemberships := changed_changedConsumers p (p.plans σ es).1 true
  have hfirst : ∃ t₁, (Batches.of (p.plans σ es).1).writeAttributes (p.carried σ es).session.work =
      .ok t₁ := by
    unfold Batches.writeAttributes
    split
    · exact ⟨_, rfl⟩
    · have hcheck := hstart.checkBulk hkept hes hall hattributes hfaults
      exact ⟨_, Transaction.updateAttributes_eq_ok_iff.mpr ⟨hcheck, rfl⟩⟩
  obtain ⟨t₁, h₁⟩ := hfirst
  have hsecond : ∃ t₂, (Batches.of (p.plans σ es).1).writeMemberships t₁ = .ok t₂ := by
    unfold Batches.writeMemberships
    split
    · exact ⟨_, rfl⟩
    · have hnext := hstart.written hkept hes hall
        (hattributes.keepingGuests (p.carried σ es).session.work.view)
      have hcheck := hnext.checkBulk hkept hes hall hmemberships hfaults
      refine ⟨_, Transaction.updateMemberships_eq_ok_iff.mpr ⟨?_, rfl⟩⟩
      rw [Batches.eq_of_writeAttributes h₁]
      exact hcheck
  obtain ⟨t₂, h₂⟩ := hsecond
  rw [flushed, Batches.flushIn, Batches.writeTo, h₁]
  simp only [h₂]

end batches

end Planner

/-- If all writes of several consumers are refused, so are batches that are not empty. -/
theorem Batches.writeTo_of_bulkFailure (b : Batches) {t : Transaction} {message : String}
    (h : t.faults.bulkFailure = some message) :
    (b.writeTo t).1 =
      if b.attributes.isEmpty && b.memberships.isEmpty then .ok ()
      else .error (.backend message) := by
  have hcheck (cs : List Consumer) : t.checkBulk cs = .error (.backend message) := by
    rw [Transaction.checkBulk, h]
  have hfirst (cs : List Consumer) : t.updateAttributes cs = .error (.backend message) := by
    rw [Transaction.updateAttributes_eq, hcheck]
    rfl
  have hsecond (cs : List Consumer) : t.updateMemberships cs = .error (.backend message) := by
    rw [Transaction.updateMemberships_eq, hcheck]
    rfl
  unfold writeTo writeAttributes writeMemberships
  rw [hfirst]
  cases b.attributes.isEmpty with
  | false => rfl
  | true =>
    simp only [if_true, hsecond]
    cases b.memberships.isEmpty <;> rfl

end HostRoster
