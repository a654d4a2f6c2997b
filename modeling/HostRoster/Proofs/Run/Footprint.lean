import HostRoster.Proofs.Run.Attempt
import HostRoster.Proofs.Store.Owned

/-!
# The footprint of a run

A run for an owner writes consumers of the owner only: new ones under ids and uuids that it has
drawn, and known ones under their own. It depends on what it sees of the owner, on its supplies, and
on nothing else, so in two units of work that are the same to it, it comes to the same result.
-/

namespace HostRoster

/-- A consumer that a run for an owner may write: a new one, or one of the owner that it sees. -/
def Session.MayWrite (σ σ' : Session) (ownerKey : String) (d : Consumer) : Prop :=
  d.ownerKey = ownerKey ∧ ∃ i, d.id = some i ∧
    (σ.supplies.ids.HandedOut σ'.supplies.ids i ∧
        σ.supplies.uuids.HandedOut σ'.supplies.uuids d.uuid ∨
      ∃ c, (ownedPart σ.work.view ownerKey).get? i = some c ∧ c.uuid = d.uuid)

/-- What a run for an owner leaves of its session. -/
structure Session.Keeps (ownerKey : String) (σ σ' : Session) : Prop where
  /-- It lays consumers over the view that it may write. -/
  work : ∃ ds, σ'.work = σ.work.written ds ∧ ∀ d ∈ ds, σ.MayWrite σ' ownerKey d
  /-- Ids are drawn from the supply. -/
  ids : σ.supplies.ids.Leads σ'.supplies.ids
  /-- So are uuids. -/
  uuids : σ.supplies.uuids.Leads σ'.supplies.uuids

/-- Two sessions are the same to a run for an owner. -/
structure Session.SameFor (ownerKey : String) (σ σ' : Session) : Prop where
  /-- Their units of work are. -/
  work : σ.work.SameFor ownerKey σ'.work
  /-- They draw from the same supplies. -/
  supplies : σ.supplies = σ'.supplies
  /-- No call of the first is out of order. -/
  outages : σ.outages = .none
  /-- No call of the second is. -/
  outages' : σ'.outages = .none

/-- Consumers of an owner are those of its part of the view. -/
theorem mem_ownedBy_iff {t : Transaction} {k : String} {c : Consumer} :
    c ∈ t.ownedBy k ↔ ∃ i, (ownedPart t.view k).get? i = some c := by
  rw [Transaction.ownedBy_eq, Dict.mem_values_iff]

/-- The known hosts are read off the owner's hypervisors. -/
theorem exists_of_meant?_knownHosts {t : Transaction} {k : String} {es : List HostEntry}
    {e : HostEntry} {c : Consumer} (h : e.meant? (t.knownHosts k es) = some c) :
    c.isHypervisor = true ∧ ∃ i, (ownedPart t.view k).get? i = some c := by
  have hmem := HostEntry.mem_of_meant? h
  rw [List.mem_filter, Bool.and_eq_true] at hmem
  exact ⟨hmem.2.1, mem_ownedBy_iff.mp hmem.1⟩

namespace Batches

/-- What a consumer becomes when its attributes are written. -/
def Rewrites (c d : Consumer) : Prop := d.id = c.id ∧ d.uuid = c.uuid ∧ d.ownerKey = c.ownerKey

/-- Other guests leave a consumer under its id and uuid. -/
theorem rewrites_keepingGuests (view : Dict Consumer) (c : Consumer) :
    Rewrites c (Transaction.keepingGuests view c) := by
  refine ⟨?_, ?_, ?_⟩ <;> simp

theorem Rewrites.trans {c d e : Consumer} (h : Rewrites c d) (h' : Rewrites d e) : Rewrites c e :=
  ⟨h'.1.trans h.1, h'.2.1.trans h.2.1, h'.2.2.trans h.2.2⟩

/-- What a consumer of the owner becomes stays with the owner, under the same id. -/
theorem Rewrites.of_seen {view : Dict Consumer} {k i : String} {c d : Consumer} (h : Rewrites c d)
    (hfiled : FiledById view) (hi : (ownedPart view k).get? i = some c) :
    d.ownerKey = k ∧ d.id = some i := by
  obtain ⟨hseen, howner⟩ := get?_ownedPart_eq_some_iff.mp hi
  exact ⟨h.2.2.trans howner, h.1.trans (hfiled hseen)⟩

/-- Writing batches lays their consumers over the view, be it with other guests. -/
theorem writeTo_work (b : Batches) (t : Transaction) :
    ∃ ds, (b.writeTo t).2 = t.written ds ∧
      ∀ d ∈ ds, ∃ c ∈ b.attributes ++ b.memberships, Rewrites c d := by
  unfold writeTo
  cases hattributes : b.writeAttributes t with
  | error e => exact ⟨[], rfl, fun _ hd => by simp at hd⟩
  | ok t₁ =>
    have hkept : ∀ d ∈ b.attributes.map (Transaction.keepingGuests t.view),
        ∃ c ∈ b.attributes ++ b.memberships, Rewrites c d := by
      intro d hd
      obtain ⟨c, hc, rfl⟩ := List.mem_map.mp hd
      exact ⟨c, List.mem_append_left _ hc, rewrites_keepingGuests _ c⟩
    have h₁ := eq_of_writeAttributes hattributes
    cases hmemberships : b.writeMemberships t₁ with
    | error e => exact ⟨_, by simpa only [hmemberships] using h₁, hkept⟩
    | ok t₂ =>
      have h₂ := eq_of_writeMemberships hmemberships
      rw [h₁, ← Transaction.written_append] at h₂
      refine ⟨_, by simpa only [hmemberships] using h₂, fun d hd => ?_⟩
      rcases List.mem_append.mp hd with hd | hd
      · exact hkept d hd
      · exact ⟨d, List.mem_append_right _ hd, rfl, rfl, rfl⟩

/-- Batches of an owner's consumers are written to what is the same to the owner with the same
result, but for the clash of ids that is named where they are refused. -/
theorem writeTo_congr {b : Batches} {k : String} {t t' : Transaction} (h : t.SameFor k t')
    (hattributes : Transaction.Changes k t.view b.attributes)
    (hmemberships : Transaction.Changes k t.view b.memberships) :
    Answers.Same (StoreError.UpToListing k t.listing t'.listing) (b.writeTo t).1 (b.writeTo t').1 ∧
      (b.writeTo t).2.SameFor k (b.writeTo t').2 := by
  have hfirst : Transaction.SameWrite k t t' (b.writeAttributes t) (b.writeAttributes t') := by
    unfold writeAttributes
    cases b.attributes.isEmpty with
    | true => exact .laid [] fun _ hd => by simp at hd
    | false => exact h.updateAttributes hattributes
  unfold writeTo
  generalize b.writeAttributes t = answer, b.writeAttributes t' = answer' at hfirst
  cases hfirst with
  | failed he => exact ⟨.error he, h⟩
  | laid ds hds =>
    have hwritten := h.written hds
    have hsecond : Transaction.SameWrite k (t.written ds) (t'.written ds)
        (b.writeMemberships (t.written ds)) (b.writeMemberships (t'.written ds)) := by
      unfold writeMemberships
      cases b.memberships.isEmpty with
      | true => exact .laid [] fun _ hd => by simp at hd
      | false => exact hwritten.updateMemberships (hmemberships.overwritten hds)
    dsimp only
    generalize b.writeMemberships (t.written ds) = answer,
      b.writeMemberships (t'.written ds) = answer' at hsecond
    cases hsecond with
    | failed he => exact ⟨.error he, hwritten⟩
    | laid ds' hds' => exact ⟨.ok (), hwritten.written hds'⟩

end Batches

/-- Plans register consumers of an owner under some uuids. -/
def Registers (ownerKey : String) (uuids : String → Prop) (ms : List Mutation) : Prop :=
  ∀ m ∈ ms, ∀ c, m.registers? = some c → c.ownerKey = ownerKey ∧ uuids c.uuid

namespace Session

variable {k : String} {σ σ' : Session} {uuids : String → Prop}

/-- Registering a consumer of the owner comes to the same in sessions that are the same to it. -/
theorem SameFor.create (h : σ.SameFor k σ') (hr : Reserved σ.work.view k uuids)
    (hr' : Reserved σ'.work.view k uuids) {c : Consumer} (ho : c.ownerKey = k)
    (hu : uuids c.uuid) :
    ∃ τ τ', τ.SameFor k τ' ∧ Reserved τ.work.view k uuids ∧ Reserved τ'.work.view k uuids ∧
      ((∃ e, (Act.create c).run.run σ = (.error e, τ) ∧
          (Act.create c).run.run σ' = (.error e, τ')) ∨
        ∃ d, (Act.create c).run.run σ = (.ok d, τ) ∧ (Act.create c).run.run σ' = (.ok d, τ')) := by
  obtain ⟨t, u, s, o⟩ := σ
  obtain ⟨t', u', s', o'⟩ := σ'
  obtain ⟨hwork, rfl, rfl, rfl⟩ : t.SameFor k t' ∧ s = s' ∧ o = .none ∧ o' = .none :=
    ⟨h.work, h.supplies, h.outages, h.outages'⟩
  have hd : ∀ d ∈ [{ c with id := some s.ids.next }], d.ownerKey = k := by
    intro d hd
    rw [List.mem_singleton.mp hd, ho]
  have hrun := Act.run_create t u s c
  have hrun' := Act.run_create t' u' s c
  rcases hwork.create hr hr' ho hu s.ids.next with ⟨e, he, he'⟩ | ⟨hok, hok'⟩
  · rw [he] at hrun
    rw [he'] at hrun'
    refine ⟨_, _, ?_, ?_, ?_, Or.inl ⟨e, hrun, hrun'⟩⟩
    · exact ⟨hwork, rfl, rfl, rfl⟩
    · exact hr
    · exact hr'
  · rw [hok] at hrun
    rw [hok'] at hrun'
    refine ⟨_, _, ?_, ?_, ?_, Or.inr ⟨_, hrun, hrun'⟩⟩
    · exact ⟨hwork.written hd, rfl, rfl, rfl⟩
    · exact Transaction.reserved_overwritten hr hd
    · exact Transaction.reserved_overwritten hr' hd

/-- So does the pass over plans. -/
theorem SameFor.carry (h : σ.SameFor k σ') (hr : Reserved σ.work.view k uuids)
    (hr' : Reserved σ'.work.view k uuids) {ms : List Mutation} (hms : Registers k uuids ms) :
    (σ.carry ms).states = (σ'.carry ms).states ∧
      (σ.carry ms).session.SameFor k (σ'.carry ms).session := by
  induction ms generalizing σ σ' with
  | nil => exact ⟨rfl, h⟩
  | cons m rest ih =>
    have hrest : Registers k uuids rest := fun m' hm' => hms m' (List.mem_cons_of_mem _ hm')
    cases m with
    | create hostKey c =>
      obtain ⟨ho, hu⟩ := hms _ List.mem_cons_self c rfl
      obtain ⟨τ, τ', hτ, hr, hr', hrun⟩ := h.create hr hr' ho hu
      obtain ⟨hstates, hsession⟩ := ih hτ hr hr' hrest
      rcases hrun with ⟨e, he, he'⟩ | ⟨d, hd, hd'⟩
      · rw [carry_create_of_error he, carry_create_of_error he']
        exact ⟨congrArg (List.cons _) hstates, hsession⟩
      · rw [carry_create_of_ok hd, carry_create_of_ok hd']
        exact ⟨congrArg (List.cons _) hstates, hsession⟩
    | update hostKey c changes =>
      obtain ⟨hstates, hsession⟩ := ih h hr hr' hrest
      exact ⟨congrArg (List.cons _) hstates, hsession⟩
    | skip hostKey => exact ih h hr hr' hrest
    | failed hostKey message kind =>
      obtain ⟨hstates, hsession⟩ := ih h hr hr' hrest
      exact ⟨congrArg (List.cons _) hstates, hsession⟩

/-- Writing batches comes to the same too, but for the clash of ids that is named. -/
theorem SameFor.flushIn (h : σ.SameFor k σ') {b : Batches}
    (hattributes : Transaction.Changes k σ.work.view b.attributes)
    (hmemberships : Transaction.Changes k σ.work.view b.memberships) :
    Answers.Same (StoreError.UpToListing k σ.work.listing σ'.work.listing) (b.flushIn σ).1
        (b.flushIn σ').1 ∧
      (b.flushIn σ).2.SameFor k (b.flushIn σ').2 := by
  obtain ⟨hresult, hwork⟩ := Batches.writeTo_congr h.work hattributes hmemberships
  exact ⟨hresult, hwork, h.supplies, h.outages, h.outages'⟩

end Session

namespace Planner

variable (p : Planner) (σ : Session) (es : List HostEntry)

/-- The plans register consumers of the owner under uuids that they draw. -/
theorem registers_plans :
    Registers p.owner.key (σ.supplies.uuids.HandedOut (p.plans σ es).2) (p.plans σ es).1 := by
  intro m hm c hc
  obtain ⟨e, _, _, _, uuid, huuid, rfl⟩ := of_registers? hm hc
  exact ⟨rfl, huuid⟩

/-- A consumer that the plans change is one of the owner that is seen under its id. -/
theorem seen_of_changes? {m : Mutation} {d : Consumer} {guests : Bool}
    (hm : m ∈ (p.plans σ es).1) (hd : m.changes? = some (d, guests)) :
    ∃ i c, (ownedPart σ.work.view p.owner.key).get? i = some c ∧ Batches.Rewrites c d := by
  obtain ⟨e, _, c, hmeant, _, rfl, _⟩ := of_changes? hm hd
  obtain ⟨_, i, hi⟩ := exists_of_meant?_knownHosts hmeant
  exact ⟨i, c, hi, rfl, rfl, rfl⟩

/-- The batches of the plans change consumers of the owner that are seen. -/
theorem changes_plans {σ : Session} (hfiled : FiledById σ.work.view) (es : List HostEntry)
    (guests : Bool) :
    Transaction.Changes p.owner.key σ.work.view (changedConsumers guests (p.plans σ es).1) := by
  intro d hd
  obtain ⟨m, hm, hchanges⟩ := mem_changedConsumers.mp hd
  obtain ⟨i, c, hi, hrewrites⟩ := p.seen_of_changes? σ es hm hchanges
  obtain ⟨ho, hid⟩ := hrewrites.of_seen hfiled hi
  exact ⟨ho, i, hid, Dict.contains_iff.mpr ⟨c, hi⟩⟩

variable {p σ es}

/-- Sessions that are the same to the owner give the same plans. -/
theorem plans_congr {σ' : Session} (h : σ.SameFor p.owner.key σ') :
    p.plans σ es = p.plans σ' es := by
  rw [plans, plans, Transaction.knownHosts, Transaction.knownHosts, h.work.hostConsumers,
    h.supplies]

/-- Sessions that are the same to the owner know the same guests. -/
theorem knownGuests_congr {σ' : Session} {k : String} (h : σ.SameFor k σ') :
    σ.work.knownGuests k es = σ'.work.knownGuests k es := by
  rw [Transaction.knownGuests, Transaction.knownGuests, h.work.guestConsumers]

/-- The pass over plans leaves the order in which batches are gone through. -/
theorem listing_carried (hσ : σ.outages = .none) :
    (p.carried σ es).session.work.listing = σ.work.listing := by
  rw [p.work_carried σ es hσ, Transaction.written_listing]

/-- Reconciling entries comes to the same in sessions that are the same to the owner, but for the
clash of ids that is named where batches are refused. -/
theorem flushed_congr {σ' : Session} (h : σ.SameFor p.owner.key σ')
    (hfiled : FiledById σ.work.view)
    (hr : Reserved σ.work.view p.owner.key (σ.supplies.uuids.HandedOut (p.plans σ es).2))
    (hr' : Reserved σ'.work.view p.owner.key (σ.supplies.uuids.HandedOut (p.plans σ es).2)) :
    Answers.Same (StoreError.UpToListing p.owner.key σ.work.listing σ'.work.listing)
        (p.flushed σ es).1 (p.flushed σ' es).1 ∧
      (p.flushed σ es).2.SameFor p.owner.key (p.flushed σ' es).2 ∧
      p.tally σ es = p.tally σ' es := by
  have hplans : p.plans σ es = p.plans σ' es := plans_congr h
  have hplanned : (p.planned σ es).SameFor p.owner.key (p.planned σ' es) :=
    ⟨h.work, by rw [planned, planned, hplans, h.supplies], h.outages, h.outages'⟩
  obtain ⟨hstates, hsession⟩ := hplanned.carry hr hr' (p.registers_plans σ es)
  have hcarries := carries_carried (p := p) h.outages es
  have howner : ∀ c ∈ (p.carried σ es).registered, c.ownerKey = p.owner.key := by
    intro c hc
    obtain ⟨m, hm, planned, hreg, _, _, rfl⟩ := hcarries.registered c hc
    exact (p.registers_plans σ es m hm planned hreg).1
  have hchanges (guests : Bool) : Transaction.Changes p.owner.key (p.carried σ es).session.work.view
      (changedConsumers guests (p.plans σ es).1) := by
    rw [hcarries.work]
    exact (p.changes_plans hfiled es guests).overwritten howner
  have hlisting : (p.carried σ es).session.work.listing = σ.work.listing :=
    listing_carried h.outages
  have hlisting' : (p.carried σ' es).session.work.listing = σ'.work.listing :=
    listing_carried h.outages'
  rw [← hlisting, ← hlisting']
  have hflush := Session.SameFor.flushIn (b := Batches.of (p.plans σ es).1) hsession
    (hchanges false) (hchanges true)
  refine ⟨?_, ?_, ?_⟩
  · rw [flushed, flushed, carried, carried, ← hplans]
    exact hflush.1
  · rw [flushed, flushed, carried, carried, ← hplans]
    exact hflush.2
  · rw [tally, tally, carried, carried, ← hplans, hstates, knownGuests_congr h]

/-- The uuids that are drawn are those of the plans. -/
theorem uuids_flushed (hσ : σ.outages = .none) :
    (p.flushed σ es).2.supplies.uuids = (p.plans σ es).2 :=
  (carries_carried hσ es).uuids

/-- Where registering is denied, no id is drawn. -/
theorem ids_flushed_of_denied (hdenied : p.createMissing = true → p.createDenied ≠ none) :
    (p.flushed σ es).2.supplies.ids = σ.supplies.ids := by
  have hpass : (p.carried σ es).session = p.planned σ es :=
    Session.session_carry (p.registers?_eq_none_of_denied hdenied _ _)
  exact congrArg (·.supplies.ids) hpass

/-- Reconciling entries writes new consumers of the owner and those that were seen. -/
theorem keeps_flushed (hσ : σ.outages = .none) (hfiled : FiledById σ.work.view) :
    σ.Keeps p.owner.key (p.flushed σ es).2 := by
  have hcarries := carries_carried (p := p) hσ es
  have huuids : (p.flushed σ es).2.supplies.uuids = (p.plans σ es).2 := uuids_flushed hσ
  obtain ⟨ds, hwork, hds⟩ :=
    (Batches.of (p.plans σ es).1).writeTo_work (p.carried σ es).session.work
  refine ⟨⟨(p.carried σ es).registered ++ ds, ?_, fun d hd => ?_⟩, hcarries.ids, ?_⟩
  · rw [flushed, Batches.flushIn, hwork, hcarries.work, Transaction.written_append]
    rfl
  · rcases List.mem_append.mp hd with hd | hd
    · obtain ⟨m, hm, new, hreg, i, hi, rfl⟩ := hcarries.registered d hd
      obtain ⟨ho, huuid⟩ := p.registers_plans σ es m hm new hreg
      exact ⟨ho, i, rfl, Or.inl ⟨hi, huuids ▸ huuid⟩⟩
    · obtain ⟨c, hc, hwritten⟩ := hds d hd
      have hchanged : ∃ guests, c ∈ changedConsumers guests (p.plans σ es).1 :=
        (List.mem_append.mp hc).elim (fun h => ⟨false, h⟩) fun h => ⟨true, h⟩
      obtain ⟨guests, hc⟩ := hchanged
      obtain ⟨m, hm, hchanges⟩ := mem_changedConsumers.mp hc
      obtain ⟨i, c₀, hi, hplanned⟩ := p.seen_of_changes? σ es hm hchanges
      have hrewrites := hplanned.trans hwritten
      obtain ⟨ho, hid⟩ := hrewrites.of_seen hfiled hi
      exact ⟨ho, i, hid, Or.inr ⟨c₀, hi, hrewrites.2.1.symm⟩⟩
  · rw [huuids]
    exact p.leads_planEntries _ _ es

end Planner

namespace Transaction

variable {t : Transaction} {k reporter : String} {now : Timestamp}

/-- A heartbeat changes consumers of the owner that are seen. -/
theorem seen_of_heartbeats {d : Consumer} (hd : d ∈ (t.heartbeats k reporter now).attributes) :
    ∃ i c, (ownedPart t.view k).get? i = some c ∧ Batches.Rewrites c d := by
  obtain ⟨c, hc, rfl⟩ := List.mem_map.mp hd
  have howned : c ∈ t.ownedBy k := (List.mem_filter.mp hc).1
  obtain ⟨i, hi⟩ := mem_ownedBy_iff.mp howned
  exact ⟨i, c, hi, rfl, rfl, rfl⟩

/-- The batch of a heartbeat changes consumers of the owner. -/
theorem changes_heartbeats (hfiled : FiledById t.view) (k reporter : String) (now : Timestamp) :
    Changes k t.view (t.heartbeats k reporter now).attributes := by
  intro d hd
  obtain ⟨i, c, hi, hrewrites⟩ := seen_of_heartbeats hd
  obtain ⟨ho, hid⟩ := hrewrites.of_seen hfiled hi
  exact ⟨ho, i, hid, Dict.contains_iff.mpr ⟨c, hi⟩⟩

/-- A consumer that was just heard of keeps its guests when its attributes are written. -/
theorem keepingGuests_heardOf {view : Dict Consumer} (hfiled : FiledById view) {i : String}
    {c : Consumer} (hi : view.get? i = some c) (now : Timestamp) :
    keepingGuests view (c.heardOf now) = c.heardOf now := by
  have hid : c.id = some i := hfiled hi
  have hheard : (c.heardOf now).id = some i := hid
  exact keepingGuests_eq hheard hi

theorem map_keepingGuests_heardOf {view : Dict Consumer} (hfiled : FiledById view)
    {hosts : List Consumer} (hhosts : ∀ c ∈ hosts, ∃ i, view.get? i = some c) (now : Timestamp) :
    (hosts.map (·.heardOf now)).map (keepingGuests view) = hosts.map (·.heardOf now) := by
  rw [List.map_map]
  refine List.map_congr_left fun c hc => ?_
  obtain ⟨i, hi⟩ := hhosts c hc
  exact keepingGuests_heardOf hfiled hi now

/-- Where hosts are written as heard of, nothing else is written. -/
theorem get?_overwritten_heardOf {view : Dict Consumer} (hfiled : FiledById view)
    {hosts : List Consumer} (hhosts : ∀ c ∈ hosts, ∃ i, view.get? i = some c) (now : Timestamp)
    (i : String) :
    (overwritten view (hosts.map (·.heardOf now))).get? i =
      (view.get? i).map fun c => if c ∈ hosts then c.heardOf now else c := by
  have hid (c : Consumer) : (c.heardOf now).id = c.id := rfl
  rw [get?_overwritten, get?_byId_map hid]
  cases hb : (byId hosts).get? i with
  | some c =>
    obtain ⟨hc, hid⟩ := mem_of_get?_byId hb
    obtain ⟨j, hj⟩ := hhosts c hc
    have hij : some j = some i := (hfiled hj).symm.trans hid
    rw [Option.some.inj hij] at hj
    rw [hj, Option.map_some, Option.map_some, Option.some_or, if_pos hc]
  | none =>
    rw [Option.map_none, Option.none_or]
    cases hi : view.get? i with
    | none => rfl
    | some c =>
      have hother : c ∉ hosts := by
        intro hc
        have hwritten := contains_byId.mpr ⟨c, hc, hfiled hi⟩
        rw [Dict.contains, hb] at hwritten
        cases hwritten
      rw [Option.map_some, if_neg hother]

/-- A heartbeat writes consumers of the owner just as they are seen, but heard of. -/
theorem work_heartbeats (hfiled : FiledById t.view) (k reporter : String) (now : Timestamp) :
    ∃ ds, ((t.heartbeats k reporter now).writeTo t).2 = t.written ds ∧
      ∀ d ∈ ds, ∃ i c, (ownedPart t.view k).get? i = some c ∧ d = c.heardOf now := by
  have hheard : ∀ d ∈ (t.heartbeats k reporter now).attributes.map (keepingGuests t.view),
      ∃ i c, (ownedPart t.view k).get? i = some c ∧ d = c.heardOf now := by
    intro d hd
    simp only [heartbeats, List.map_map, List.mem_map, Function.comp_apply] at hd
    obtain ⟨c, hc, rfl⟩ := hd
    obtain ⟨i, hi⟩ := mem_ownedBy_iff.mp (List.mem_filter.mp hc).1
    exact ⟨i, c, hi, keepingGuests_heardOf hfiled (get?_ownedPart_eq_some_iff.mp hi).1 now⟩
  unfold Batches.writeTo
  cases hattributes : (t.heartbeats k reporter now).writeAttributes t with
  | error e => exact ⟨[], rfl, fun _ hd => by simp at hd⟩
  | ok t₁ => exact ⟨_, Batches.eq_of_writeAttributes hattributes, hheard⟩

/-- Views that show the same of the owner give the same batch. -/
theorem SameFor.heartbeats {t' : Transaction} (h : t.SameFor k t') (reporter : String)
    (now : Timestamp) : t.heartbeats k reporter now = t'.heartbeats k reporter now := by
  rw [Transaction.heartbeats, Transaction.heartbeats, h.consumersOfReporter]

end Transaction

/-- A heartbeat writes consumers of the owner that were seen. -/
theorem Session.keeps_heartbeats {σ : Session} (hfiled : FiledById σ.work.view)
    (k reporter : String) (now : Timestamp) :
    σ.Keeps k ((σ.work.heartbeats k reporter now).flushIn σ).2 := by
  obtain ⟨ds, hwork, hds⟩ := (σ.work.heartbeats k reporter now).writeTo_work σ.work
  refine ⟨⟨ds, hwork, fun d hd => ?_⟩, .refl _, .refl _⟩
  obtain ⟨c, hc, hwritten⟩ := hds d hd
  have hc : c ∈ (σ.work.heartbeats k reporter now).attributes := by
    simpa [Transaction.heartbeats] using hc
  obtain ⟨i, c₀, hi, hheard⟩ := Transaction.seen_of_heartbeats hc
  have hrewrites := hheard.trans hwritten
  obtain ⟨ho, hid⟩ := hrewrites.of_seen hfiled hi
  exact ⟨ho, i, hid, Or.inr ⟨c₀, hi, hrewrites.2.1.symm⟩⟩

end HostRoster
