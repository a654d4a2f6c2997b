import HostRoster.Proofs.Run.Clashes
import HostRoster.Proofs.Run.Contents

/-!
# Guests that moved

A run lists the guests that are new to the hosts that it has written, if the owner has consumers for
them. What is new follows from the plans, which are made before anything is written; a plan for a
host that is not written in the end counts for nothing. Of several consumers that are the same
guest the one with the greatest id is listed.
-/

namespace HostRoster

/-- Whether the machine is a guest, in whatever spelling. -/
def Consumer.isGuest (c : Consumer) (guest : String) : Bool :=
  c.virtUuid?.any (Text.sameLetters · guest)

/-- The guests that are new to the host of an entry once it has come to a state, each with the uuid
of the host. -/
def HostEntry.arrivals (e : HostEntry) (before : Registry) : HostState → List (String × String)
  | .created s => e.guests.map fun g => (s.uuid, g)
  | .updated s =>
    (e.guests.filter fun g => !(before.withUuid? s.uuid).any (·.hasGuest g)).map fun g =>
      (s.uuid, g)
  | .failed _ _ => []

/-- What an entry comes to in a run for an owner, given the hosts that are known before. -/
inductive HostEntry.ComesTo (e : HostEntry) (ownerKey : String) (known : KnownHosts)
    (before : Registry) : HostState → Prop where
  /-- A host that is not known is registered. -/
  | created (uuid : String) (hmeant : e.meant? known = none) :
    ComesTo e ownerKey known before (.created ⟨uuid, e.name, ownerKey⟩)
  /-- The host of the owner that is meant is changed. -/
  | updated (c : Consumer) (hmeant : e.meant? known = some c) (howner : c.ownerKey = ownerKey)
    (hbefore : before.withUuid? c.uuid = some c) :
    ComesTo e ownerKey known before (.updated c.summary)
  /-- The entry is refused. -/
  | refused (r : Refusal) (hr : r.Concerns e) : ComesTo e ownerKey known before (r.state e.hostKey)

/-- A migration tells that a guest of an owner has come to a host. -/
structure Migration.TellsOf (m : Migration) (ownerKey : String) (before : Registry)
    (arrival : String × String) : Prop where
  /-- The host is the one that has the guest now. -/
  host : m.hostUuid = arrival.1
  /-- The guest is spelled as it was reported. -/
  guest : m.guest = arrival.2
  /-- Of the consumers of the owner that are the guest it is the one with the greatest id. -/
  consumer : ∃ i c, before.consumers.get? i = some c ∧ c.ownerKey = ownerKey ∧
    c.isGuest m.guest = true ∧ m.guestUuid = c.uuid ∧
      ∀ j d, before.consumers.get? j = some d → d.ownerKey = ownerKey →
        d.isGuest m.guest = true → j ≤ i

/-- An outcome tells which guests of an owner have come to the hosts of a report, given what became
of its entries. -/
structure Outcome.TellsOfArrivals (outcome : Outcome) (ownerKey : String) (es : List HostEntry)
    (s : Store) (states : List HostState) : Prop where
  /-- Each entry has come to its state. -/
  entries : List.Forall₂ (fun e state => e.ComesTo ownerKey (s.start.knownHosts ownerKey es)
    s.registry state) es states
  /-- The lists of the outcome hold these states. -/
  lists : outcome.Lists states
  /-- In the order of the report, the outcome tells of every guest that is new to its host and that
  the owner had a consumer for, and of nothing else. -/
  migrated : List.Forall₂ (fun arrival m => m.TellsOf ownerKey s.registry arrival)
    (((es.zip states).flatMap fun x => x.1.arrivals s.registry x.2).filter fun arrival =>
      (s.registry.ownedBy ownerKey).any (·.isGuest arrival.2)) outcome.migrated

theorem Keys.isEmpty_eq_false_of_contains {s : Keys} {k : String} (h : s.contains k = true) :
    s.isEmpty = false := by
  cases hempty : s.isEmpty with
  | false => rfl
  | true =>
    rw [Dict.isEmpty_iff.mp hempty k] at h
    cases h

namespace Transaction

variable {t : Transaction} {k g : String} {es : List HostEntry} {e : HostEntry}

/-- A consumer is taken in for the guest that it is. -/
theorem get?_addGuest {guestIds : Keys} (hg : guestIds.contains (Text.lower g) = true)
    (known : KnownGuests) (c : Consumer) :
    (addGuest guestIds known c).get? g = if c.isGuest g then some c else known.get? g := by
  rw [addGuest, Consumer.isGuest]
  cases c.virtUuid? with
  | none => simp
  | some v =>
    rw [Option.any_some, Text.sameLetters]
    by_cases hv : Text.lower v = Text.lower g
    · simp [hv, hg, KnownGuests.insert, KnownGuests.get?]
    · rw [beq_false_of_ne hv, if_neg Bool.false_ne_true]
      by_cases hwanted : guestIds.contains (Text.lower v) = true
      · simp only [hwanted, if_true]
        exact Dict.get?_insert_of_ne _ _ hv
      · simp only [hwanted, Bool.false_eq_true, if_false]

/-- Of the consumers that are a guest the last one is known. -/
theorem get?_foldl_addGuest {guestIds : Keys} (hg : guestIds.contains (Text.lower g) = true)
    (cs : List Consumer) :
    (cs.foldl (addGuest guestIds) .empty).get? g = cs.findRev? (·.isGuest g) := by
  rw [List.findRev?_eq_find?_reverse]
  induction cs using List.reverseRecOn with
  | nil => rfl
  | append_singleton cs c ih =>
    rw [List.foldl_append, List.foldl_cons, List.foldl_nil, get?_addGuest hg, ih,
      List.reverse_append, List.reverse_singleton, List.singleton_append, List.find?_cons]
    cases c.isGuest g <;> rfl

/-- For a guest of an entry the last consumer of the owner that is the guest is known. -/
theorem get?_knownGuests (t : Transaction) (k : String) (he : e ∈ es) (hg : g ∈ e.guests) :
    (t.knownGuests k es).get? g = (t.ownedBy k).findRev? (·.isGuest g) := by
  have hreported : (reportedGuests es).contains (Text.lower g) = true :=
    Keys.contains_ofList.mpr (List.mem_map_of_mem (List.mem_flatMap.mpr ⟨e, he, hg⟩))
  rw [knownGuests, Keys.isEmpty_eq_false_of_contains hreported, if_neg Bool.false_ne_true,
    guestConsumers, get?_foldl_addGuest hreported]

end Transaction

/-- The migration of a guest that has come to a host, if the guest is registered. -/
def KnownGuests.migration? (known : KnownGuests) (arrival : String × String) : Option Migration :=
  (known.get? arrival.2).map fun c => ⟨arrival.2, c.uuid, arrival.1⟩

/-- The migrations to some hosts are those of the guests that are added to these hosts. -/
theorem map_filter_migrations (ms : List Mutation) (known : KnownGuests) (p : String → Bool) :
    ((migrations ms known).filter fun m => p m.1).map Prod.snd =
      (((ms.flatMap (·.addedGuests)).filter fun a => p a.1).map Prod.snd).filterMap
        known.migration? := by
  rw [migrations, List.filter_filterMap, List.map_filterMap, List.filterMap_map,
    List.filterMap_filter]
  refine List.filterMap_congr fun ⟨hostKey, hostUuid, g⟩ _ => ?_
  simp only [Function.comp_apply, KnownGuests.migration?]
  cases known.get? g with
  | none => simp
  | some c => cases hp : p hostKey <;> simp [hp]

/-- Of a host's guests all or none are kept by a condition on the host. -/
theorem map_filter_ofHost (guests : List String) (hostKey hostUuid : String) (p : String → Bool) :
    ((guests.map fun g => (hostKey, hostUuid, g)).filter fun a => p a.1).map Prod.snd =
      if p hostKey then guests.map fun g => (hostUuid, g) else [] := by
  rw [List.filter_map, List.map_map]
  cases hp : p hostKey <;> simp [hp, Function.comp_def]

/-- A guest is added to a host that did not list it in any spelling. -/
theorem Consumer.isNone_spelling?_guests (c : Consumer) (g : String) :
    (GuestDiff.spelling? (GuestDiff.keyed c.guests) (Text.lower g)).isNone = !c.hasGuest g := by
  rw [Bool.eq_iff_iff, Option.isNone_iff_eq_none, GuestDiff.spelling?_eq_none_iff, hasGuest,
    Bool.not_eq_true', List.any_eq_false]
  simp only [Text.sameLetters_iff, ne_eq]

namespace Planner

variable {p : Planner} {σ : Session} {es : List HostEntry} {before : Registry} {e : HostEntry}
  {state : String × HostState} {m : Mutation}

/-- A host that is meant is found by its uuid. -/
theorem withUuid?_of_meant? (hbefore : σ.work.view = before.consumers)
    (huuids : DistinctUuids before.consumers) {c : Consumer}
    (hmeant : e.meant? (σ.work.knownHosts p.owner.key es) = some c) :
    c.ownerKey = p.owner.key ∧ before.withUuid? c.uuid = some c := by
  obtain ⟨_, i, hi⟩ := exists_of_meant?_knownHosts hmeant
  obtain ⟨hseen, howner⟩ := get?_ownedPart_eq_some_iff.mp hi
  rw [hbefore] at hseen
  exact ⟨howner, Registry.withUuid?_eq_some huuids hseen⟩

/-- What is recorded for an entry says what its host has come to. -/
theorem Recorded.comesTo (h : p.Recorded σ es e state m)
    (hbefore : σ.work.view = before.consumers) (huuids : DistinctUuids before.consumers) :
    e.ComesTo p.owner.key (σ.work.knownHosts p.owner.key es) before state.2 := by
  cases h.fate with
  | updated c hmeant =>
    obtain ⟨howner, hfound⟩ := withUuid?_of_meant? hbefore huuids hmeant
    exact .updated c hmeant howner hfound
  | created uuid i _ hmeant _ => exact .created uuid hmeant
  | rejected uuid cause => exact .refused (.notCreated e.name cause) rfl
  | refused r hr => exact .refused r hr

/-- The guests that a plan adds to a host come to it if the host is written. -/
theorem Recorded.arrivals (h : p.Recorded σ es e state m)
    (hbefore : σ.work.view = before.consumers) (huuids : DistinctUuids before.consumers)
    {succeeded : String → Bool} (hstate : succeeded state.1 = state.2.isSuccess) :
    (m.addedGuests.filter fun a => succeeded a.1).map Prod.snd = e.arrivals before state.2 := by
  cases h.fate with
  | updated c hmeant =>
    have hsucceeded : succeeded e.hostKey = true := hstate
    have hadded : (p.hostChanges e c).guests.additions =
        e.guests.filter fun g => !c.hasGuest g := by
      rw [hostChanges, replaceGuests, GuestDiff.additions_between]
      exact List.filter_congr fun g _ => c.isNone_spelling?_guests g
    obtain ⟨_, hfound⟩ := withUuid?_of_meant? hbefore huuids hmeant
    have huuid : (p.changedHost e c).summary.uuid = c.uuid := rfl
    rw [HostEntry.arrivals, huuid, hfound, Mutation.addedGuests, hadded, map_filter_ofHost,
      if_pos hsucceeded]
    rfl
  | created uuid i _ _ _ =>
    have hsucceeded : succeeded e.hostKey = true := hstate
    rw [Mutation.addedGuests, map_filter_ofHost, if_pos hsucceeded]
    rfl
  | rejected uuid cause =>
    -- Guests were planned for the host, but it is not there in the end.
    have hfailed : succeeded e.hostKey = false := hstate
    rw [Mutation.addedGuests, map_filter_ofHost, hfailed]
    rfl
  | refused r _ => rfl

/-- Every entry comes to the state that is recorded for it. -/
theorem forall₂_comesTo (hσ : σ.outages = .none) (hbefore : σ.work.view = before.consumers)
    (huuids : DistinctUuids before.consumers) :
    List.Forall₂
      (fun e state => e.ComesTo p.owner.key (σ.work.knownHosts p.owner.key es) before state)
      es (p.outcomes σ es) := by
  rw [outcomes, List.forall₂_map_right_iff]
  refine (p.forall₂_recorded hσ es).imp fun e state hrecorded => ?_
  obtain ⟨m, hm⟩ := hrecorded
  exact hm.comesTo hbefore huuids

/-- The migrations that are recorded are those of the guests that come to hosts. -/
theorem migrated_tally (hσ : σ.outages = .none) (hes : CleanEntries es)
    (hbefore : σ.work.view = before.consumers) (huuids : DistinctUuids before.consumers) :
    (p.tally σ es).migrated =
      ((es.zip (p.outcomes σ es)).flatMap fun x => x.1.arrivals before x.2).filterMap
        (σ.work.knownGuests p.owner.key es).migration? := by
  have hplans := p.forall₂_planEntries (σ.work.knownHosts p.owner.key es) σ.supplies.uuids es
  have harrivals : (p.plans σ es).1.map (fun m => (m.addedGuests.filter fun a =>
        ((Tally.start p.createMissing).recordAll (p.carried σ es).states).succeeded a.1).map
          Prod.snd) =
      (es.zip (p.carried σ es).states).map fun x => x.1.arrivals before x.2.2 := by
    refine Lists.map_eq_map_zip (Lists.forall₂_mem hplans) (p.forall₂_yields hσ es)
      fun hstate hplan hyields => ?_
    obtain ⟨_, hm, hplanned⟩ := hplan
    have hrecorded := Recorded.mk hm hplanned hyields
    exact hrecorded.arrivals hbefore huuids (succeeded_recordAll_carried hes _ hstate)
  rw [tally, Tally.recordMigrations_migrated, map_filter_migrations, List.filter_flatMap,
    List.map_flatMap, List.flatMap_def, harrivals, outcomes, List.zip_map_right, List.flatMap_map,
    List.flatMap_def, recordAll_carried hes]
  rfl

end Planner

/-- Guests that come to the host of an entry are reported in the entry. -/
theorem HostEntry.mem_guests_of_arrivals {e : HostEntry} {before : Registry} {state : HostState}
    {arrival : String × String} (h : arrival ∈ e.arrivals before state) : arrival.2 ∈ e.guests := by
  cases state with
  | created s =>
    obtain ⟨g, hg, rfl⟩ := List.mem_map.mp h
    exact hg
  | updated s =>
    obtain ⟨g, hg, rfl⟩ := List.mem_map.mp h
    exact (List.mem_filter.mp hg).1
  | failed kind message => cases h

/-- The last consumer of an owner that is a guest is the one with the greatest id. -/
theorem Registry.tellsOf_of_findRev? {before : Registry} {ownerKey : String}
    {arrival : String × String} {c : Consumer}
    (h : (before.ownedBy ownerKey).findRev? (·.isGuest arrival.2) = some c) :
    (Migration.mk arrival.2 c.uuid arrival.1).TellsOf ownerKey before arrival := by
  rw [ownedBy, ← values_ownedPart] at h
  obtain ⟨hguest, i, hi, hgreatest⟩ := Dict.exists_greatest_of_findRev?_values h
  obtain ⟨hseen, howner⟩ := get?_ownedPart_eq_some_iff.mp hi
  refine ⟨rfl, rfl, i, c, hseen, howner, hguest, rfl, fun j d hj hdo hd => ?_⟩
  exact hgreatest j d (get?_ownedPart_eq_some_iff.mpr ⟨hj, hdo⟩) hd

/-- Of guests of entries those that the owner has a consumer for are told of, in order. -/
theorem Store.tellsOf_knownGuests {s : Store} {ownerKey : String} {es : List HostEntry}
    {arrivals : List (String × String)}
    (hguests : ∀ arrival ∈ arrivals, ∃ e ∈ es, arrival.2 ∈ e.guests) :
    List.Forall₂ (fun arrival m => m.TellsOf ownerKey s.registry arrival)
      (arrivals.filter fun arrival => (s.registry.ownedBy ownerKey).any (·.isGuest arrival.2))
      (arrivals.filterMap (s.start.knownGuests ownerKey es).migration?) := by
  have hknown : ∀ arrival ∈ arrivals, (s.start.knownGuests ownerKey es).migration? arrival =
      ((s.registry.ownedBy ownerKey).findRev? (·.isGuest arrival.2)).map fun c =>
        ⟨arrival.2, c.uuid, arrival.1⟩ := by
    intro arrival harrival
    obtain ⟨e, he, hg⟩ := hguests arrival harrival
    rw [KnownGuests.migration?, s.start.get?_knownGuests ownerKey he hg]
    rfl
  have hsome : ∀ arrival ∈ arrivals, (s.registry.ownedBy ownerKey).any (·.isGuest arrival.2) =
      ((s.start.knownGuests ownerKey es).migration? arrival).isSome := by
    intro arrival harrival
    rw [hknown arrival harrival, Option.isSome_map, List.findRev?_eq_find?_reverse,
      Bool.eq_iff_iff, List.any_eq_true, List.find?_isSome]
    simp only [List.mem_reverse]
  rw [List.filter_congr hsome]
  refine Lists.forall₂_filterMap fun arrival harrival m hm => ?_
  rw [hknown arrival harrival, Option.map_eq_some_iff] at hm
  obtain ⟨c, hc, rfl⟩ := hm
  exact Registry.tellsOf_of_findRev? hc

namespace Planner.Reconciles

variable {p : Planner} {es : List HostEntry} {s s' : Store} {outcome : Outcome}

/-- The outcome of a run tells of the arrivals. -/
theorem tellsOfArrivals (h : p.Reconciles es s outcome s') (hes : CleanEntries es)
    (huuids : DistinctUuids s.registry.consumers) :
    outcome.TellsOfArrivals p.owner.key es s (p.outcomes (.start s .none) es) where
  entries := forall₂_comesTo (σ := .start s .none) rfl rfl huuids
  lists := h.lists hes
  migrated := by
    have houtcome : (p.tally (.start s .none) es).migrated = outcome.migrated :=
      congrArg Outcome.migrated h.outcome
    rw [← houtcome, migrated_tally (σ := .start s .none) rfl hes rfl huuids]
    exact Store.tellsOf_knownGuests fun arrival harrival => by
      obtain ⟨⟨e, state⟩, hentry, hmem⟩ := List.mem_flatMap.mp harrival
      exact ⟨e, (List.of_mem_zip hentry).1, HostEntry.mem_guests_of_arrivals hmem⟩

end Planner.Reconciles

/-- A run that is left alone tells of the guests that come to hosts, one by one and in the order of
the report, provided that uuids differ in the store. A guest has come to a host that was written if
the host did not list it before in any spelling; it is told of if the owner had a consumer for it,
by the uuid of the one with the greatest id. -/
theorem Store.reconcile_tells_of_arrivals {s s' : Store} {c : Circumstances} {r : Request}
    {outcome : Outcome} (huuids : DistinctUuids s.registry.consumers) (hout : c.outages = .none)
    (halone : c.competitor = none) (hrun : s.reconcile c r = (.ok outcome, s')) :
    ∃ o, s.registry.owners.get? r.ownerKey = some o ∧
      outcome.TellsOfArrivals o.key r.report.entries s
        ((r.planner c.authorizer c.now o).outcomes (.start s .none) r.report.entries) := by
  obtain ⟨o, ho, h⟩ := Store.exists_reconciles hout halone hrun
  exact ⟨o, ho, h.tellsOfArrivals r.report.cleanEntries huuids⟩

/-- Two consumers are one guest, which comes to a host that is changed and to one that is
registered. A host that is rejected had it too, and another guest is only spelled differently. -/
theorem Store.reconcile_tells_of_arrivals_shared :
    let noon : ClockTime := ⟨12, 0, 0, 0⟩
    let now : Timestamp := ⟨⟨2024, 1, 1⟩, noon, by decide, by decide⟩
    let host : Consumer :=
      ⟨some "1", "x", "x", "a", .hypervisor, some ⟨"old", none⟩, ["h"], .empty, none⟩
    let machine (id uuid guest : String) : Consumer :=
      ⟨some id, uuid, uuid, "a", .system, none, [], Dict.empty.insert virtUuidFact guest, none⟩
    let s : Store :=
      ⟨{ Registry.empty.addOwner (.named "a") with
          consumers :=
            (((Dict.empty.insert "1" host).insert "2" (machine "2" "v" "G")).insert
              "3" (machine "3" "w" "g")).insert "4" (machine "4" "y" "h") },
        ⟨Dict.empty.insert "bad" "no", none⟩, .none, ⟨⟨fun _ => "5", 0⟩, ⟨fun _ => "z", 0⟩⟩, .given⟩
    let r : Request :=
      ⟨"a", true, none, .admin "root",
        ⟨[(ReportedHost.withId "Old").withGuests ["H", "G"],
          (ReportedHost.withId "New").withGuests ["g"],
          ((ReportedHost.withId "i").named "bad").withGuests ["g"]]⟩⟩
    let outcome : Outcome :=
      ⟨some [⟨"z", "New", "a"⟩], [⟨"x", "x", "a"⟩], ["Problem creating unit bad: no"], [],
        [⟨"G", "w", "x"⟩, ⟨"g", "w", "z"⟩]⟩
    let result := s.reconcile ⟨.byGrants, now, .none, none⟩ r
    result.1 = .ok outcome ∧ ∃ o, s.registry.owners.get? "a" = some o ∧
      outcome.TellsOfArrivals o.key r.report.entries s
        ((r.planner .byGrants now o).outcomes (.start s .none) r.report.entries) := by
  intro noon now host machine s r outcome result
  have hresult : result.1 = .ok outcome := by decide +kernel
  have huuids : DistinctUuids s.registry.consumers :=
    distinctUuids_of_nodup (by decide +kernel)
  have hrun : result = (.ok outcome, result.2) := by rw [← hresult]
  obtain ⟨o, ho, htells⟩ := Store.reconcile_tells_of_arrivals huuids rfl rfl hrun
  exact ⟨hresult, o, ho, htells⟩

end HostRoster
