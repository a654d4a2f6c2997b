import HostRoster.Proofs.Run.Clashes
import HostRoster.Proofs.Run.Success

/-!
# Batches and single writes

Instead of being collected, changed consumers could be written one by one where their plans stand.
This comes to the same, since the plans of a run write different consumers under different ids, and
none of them waits for an id that another one gives up. So an update may be put off until all new
consumers are registered, and the order of updates does not matter.
-/

namespace HostRoster

/-- Carries out plans one by one, each changed consumer by a call of its own. -/
def Tally.walk (t : Tally) : List Mutation → StateM Session (Tally × Except StoreError Unit)
  | [] => return (t, .ok ())
  | .create hostKey c :: rest => do (← t.create hostKey c).walk rest
  | .update hostKey c _ :: rest => do
    match ← (Act.updateMemberships [c]).run with
    | .error e => return (t, .error e)
    | .ok () => (t.record hostKey (.updated c.summary)).walk rest
  | .skip _ :: rest => t.walk rest
  | .failed hostKey message kind :: rest => (t.record hostKey (.failed kind message)).walk rest

section equations

variable {t : Tally} {σ τ : Session} {hostKey : String} {c : Consumer} {rest : List Mutation}

/-- A host that cannot be registered is recorded as failed on the way. -/
theorem Tally.run_walk_create_of_error {e : StoreError}
    (h : (Act.create c).run.run σ = (.error e, τ)) :
    (t.walk (.create hostKey c :: rest)).run σ =
      ((t.record hostKey ((Refusal.notCreated c.name e.message).state hostKey)).walk rest).run τ := by
  have hstep : (t.walk (.create hostKey c :: rest)).run σ =
      (((t.create hostKey c).run σ).1.walk rest).run ((t.create hostKey c).run σ).2 := rfl
  rw [hstep, run_create, h]

/-- A host that is registered is recorded as such. -/
theorem Tally.run_walk_create_of_ok {created : Consumer}
    (h : (Act.create c).run.run σ = (.ok created, τ)) :
    (t.walk (.create hostKey c :: rest)).run σ =
      ((t.record hostKey (.created created.summary)).walk rest).run τ := by
  have hstep : (t.walk (.create hostKey c :: rest)).run σ =
      (((t.create hostKey c).run σ).1.walk rest).run ((t.create hostKey c).run σ).2 := rfl
  rw [hstep, run_create, h]

/-- A host that is written by itself is recorded as changed. -/
theorem Tally.run_walk_update_of_ok {changes : Changes}
    (h : (Act.updateMemberships [c]).run.run σ = (.ok (), τ)) :
    (t.walk (.update hostKey c changes :: rest)).run σ =
      ((t.record hostKey (.updated c.summary)).walk rest).run τ := by
  rw [walk, StateT.run_bind]
  change (match ((Act.updateMemberships [c]).run.run σ).1 with
    | .error e => return (t, .error e)
    | .ok () => (t.record hostKey (.updated c.summary)).walk rest :
      StateM Session (Tally × Except StoreError Unit)).run
        ((Act.updateMemberships [c]).run.run σ).2 = _
  rw [h]

end equations

/-- The changed consumers of plans, in order. -/
def changedInOrder (ms : List Mutation) : List Consumer :=
  (ms.filterMap Mutation.changes?).map Prod.fst

/-- The batches have the changed consumers of the plans in another order. -/
theorem perm_changedConsumers (ms : List Mutation) :
    (changedConsumers false ms ++ changedConsumers true ms).Perm (changedInOrder ms) := by
  unfold changedConsumers changedInOrder
  induction ms.filterMap Mutation.changes? with
  | nil => exact .nil
  | cons e rest ih =>
    obtain ⟨c, guests⟩ := e
    cases guests with
    | false => exact ih.cons c
    | true => exact List.perm_middle.trans (ih.cons c)

theorem changedInOrder_append (ms ms' : List Mutation) :
    changedInOrder (ms ++ ms') = changedInOrder ms ++ changedInOrder ms' := by
  rw [changedInOrder, List.filterMap_append, List.map_append]
  rfl

/-- A mutation that changes a consumer has it in its list. -/
theorem changedInOrder_of_changes? {m : Mutation} {c : Consumer} {guests : Bool}
    (h : m.changes? = some (c, guests)) : changedInOrder [m] = [c] := by
  simp [changedInOrder, h]

theorem changedInOrder_of_eq_none {m : Mutation} (h : m.changes? = none) :
    changedInOrder [m] = [] := by
  simp [changedInOrder, h]

/-- The consumers in order are those that mutations change. -/
theorem mem_changedInOrder {ms : List Mutation} {c : Consumer} :
    c ∈ changedInOrder ms ↔ ∃ m ∈ ms, ∃ guests, m.changes? = some (c, guests) := by
  rw [changedInOrder, List.mem_map]
  constructor
  · rintro ⟨⟨d, guests⟩, hd, rfl⟩
    obtain ⟨m, hm, hc⟩ := List.mem_filterMap.mp hd
    exact ⟨m, hm, guests, hc⟩
  · rintro ⟨m, hm, guests, hc⟩
    exact ⟨(c, guests), List.mem_filterMap.mpr ⟨m, hm, hc⟩, rfl⟩

namespace Planner

variable {p : Planner} {σ : Session} {es : List HostEntry} {done rest : List Mutation}
  {m : Mutation} {t : Transaction}

/-- A consumer that the plans change was found under its id. -/
theorem found_of_mem_changedInOrder (hfiled : FiledById σ.work.view)
    (hsub : done ⊆ (p.plans σ es).1) {c : Consumer} (hc : c ∈ changedInOrder done) :
    ∃ i d, c.id = some i ∧ σ.work.view.get? i = some d ∧ d.uuid = c.uuid := by
  obtain ⟨m, hm, guests, hchanges⟩ := mem_changedInOrder.mp hc
  obtain ⟨i, d, hi, hd⟩ := p.seen_of_changes? σ es (hsub hm) hchanges
  exact ⟨i, d, (hd.of_seen hfiled hi).2, (get?_ownedPart_eq_some_iff.mp hi).1, hd.2.1.symm⟩

/-- No two of them have one id. -/
theorem pairwise_changedInOrder (p : Planner) (hfiled : FiledById σ.work.view)
    (es : List HostEntry) :
    (changedInOrder (p.plans σ es).1).Pairwise fun c c' => c.id ≠ c'.id :=
  List.pairwise_map.mpr (pairwise_changes (p.pairwise_ids hfiled es))

/-- A consumer with an id that was not in use may be written before or after changed ones. -/
theorem written_comm (hfiled : FiledById σ.work.view) (hsub : done.Sublist (p.plans σ es).1)
    {i : String} (hfresh : σ.work.view.contains i = false) (t : Transaction) (c : Consumer) :
    (t.written (changedInOrder done)).written [{ c with id := some i }] =
      (t.written [{ c with id := some i }]).written (changedInOrder done) := by
  have hids : (changedInOrder done).Pairwise fun d d' => d.id ≠ d'.id :=
    (p.pairwise_changedInOrder hfiled es).sublist ((hsub.filterMap _).map _)
  have hnew : (changedInOrder done ++ [{ c with id := some i }]).Pairwise
      fun (d d' : Consumer) => d.id ≠ d'.id := by
    refine List.pairwise_append.mpr ⟨hids, List.pairwise_singleton _ _, fun d hd d' hd' heq => ?_⟩
    obtain ⟨j, d₀, hj, hd₀, _⟩ := found_of_mem_changedInOrder hfiled hsub.subset hd
    rw [List.mem_singleton.mp hd', hj, Option.some.injEq] at heq
    rw [← heq, Dict.contains, hd₀] at hfresh
    cases hfresh
  rw [← Transaction.written_append, ← Transaction.written_append]
  exact t.written_perm List.perm_append_comm hnew

section registering

variable (hkept : WellKept σ.work.view p.owner.key) (hes : CleanEntries es)
  (hplans : (p.plans σ es).1 = done ++ m :: rest) {c : Consumer} (hc : m.registers? = some c)

include hkept hes hplans hc

/-- The id of a consumer that is to be registered has no holder by then. -/
theorem held?_ne_of_registers? (h : p.InOrder σ done t) {i : String} {d : Consumer}
    (hi : t.view.get? i = some d) : d.held? p.owner.key ≠ c.held? p.owner.key := by
  intro hheld
  have hm : m ∈ (p.plans σ es).1 := by simp [hplans]
  obtain ⟨e, he, hmeant, _, uuid, _, rfl⟩ := of_registers? hm hc
  have hnew : (p.newHost e uuid).held? p.owner.key = some e.hypervisorId :=
    (reflects_newHost (hes.clean e he) uuid).held?
  rcases h.traces hi with hseen | ⟨m', hm', d', hd', _, hheld'⟩
  · -- What holds the id at first is found by it, but the entry means no known host.
    have hknown := Transaction.withHypervisorId?_knownHosts hkept.uuids hkept.oneHolder he
      (hes.clean e he) hseen (hheld.trans hnew)
    rw [HostEntry.meant?, Option.or_eq_none_iff] at hmeant
    rw [hmeant.2] at hknown
    cases hknown
  · -- A plan before this one does not write its id.
    have hapart := p.pairwise_held? σ hes
    rw [hplans, List.pairwise_append] at hapart
    exact hapart.2.2 m' hm' m List.mem_cons_self d' _ hd' (Mutation.writes?_of_registers? hc)
      (hheld'.symm.trans hheld)

/-- A new consumer takes no id of the owner that another one holds. -/
theorem oneHolder_registered (h : p.InOrder σ done t) (i : String) :
    OneHolder (Transaction.overwritten t.view [{ c with id := some i }]) p.owner.key := by
  have hother {j : String} {d : Consumer} {x : String} (hj : t.view.get? j = some d)
      (hd : d.held? p.owner.key = some x) (hx : c.held? p.owner.key = some x) : False :=
    held?_ne_of_registers? hkept hes hplans hc h hj (hd.trans hx.symm)
  intro j j' d d' x hj hj' hd hd'
  rcases Transaction.get?_overwritten_cases hj with ⟨hnew, hid⟩ | hold
  · obtain rfl := List.mem_singleton.mp hnew
    rcases Transaction.get?_overwritten_cases hj' with ⟨hnew', hid'⟩ | hold'
    · obtain rfl := List.mem_singleton.mp hnew'
      exact Option.some.inj (hid.symm.trans hid')
    · exact (hother hold' hd' hd).elim
  · rcases Transaction.get?_overwritten_cases hj' with ⟨hnew', _⟩ | hold'
    · obtain rfl := List.mem_singleton.mp hnew'
      exact (hother hold hd hd').elim
    · exact h.oneHolder hold hold' hd hd'

/-- Registering a consumer leaves the unit of work in order. -/
theorem InOrder.registered (h : p.InOrder σ done t) (i : String) :
    p.InOrder σ (done ++ [m]) (t.written [{ c with id := some i }]) where
  faults := h.faults
  contains j hj := Transaction.contains_overwritten (h.contains j hj)
  traces := by
    refine (h.traces.mono (List.subset_append_left done [m])).registered fun c' hc' => ?_
    obtain rfl := List.mem_singleton.mp hc'
    have hm : m ∈ (p.plans σ es).1 := by simp [hplans]
    obtain ⟨_, _, _, _, _, _, rfl⟩ := of_registers? hm hc
    exact ⟨m, by simp, _, hc, rfl, i, rfl⟩
  oneHolder := oneHolder_registered hkept hes hplans hc h i

/-- It is rejected for its name or its uuid only. -/
theorem InOrder.create_eq (h : p.InOrder σ done t) (i : String) :
    t.create i c = (t.checkNew c).map fun _ =>
      ({ c with id := some i }, t.written [{ c with id := some i }]) := by
  have hident :
      Transaction.checkIdentities t.listing t.view [{ c with id := some i }] = .ok () := by
    refine Transaction.checkIdentities_eq_ok_iff.mpr fun c' hc' => ?_
    obtain rfl := List.mem_singleton.mp hc'
    have hm : m ∈ (p.plans σ es).1 := by simp [hplans]
    have howner : c.ownerKey = p.owner.key := (p.registers_plans σ es m hm c hc).1
    have hone := oneHolder_registered hkept hes hplans hc h i
    rw [← howner] at hone
    exact hone
  rw [Transaction.create_eq, hident]
  cases t.checkNew c <;> rfl

end registering

/-- One more mutation may be done. -/
theorem InOrder.mono (h : p.InOrder σ done t) (m : Mutation) : p.InOrder σ (done ++ [m]) t :=
  ⟨h.faults, h.contains, h.traces.mono (List.subset_append_left done [m]), h.oneHolder⟩

/-- A session in which some plans were passed, and one in which they were carried out one by one. -/
structure Abreast (p : Planner) (σ : Session) (done : List Mutation) (β ν : Session) : Prop where
  /-- No call of the first is out of order. -/
  outages : β.outages = .none
  /-- No call of the second is. -/
  outages' : ν.outages = .none
  /-- They draw from the same supplies. -/
  supplies : ν.supplies = β.supplies
  /-- What was found at first is unchanged in the first. -/
  found : ∀ i c, σ.work.view.get? i = some c → β.work.view.get? i = some c
  /-- The first is in order. -/
  pass : p.InOrder σ done β.work
  /-- So is the second. -/
  walk : p.InOrder σ done ν.work
  /-- The second has written the changed consumers on top. -/
  work : ν.work = β.work.written (changedInOrder done)

namespace Abreast

variable {β ν : Session} {c : Consumer}

/-- At the start the pass and the walk are abreast. -/
theorem start (hσ : σ.outages = .none) (hkept : WellKept σ.work.view p.owner.key) :
    p.Abreast σ [] (p.planned σ es) (p.planned σ es) :=
  have horder : p.InOrder σ [] σ.work :=
    ⟨rfl, fun _ h => h, Traces.refl p [] σ.work.view, hkept.oneHolder⟩
  ⟨hσ, hσ, rfl, fun _ _ h => h, horder, horder, rfl⟩

/-- A plan that writes nothing is passed. -/
theorem idle (h : p.Abreast σ done β ν) (hm : m.changes? = none) :
    p.Abreast σ (done ++ [m]) β ν where
  outages := h.outages
  outages' := h.outages'
  supplies := h.supplies
  found := h.found
  pass := h.pass.mono m
  walk := h.walk.mono m
  work := by rw [changedInOrder_append, changedInOrder_of_eq_none hm, List.append_nil, h.work]

/-- Whether a consumer may be registered does not depend on the changes that are put off. -/
theorem checkNew_eq (h : p.Abreast σ done β ν) (hfiled : FiledById σ.work.view)
    (hsub : done ⊆ (p.plans σ es).1) (c : Consumer) :
    ν.work.checkNew c = β.work.checkNew c := by
  have hkeeps : Transaction.KeepsUuids β.work.view (changedInOrder done) := by
    intro d hd
    obtain ⟨i, d', hi, hd', huuid⟩ := found_of_mem_changedInOrder hfiled hsub hd
    exact ⟨i, d', hi, h.found i d' hd', huuid⟩
  rw [h.work, hkeeps.checkNew]

section steps

variable (hkept : WellKept σ.work.view p.owner.key) (hes : CleanEntries es)
  (hplans : (p.plans σ es).1 = done ++ m :: rest)

include hkept hes hplans

/-- A changed consumer is written at once in the walk and comes last of what is put off. -/
theorem update (h : p.Abreast σ done β ν) (hfaults : σ.work.faults.bulkFailure = none)
    {guests : Bool} (hc : m.changes? = some (c, guests)) :
    ∃ ν', (Act.updateMemberships [c]).run.run ν = (.ok (), ν') ∧
      p.Abreast σ (done ++ [m]) β ν' := by
  obtain ⟨t, u, s, o⟩ := ν
  obtain rfl : o = .none := h.outages'
  have hsub : done ++ [m] ⊆ (p.plans σ es).1 := by
    rw [hplans]
    simp
  have hchanged : p.Changed (done ++ [m]) [c] := by
    intro c' hc'
    obtain rfl := List.mem_singleton.mp hc'
    exact ⟨m, by simp, c', guests, hc, rfl, rfl⟩
  have hcheck : t.checkBulk [c] = .ok () :=
    (h.walk.mono m).checkBulk hkept hes hsub hchanged hfaults
  have hwrite : t.updateMemberships [c] = .ok (t.written [c]) :=
    Transaction.updateMemberships_eq_ok_iff.mpr ⟨hcheck, rfl⟩
  refine ⟨⟨t.written [c], { u with membershipUpdates := u.membershipUpdates + 1 }, s, .none⟩,
    ?_, ?_⟩
  · rw [Act.run_updateMemberships, hwrite]
  · refine ⟨h.outages, rfl, h.supplies, h.found, h.pass.mono m,
      (h.walk.mono m).written hkept hes hsub hchanged, ?_⟩
    have hwork : t = β.work.written (changedInOrder done) := h.work
    rw [changedInOrder_append, changedInOrder_of_changes? hc, Transaction.written_append, ← hwork]

/-- A new consumer is rejected in both sessions for the same reason, or it is registered in both. -/
theorem create (h : p.Abreast σ done β ν) (hc : m.registers? = some c)
    (hm : m.changes? = none) :
    (∃ e β' ν', (Act.create c).run.run β = (.error e, β') ∧
        (Act.create c).run.run ν = (.error e, ν') ∧ β'.supplies = β.supplies ∧
        p.Abreast σ (done ++ [m]) β' ν') ∨
      ∃ c' β' ν', (Act.create c).run.run β = (.ok c', β') ∧
        (Act.create c).run.run ν = (.ok c', ν') ∧ β'.outages = .none ∧
        β'.supplies.ids = β.supplies.ids.rest ∧
        (σ.work.view.contains β.supplies.ids.next = false →
          p.Abreast σ (done ++ [m]) β' ν') := by
  have hsub : done.Sublist (p.plans σ es).1 := by
    rw [hplans]
    exact List.sublist_append_left done _
  have hnew := h.checkNew_eq hkept.filed hsub.subset c
  obtain ⟨t, u, s, o⟩ := β
  obtain ⟨t', u', s', o'⟩ := ν
  obtain ⟨rfl, rfl, rfl⟩ : o = .none ∧ o' = .none ∧ s' = s := ⟨h.outages, h.outages', h.supplies⟩
  rw [Act.run_create, Act.run_create, h.pass.create_eq hkept hes hplans hc,
    h.walk.create_eq hkept hes hplans hc]
  simp only at hnew
  rw [hnew]
  cases t.checkNew c with
  | error e =>
    refine Or.inl ⟨e, _, _, rfl, rfl, rfl, ?_⟩
    exact ⟨rfl, rfl, rfl, h.found, h.pass.mono m, h.walk.mono m, (h.idle hm).work⟩
  | ok _ =>
    refine Or.inr ⟨_, _, _, rfl, rfl, rfl, rfl, fun hfresh => ?_⟩
    refine ⟨rfl, rfl, rfl, fun i d hi => ?_, h.pass.registered hkept hes hplans hc _,
      h.walk.registered hkept hes hplans hc _, ?_⟩
    · have hne : s'.ids.next ≠ i := by
        rintro rfl
        rw [Dict.contains, hi] at hfresh
        cases hfresh
      have hfound := h.found i d hi
      simp only at hfound ⊢
      rw [Transaction.written_cons, Transaction.written_nil, Transaction.get?_write, if_neg, hfound]
      exact fun heq => hne (Option.some.inj heq)
    · have hwork : t' = t.written (changedInOrder done) := h.work
      simp only
      rw [changedInOrder_append, changedInOrder_of_eq_none hm, List.append_nil, hwork]
      exact written_comm hkept.filed hsub hfresh t c

end steps

/-- The walk comes to the states of the pass, with the changed consumers on top of what the pass has
written. -/
theorem run_walk (hkept : WellKept σ.work.view p.owner.key) (hes : CleanEntries es)
    (hfaults : σ.work.faults.bulkFailure = none) (hplans : (p.plans σ es).1 = done ++ rest)
    (h : p.Abreast σ done β ν)
    (hfresh : ∀ i, β.supplies.ids.HandedOut (β.carry rest).session.supplies.ids i →
      σ.work.view.contains i = false) (t : Tally) :
    ∃ ν', (t.walk rest).run ν = ((t.recordAll (β.carry rest).states, .ok ()), ν') ∧
      ν'.work = (β.carry rest).session.work.written (changedInOrder (p.plans σ es).1) ∧
      ν'.supplies = (β.carry rest).session.supplies := by
  induction rest generalizing done β ν t with
  | nil =>
    rw [List.append_nil] at hplans
    exact ⟨ν, rfl, hplans ▸ h.work, h.supplies⟩
  | cons m rest ih =>
    have hnext : (p.plans σ es).1 = (done ++ [m]) ++ rest := by simp [hplans]
    cases m with
    | create hostKey c =>
      rcases h.create hkept hes hplans rfl rfl with
        ⟨e, β', ν', hβ, hν, hsupplies, habreast⟩ | ⟨c', β', ν', hβ, hν, hout, hids, habreast⟩
      · rw [Session.carry_create_of_error hβ] at hfresh ⊢
        rw [Tally.run_walk_create_of_error hν]
        exact ih hnext habreast (fun i hi => hfresh i (hsupplies ▸ hi)) _
      · rw [Session.carry_create_of_ok hβ] at hfresh ⊢
        rw [Tally.run_walk_create_of_ok hν]
        have hleads : β.supplies.ids.rest.Leads (β'.carry rest).session.supplies.ids :=
          hids ▸ (β'.carries hout rest).ids
        have hnew := hfresh _ (β.supplies.ids.handedOut_next.mono (.refl _) hleads)
        refine ih hnext (habreast hnew) (fun i hi => hfresh i ?_) _
        rw [hids] at hi
        exact hi.mono β.supplies.ids.leads_rest (.refl _)
    | update hostKey c changes =>
      obtain ⟨ν', hν, habreast⟩ := h.update hkept hes hplans hfaults rfl
      rw [Tally.run_walk_update_of_ok hν]
      exact ih hnext habreast hfresh _
    | skip hostKey => exact ih hnext (h.idle rfl) hfresh t
    | failed hostKey message kind => exact ih hnext (h.idle rfl) hfresh _

end Abreast

end Planner

/-- The pass counts neither writes of attributes nor writes of guests. -/
theorem Session.usage_carry (β : Session) (hβ : β.outages = .none) (ms : List Mutation) :
    (β.carry ms).session.usage.attributeUpdates = β.usage.attributeUpdates ∧
      (β.carry ms).session.usage.membershipUpdates = β.usage.membershipUpdates := by
  induction ms generalizing β with
  | nil => exact ⟨rfl, rfl⟩
  | cons m rest ih =>
    cases m with
    | create hostKey c =>
      obtain ⟨t, u, s, o⟩ := β
      obtain rfl : o = .none := hβ
      rcases Act.create_cases t u s c with ⟨e, _, hrun⟩ | ⟨_, _, hrun⟩
      · rw [Session.carry_create_of_error hrun]
        exact ih ⟨t, { u with creates := u.creates + 1 }, s, .none⟩ rfl
      · rw [Session.carry_create_of_ok hrun]
        exact ih ⟨_, { u with creates := u.creates + 1 }, { s with ids := s.ids.rest }, .none⟩ rfl
    | update hostKey c changes => exact ih β hβ
    | skip hostKey => exact ih β hβ
    | failed hostKey message kind => exact ih β hβ

/-- The batches are written by one call each at most. -/
theorem Batches.count_le (b : Batches) (t : Transaction) (u : Usage) :
    (b.count t u).attributeUpdates ≤ u.attributeUpdates + 1 ∧
      (b.count t u).membershipUpdates ≤ u.membershipUpdates + 1 := by
  unfold Batches.count
  cases b.attributes.isEmpty <;> cases b.memberships.isEmpty <;>
    cases b.writeAttributes t <;> simp

/-- What the batches write can be written in the order of the plans. -/
theorem Planner.work_flushed_inOrder {p : Planner} {σ : Session} {es : List HostEntry}
    (hσ : σ.outages = .none) (hfiled : FiledById σ.work.view) (hfresh : p.DrawsFresh σ es)
    (h : (p.flushed σ es).1 = .ok ()) :
    (p.flushed σ es).2.work =
      (p.carried σ es).session.work.written (changedInOrder (p.plans σ es).1) := by
  have hwork : (p.flushed σ es).2.work = (p.carried σ es).session.work.written (p.rewrites σ es) :=
    Batches.work_of_writeTo h
  have hperm := perm_changedConsumers (p.plans σ es).1
  have hids := (p.pairwise_changedInOrder hfiled es).perm hperm.symm fun hne => hne.symm
  rw [hwork, rewrites_eq hσ hfiled hfresh]
  exact Transaction.written_perm _ hperm hids

/-- Writing in batches refines writing one by one. Let the plans for a report be made in a unit of
work in which uuids differ and no id of the owner has two holders, and let not all writes of several
consumers be refused; the ids that are drawn are not in use. Then both ways record the same, none of
them fails, and they leave the same unit of work. The batches need one call of each kind at most. -/
theorem Tally.apply_eq_walk {p : Planner} {σ : Session} (report : Report) (hσ : σ.outages = .none)
    (hkept : WellKept σ.work.view p.owner.key) (hfaults : σ.work.faults.bulkFailure = none)
    (hfresh : p.DrawsFresh σ report.entries) (t : Tally) :
    let ms := (p.plans σ report.entries).1
    let batched := (t.apply ms).run (p.planned σ report.entries)
    let single := (t.walk ms).run (p.planned σ report.entries)
    batched.1 = single.1 ∧ batched.1.2 = .ok () ∧ batched.2.work = single.2.work ∧
      batched.2.supplies = single.2.supplies ∧
      batched.2.usage.attributeUpdates ≤ σ.usage.attributeUpdates + 1 ∧
      batched.2.usage.membershipUpdates ≤ σ.usage.membershipUpdates + 1 := by
  intro ms batched single
  have hes : CleanEntries report.entries := report.cleanEntries
  have hcarries := Planner.carries_carried (p := p) hσ report.entries
  have hflushed : (p.flushed σ report.entries).1 = .ok () :=
    Planner.flushed_of_faultless hkept hes hσ hfaults
  have hbatched : batched = ((t.recordAll (p.carried σ report.entries).states,
      (p.flushed σ report.entries).1), (p.flushed σ report.entries).2) := by
    have happly := t.run_apply ms (p.planned σ report.entries)
    have hflush := Batches.run_flush (Batches.of ms) hcarries.outages
    exact happly.trans (by rw [← Planner.carried, hflush]; rfl)
  obtain ⟨ν, hsingle, hwork, hsupplies⟩ :=
    (Planner.Abreast.start hσ hkept).run_walk hkept hes hfaults
    (List.nil_append _).symm (fun i hi => hfresh i (Supply.mem_handedOut.mpr hi)) t
  have hsingle : single = ((t.recordAll (p.carried σ report.entries).states, .ok ()), ν) := hsingle
  obtain ⟨hattributes, hmemberships⟩ := Session.usage_carry (p.planned σ report.entries) hσ ms
  obtain ⟨hattributes', hmemberships'⟩ := Batches.count_le (Batches.of ms)
    (p.carried σ report.entries).session.work (p.carried σ report.entries).session.usage
  rw [hbatched, hsingle, hflushed]
  refine ⟨rfl, rfl, ?_, hsupplies.symm, ?_, ?_⟩
  · rw [Planner.work_flushed_inOrder hσ hkept.filed hfresh hflushed]
    exact hwork.symm
  · exact hattributes'.trans_eq (congrArg (· + 1) hattributes)
  · exact hmemberships'.trans_eq (congrArg (· + 1) hmemberships)

/-- Of three hosts one changes its guests, one does not, and one is new in between. -/
theorem Tally.apply_eq_walk_three :
    let noon : ClockTime := ⟨12, 0, 0, 0⟩
    let now : Timestamp := ⟨⟨2024, 1, 1⟩, noon, by decide, by decide⟩
    let host (i h : String) : Consumer :=
      ⟨some i, h, h, "a", .hypervisor, some ⟨h, none⟩, ["g"], .empty, none⟩
    let s : Store :=
      ⟨{ Registry.empty.addOwner (.named "a") with
          consumers := (Dict.empty.insert "1" (host "1" "x")).insert "2" (host "2" "y") },
        .none, .none, ⟨⟨fun _ => "3", 0⟩, ⟨fun _ => "u", 0⟩⟩, .given⟩
    let σ : Session := .start s .none
    let p : Planner := ⟨.named "a", true, some "q", now, none⟩
    let report : Report :=
      ⟨[(ReportedHost.withId "X").withGuests ["k"], .withId "z",
        (ReportedHost.withId "y").withGuests ["g"]]⟩
    let ms := (p.plans σ report.entries).1
    let batched := ((Tally.start true).apply ms).run (p.planned σ report.entries)
    let single := ((Tally.start true).walk ms).run (p.planned σ report.entries)
    batched.1 = single.1 ∧ batched.2.work = single.2.work ∧
      single.2.usage.membershipUpdates = 2 ∧ batched.2.usage.membershipUpdates = 1 := by
  intro noon now host s σ p report ms batched single
  have hcases {i : String} {d : Consumer} (hi : σ.work.view.get? i = some d) :
      (i = "1" ∧ d = host "1" "x") ∨ (i = "2" ∧ d = host "2" "y") := by
    rcases Dict.eq_or_get?_of_insert hi with ⟨rfl, rfl⟩ | hfirst
    · exact Or.inr ⟨rfl, rfl⟩
    · exact Or.inl (Dict.eq_of_get?_single hfirst)
  have hfiled : FiledById σ.work.view := by
    intro i d hi
    rcases hcases hi with ⟨rfl, rfl⟩ | ⟨rfl, rfl⟩ <;> rfl
  have huuids : DistinctUuids σ.work.view := by
    intro i j d d' hi hj h
    rcases hcases hi with ⟨rfl, rfl⟩ | ⟨rfl, rfl⟩ <;> rcases hcases hj with ⟨rfl, rfl⟩ | ⟨rfl, rfl⟩
    · rfl
    · exact absurd h (by decide)
    · exact absurd h (by decide)
    · rfl
  have hone : OneHolder σ.work.view "a" := by
    intro i j d d' x hi hj h h'
    rcases hcases hi with ⟨rfl, rfl⟩ | ⟨rfl, rfl⟩ <;> rcases hcases hj with ⟨rfl, rfl⟩ | ⟨rfl, rfl⟩
    · rfl
    · exact absurd (h.trans h'.symm) (by decide)
    · exact absurd (h.trans h'.symm) (by decide)
    · rfl
  have hdrawn : σ.supplies.ids.handedOut
      (p.carried σ report.entries).session.supplies.ids = ["3"] := by decide +kernel
  have hfresh : p.DrawsFresh σ report.entries := by
    rw [Planner.DrawsFresh, hdrawn, List.forall_mem_singleton]
    decide +kernel
  have hcounts : single.2.usage.membershipUpdates = 2 ∧ batched.2.usage.membershipUpdates = 1 := by
    decide +kernel
  have hσ : σ.outages = .none := rfl
  have hfaults : σ.work.faults.bulkFailure = none := rfl
  have hkept : WellKept σ.work.view p.owner.key := ⟨hfiled, huuids, hone⟩
  clear_value σ p report
  obtain ⟨hrecorded, _, hwork, _⟩ :=
    Tally.apply_eq_walk report hσ hkept hfaults hfresh (Tally.start true)
  exact ⟨hrecorded, hwork, hcounts⟩

end HostRoster
