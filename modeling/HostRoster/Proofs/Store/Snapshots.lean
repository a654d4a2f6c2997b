import HostRoster.Proofs.Run.Filing

/-!
# Stores from snapshots

A snapshot is what is left of a store when it is put away: its owners and its consumers, in the
order of the keys and ids that they stand under. A store made from it finds these keys and ids in
the owners and consumers themselves. So nothing is merged and nothing gets another id, provided that
each stood under its own; and in every store that comes about in one of the ways there are, it does.
-/

namespace HostRoster

/-- Owners under their own keys are rebuilt from their list. -/
theorem FiledByKey.foldl_values {d : Dict Owner} (h : FiledByKey d) :
    d.values.foldl (fun e o => e.insert o.key o) .empty = d := by
  have hentries : d.values.map (fun o => (o.key, o)) = d.entries := by
    rw [Dict.values, List.map_map]
    refine (List.map_congr_left fun e he => ?_).trans (List.map_id d.entries)
    exact Prod.ext (h (Dict.get?_eq_some_iff.mpr he)) rfl
  conv_rhs => rw [← Dict.ofList_entries d, ← hentries, Dict.ofList, List.foldl_map]

/-- So are consumers under their own ids. -/
theorem FiledById.overwritten_values {d : Dict Consumer} (h : FiledById d) :
    Transaction.overwritten .empty d.values = d := by
  have hentries : Transaction.withIds d.values = d.entries := by
    rw [Transaction.withIds, Dict.values, List.filterMap_map]
    refine (List.filterMap_congr fun e he => ?_).trans List.filterMap_some
    have hid : e.2.id = some e.1 := h (Dict.get?_eq_some_iff.mpr he)
    rw [Function.comp_apply, hid]
    rfl
  rw [Transaction.overwritten, hentries]
  exact Dict.ofList_entries d

namespace Registry

/-- Owners are added one by one. -/
theorem foldl_addOwner (r : Registry) (os : List Owner) :
    os.foldl addOwner r = { r with owners := os.foldl (fun d o => d.insert o.key o) r.owners } := by
  induction os generalizing r with
  | nil => rfl
  | cons o rest ih => rw [List.foldl_cons, ih, List.foldl_cons, addOwner]

/-- Consumers that have ids are put under them, and no new id is drawn. -/
theorem insertAll_of_ids (r : Registry) (ids : Supply) {cs : List Consumer}
    (h : ∀ c ∈ cs, c.id ≠ none) :
    r.insertAll ids cs = ({ r with consumers := Transaction.overwritten r.consumers cs }, ids) := by
  induction cs generalizing r with
  | nil => rfl
  | cons c rest ih =>
    obtain ⟨i, hi⟩ := Option.ne_none_iff_exists'.mp (h c List.mem_cons_self)
    have hinsert : r.insert c ids = (c, { r with consumers := r.consumers.insert i c }, ids) := by
      rw [insert, Consumer.withId, hi]
    have hcons : Transaction.overwritten r.consumers (c :: rest) =
        Transaction.overwritten (r.consumers.insert i c) rest := by
      simp [Transaction.overwritten, Transaction.withIds, hi]
    rw [insertAll, hinsert, hcons]
    exact ih _ fun c' hc' => h c' (List.mem_cons_of_mem _ hc')

/-- A snapshot of consumers that all have ids is stored under these, and no new id is drawn. -/
theorem ofSnapshot_of_ids {s : Snapshot} (h : ∀ c ∈ s.consumers, c.id ≠ none) (ids : Supply) :
    ofSnapshot s ids =
      (⟨s.owners.foldl (fun d o => d.insert o.key o) .empty,
        Transaction.overwritten .empty s.consumers, .empty⟩, ids) := by
  rw [ofSnapshot, insertAll_of_ids _ _ h, foldl_addOwner]
  rfl

/-- The consumers of a snapshot of a filed registry have ids. -/
theorem Filed.ids_snapshot {r : Registry} (h : r.Filed) :
    ∀ c ∈ r.snapshot.consumers, c.id ≠ none := by
  intro c hc
  obtain ⟨i, hi⟩ := Dict.mem_values_iff.mp hc
  rw [h.consumers hi]
  exact Option.some_ne_none i

/-- What is rebuilt from a snapshot lacks nothing but the versions. -/
theorem Filed.ofSnapshot_snapshot {r : Registry} (h : r.Filed) (ids : Supply) :
    ofSnapshot r.snapshot ids = (⟨r.owners, r.consumers, .empty⟩, ids) := by
  rw [ofSnapshot_of_ids h.ids_snapshot, snapshot, h.owners.foldl_values,
    h.consumers.overwritten_values]

end Registry

/-- So is the store of such a snapshot, and it is otherwise new. -/
theorem Store.ofSnapshot_of_ids {s : Snapshot} (h : ∀ c ∈ s.consumers, c.id ≠ none)
    (supplies : Supplies) :
    ofSnapshot s supplies =
      ⟨⟨s.owners.foldl (fun d o => d.insert o.key o) .empty,
        Transaction.overwritten .empty s.consumers, .empty⟩, .none, .none, supplies, .given⟩ := by
  rw [ofSnapshot, Registry.ofSnapshot_of_ids h]

/-- A store that is made from the snapshot of another has its contents, and is otherwise new. -/
theorem Store.ofSnapshot_snapshot {s : Store} (h : s.registry.Filed) (supplies : Supplies) :
    ofSnapshot s.snapshot supplies =
      ⟨⟨s.registry.owners, s.registry.consumers, .empty⟩, .none, .none, supplies, .given⟩ := by
  rw [ofSnapshot, snapshot, h.ofSnapshot_snapshot]

namespace World

/-- A store that comes about, with the units of work that are open on it. It is made from a
snapshot, filled from outside, told to refuse writes, and used by units of work and runs. A run is
made at once or in a unit of work that was opened before others took their steps; single calls of
runs among those of others are steps like any other. -/
inductive Reached : World → Prop where
  /-- A store is made from a snapshot. -/
  | made (s : Snapshot) (supplies : Supplies) : Reached (.ofStore (.ofSnapshot s supplies))
  /-- An owner is added. -/
  | ownerAdded {w : World} (h : Reached w) (o : Owner) :
    Reached { w with store := w.store.addOwner o }
  /-- A consumer is added. -/
  | consumerAdded {w : World} (h : Reached w) (c : Consumer) :
    Reached { w with store := (w.store.insert c).2 }
  /-- Consumers with a name are to be refused. -/
  | nameRefused {w : World} (h : Reached w) (name message : String) :
    Reached { w with store := w.store.refuseName name message }
  /-- Writes of several consumers are to be refused. -/
  | bulkFailed {w : World} (h : Reached w) (message : String) :
    Reached { w with store := w.store.failBulk message }
  /-- A unit of work takes a step. -/
  | stepped {w : World} (h : Reached w) (s : Step) : Reached (w.step s)
  /-- A run is made, whatever its circumstances are. -/
  | ran {w : World} (h : Reached w) (c : Circumstances) (e : Errand) :
    Reached { w with store := (w.store.runFor c e).2 }
  /-- A run is made in a unit of work that was opened before, which is gone then. -/
  | concluded {w : World} (h : Reached w) {name : String} {t : Transaction}
    (ht : w.works.get? name = some t) (outages : Outages) (authorizer : Authorizer)
    (now : Timestamp) (e : Errand) :
    Reached ⟨(w.store.concludeIn outages t (e.attempt authorizer now)).2, w.works.erase name⟩

/-- In whatever way a store comes about, owners stand under their keys and consumers under their
ids, and so they do in the views of open units of work. -/
theorem Reached.filed {w : World} (h : w.Reached) :
    w.store.registry.Filed ∧ ∀ name t, w.works.get? name = some t → FiledById t.view := by
  induction h with
  | made s supplies =>
    refine ⟨Registry.filed_ofSnapshot s supplies.ids, fun _ _ ht => ?_⟩
    simp [ofStore] at ht
  | ownerAdded _ o ih => exact ⟨ih.1.addOwner o, ih.2⟩
  | consumerAdded _ c ih => exact ⟨ih.1.insert c _, ih.2⟩
  | nameRefused _ _ _ ih => exact ih
  | bulkFailed _ _ ih => exact ih
  | @stepped w _ s ih =>
    have hchange := change_step w s
    have hfiled := Filed.change ⟨ih.1.consumers, ih.2⟩ hchange
    refine ⟨⟨?_, hfiled.store⟩, hfiled.view⟩
    rw [hchange.owners]
    exact ih.1.owners
  | ran _ c e ih => exact ⟨Store.filed_runFor ih.1 c e, ih.2⟩
  | @concluded w _ name t ht outages authorizer now e ih =>
    refine ⟨?_, fun n t' ht' => ih.2 n t' (Dict.get?_of_erase ht')⟩
    exact Store.filed_concludeIn ih.1 (ih.2 name t ht) (e.keepsStep_attempt (.refl t) _ _) outages

end World

end HostRoster
