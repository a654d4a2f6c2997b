import HostRoster.Proofs.Store.Interleaving

/-!
# Filing

Consumers stand under their own ids and owners under their own keys in every store that is filled in
the ways a store can be filled, and neither the steps of open units of work nor their commits change
that.
-/

namespace HostRoster

/-- Owners stand under their own keys. -/
def FiledByKey (d : Dict Owner) : Prop := ∀ ⦃k o⦄, d.get? k = some o → o.key = k

/-- Owners stand under their own keys and consumers under their own ids. -/
structure Registry.Filed (r : Registry) : Prop where
  /-- Owners stand under their keys. -/
  owners : FiledByKey r.owners
  /-- Consumers stand under their ids. -/
  consumers : FiledById r.consumers

/-- A consumer may be inserted under its own id. -/
theorem filedById_insert {d : Dict Consumer} (h : FiledById d) {c : Consumer} {i : String}
    (hi : c.id = some i) : FiledById (d.insert i c) := by
  intro j c' hj
  rcases Dict.eq_or_get?_of_insert hj with ⟨rfl, rfl⟩ | hold
  · exact hi
  · exact h hold

theorem filedByKey_empty : FiledByKey .empty := fun _ _ h => by simp at h

/-- An owner may be inserted under its own key. -/
theorem filedByKey_insert {d : Dict Owner} (h : FiledByKey d) (o : Owner) :
    FiledByKey (d.insert o.key o) := by
  intro k o' hk
  rcases Dict.eq_or_get?_of_insert hk with ⟨rfl, rfl⟩ | hold
  · rfl
  · exact h hold

namespace Registry

theorem filed_empty : empty.Filed := ⟨filedByKey_empty, fun _ _ h => by simp [empty] at h⟩

variable {r : Registry}

/-- Adding an owner keeps a registry filed. -/
theorem Filed.addOwner (h : r.Filed) (o : Owner) : (r.addOwner o).Filed :=
  ⟨filedByKey_insert h.owners o, h.consumers⟩

theorem Filed.addOwners (h : r.Filed) (os : List Owner) : (os.foldl Registry.addOwner r).Filed := by
  induction os generalizing r with
  | nil => exact h
  | cons o rest ih => exact ih (h.addOwner o)

theorem Filed.insert (h : r.Filed) (c : Consumer) (ids : Supply) : (r.insert c ids).2.1.Filed := by
  rw [Registry.insert, Consumer.withId]
  cases hid : c.id with
  | none => exact ⟨h.owners, filedById_insert h.consumers rfl⟩
  | some i => exact ⟨h.owners, filedById_insert h.consumers hid⟩

theorem Filed.insertAll (h : r.Filed) (ids : Supply) (cs : List Consumer) :
    (r.insertAll ids cs).1.Filed := by
  induction cs generalizing r ids with
  | nil => exact h
  | cons c rest ih => exact ih (h.insert c ids) _

/-- The registry of a snapshot is filed, whatever the snapshot lists. -/
theorem filed_ofSnapshot (s : Snapshot) (ids : Supply) : (ofSnapshot s ids).1.Filed :=
  (filed_empty.addOwners s.owners).insertAll ids s.consumers

end Registry

/-- Laying consumers over a view puts them under their own ids. -/
theorem filedById_overwritten {d : Dict Consumer} (h : FiledById d) (cs : List Consumer) :
    FiledById (Transaction.overwritten d cs) := by
  intro i c hi
  rcases Transaction.get?_overwritten_cases hi with ⟨_, hid⟩ | hold
  · exact hid
  · exact h hold

/-- Publishing a filed view keeps a registry filed. -/
theorem filedById_published {t : Transaction} {r : Registry} (hview : FiledById t.view)
    (hr : FiledById r.consumers) : FiledById (t.published r).consumers := by
  intro i c hi
  rcases Transaction.get?_of_published hi with hseen | hold
  · exact hview hseen
  · exact hr hold

namespace World

/-- Consumers stand under their own ids in the store and in all views. -/
structure Filed (w : World) : Prop where
  /-- The store files its consumers. -/
  store : FiledById w.store.registry.consumers
  /-- So does every view. -/
  view : ∀ name t, w.works.get? name = some t → FiledById t.view

/-- A filed store without open units of work is filed in all. -/
theorem filed_ofStore {s : Store} (h : FiledById s.registry.consumers) : (ofStore s).Filed where
  store := h
  view _ _ ht := by simp [ofStore] at ht

/-- Every change of a world keeps it filed. -/
theorem Filed.change {w w' : World} (h : w.Filed) (hw : w.Change w') : w'.Filed := by
  cases hw with
  | opened name =>
    refine ⟨h.store, fun n t ht => ?_⟩
    rcases Dict.eq_or_get?_of_insert ht with ⟨_, rfl⟩ | hold
    · exact h.store
    · exact h.view n t hold
  | @wrote _ name t cs ht _ hregistry hworks =>
    refine ⟨hregistry ▸ h.store, fun n t' ht' => ?_⟩
    rcases Dict.eq_or_get?_of_insert (hworks ▸ ht') with ⟨_, rfl⟩ | hold
    · exact filedById_overwritten (h.view name t ht) cs
    · exact h.view n t' hold
  | @published _ name t ht _ hregistry hworks =>
    refine ⟨hregistry ▸ filedById_published (h.view name t ht) h.store, fun n t' ht' => ?_⟩
    exact h.view n t' (Dict.get?_of_erase (hworks ▸ ht'))
  | @closed _ name hregistry hworks =>
    refine ⟨hregistry ▸ h.store, fun n t' ht' => ?_⟩
    exact h.view n t' (Dict.get?_of_erase (hworks ▸ ht'))
  | none => exact h

/-- Whatever steps units of work take, consumers stay under their own ids. -/
theorem Filed.run {w : World} (h : w.Filed) (steps : List Step) : (w.run steps).Filed := by
  induction steps generalizing w with
  | nil => exact h
  | cons s rest ih => exact ih (h.change (change_step w s))

/-- No change touches the owners. -/
theorem Change.owners {w w' : World} (hw : w.Change w') :
    w'.store.registry.owners = w.store.registry.owners := by
  cases hw with
  | opened | none => rfl
  | wrote _ _ hregistry _ => rw [hregistry]
  | published _ _ hregistry _ => rw [hregistry, Transaction.published_owners]
  | closed hregistry _ => rw [hregistry]

/-- Units of work leave the owners alone. -/
theorem owners_run (w : World) (steps : List Step) :
    (w.run steps).store.registry.owners = w.store.registry.owners := by
  induction steps generalizing w with
  | nil => rfl
  | cons s rest ih => rw [run_cons, ih, (change_step w s).owners]

end World

end HostRoster
