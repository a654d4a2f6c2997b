import HostRoster.Proofs.Store.Effects
import HostRoster.Proofs.Store.Holders

/-!
# Writes of a unit of work

Every call that writes comes down to laying checked consumers over the view and noting their ids and
owners. A single write is a batch of one, and a write of attributes is a batch that takes its guests
from the view.
-/

namespace HostRoster

namespace Transaction

/-- The unit of work with a batch laid over its view. -/
def written (t : Transaction) (cs : List Consumer) : Transaction :=
  { t with
    view := overwritten t.view cs
    dirty := (withIds cs).foldl (fun s e => s.add e.1) t.dirty
    touched := (withIds cs).foldl (fun s e => s.add e.2.ownerKey) t.touched }

section projections

variable (t : Transaction) (cs : List Consumer)

@[simp] theorem written_faults : (t.written cs).faults = t.faults := rfl

@[simp] theorem written_listing : (t.written cs).listing = t.listing := rfl

@[simp] theorem written_owners : (t.written cs).owners = t.owners := rfl

@[simp] theorem written_base : (t.written cs).base = t.base := rfl

@[simp] theorem written_view : (t.written cs).view = overwritten t.view cs := rfl

@[simp] theorem written_nil : t.written [] = t := rfl

end projections

/-- The ids of a batch are noted next to those noted before. -/
theorem contains_written_dirty {t : Transaction} {cs : List Consumer} {i : String} :
    (t.written cs).dirty.contains i = true ↔
      t.dirty.contains i = true ∨ ∃ c ∈ cs, c.id = some i := by
  refine Keys.contains_foldl_add.trans (or_congr_right ?_)
  constructor
  · rintro ⟨⟨j, c⟩, hm, rfl⟩
    exact ⟨c, mem_withIds.mp hm⟩
  · rintro ⟨c, hc⟩
    exact ⟨(i, c), mem_withIds.mpr hc, rfl⟩

/-- So are the owners of the consumers that are written. -/
theorem contains_written_touched {t : Transaction} {cs : List Consumer} {k : String} :
    (t.written cs).touched.contains k = true ↔
      t.touched.contains k = true ∨ ∃ c ∈ cs, ∃ i, c.id = some i ∧ c.ownerKey = k := by
  refine Keys.contains_foldl_add.trans (or_congr_right ?_)
  constructor
  · rintro ⟨⟨i, c⟩, hm, rfl⟩
    obtain ⟨hc, hid⟩ := mem_withIds.mp hm
    exact ⟨c, hc, i, hid, rfl⟩
  · rintro ⟨c, hc, i, hid, rfl⟩
    exact ⟨(i, c), mem_withIds.mpr ⟨hc, hid⟩, rfl⟩

/-- A batch may be laid over the view one consumer at a time. -/
theorem written_cons (t : Transaction) (c : Consumer) (rest : List Consumer) :
    t.written (c :: rest) = (t.write c).written rest := by
  unfold write
  cases hc : c.id with
  | none => simp [written, overwritten, withIds, hc]
  | some i => simp [written, overwritten, withIds, stage, hc]

/-- Two batches may be laid over it as one. -/
theorem written_append (t : Transaction) (cs ds : List Consumer) :
    t.written (cs ++ ds) = (t.written cs).written ds := by
  induction cs generalizing t with
  | nil => rfl
  | cons c rest ih => rw [List.cons_append, written_cons, ih, ← written_cons]

/-- Consumers with different ids may be written in any order. -/
theorem written_perm (t : Transaction) {cs ds : List Consumer} (h : cs.Perm ds)
    (hcs : cs.Pairwise fun c c' => c.id ≠ c'.id) : t.written cs = t.written ds := by
  have hds : ds.Pairwise fun c c' => c.id ≠ c'.id := hcs.perm h fun hne => hne.symm
  have hview : overwritten t.view cs = overwritten t.view ds := by
    refine Dict.eq_of_get?_eq fun i => ?_
    have hby : (byId cs).get? i = (byId ds).get? i := by
      refine Option.ext fun c => ?_
      rw [get?_byId_eq_some_iff hcs, get?_byId_eq_some_iff hds, h.mem_iff]
    rw [get?_overwritten, get?_overwritten, hby]
  have hdirty : (t.written cs).dirty = (t.written ds).dirty := by
    refine Keys.eq_of_contains_iff fun i => ?_
    simp only [contains_written_dirty, h.mem_iff]
  have htouched : (t.written cs).touched = (t.written ds).touched := by
    refine Keys.eq_of_contains_iff fun k => ?_
    simp only [contains_written_touched, h.mem_iff]
  unfold written at hdirty htouched ⊢
  rw [hview]
  simp only at hdirty htouched
  rw [hdirty, htouched]

/-- Writing consumers one after the other lays them over the view. -/
theorem foldl_write (t : Transaction) (cs : List Consumer) : cs.foldl write t = t.written cs := by
  induction cs generalizing t with
  | nil => rfl
  | cons c rest ih => rw [List.foldl_cons, ih, written_cons]

/-- Staging one consumer lays it over the view. -/
theorem stage_eq_written (t : Transaction) {c : Consumer} {i : String} (h : c.id = some i) :
    t.stage i c = t.written [c] := by
  rw [written_cons, written_nil, write, h]

/-- The consumer with the guests that a view has for it. -/
def keepingGuests (view : Dict Consumer) (c : Consumer) : Consumer :=
  match c.id.bind view.get? with
  | some stored => { c with guests := stored.guests }
  | none => c

section projections

variable (view : Dict Consumer) (c : Consumer)

@[simp] theorem keepingGuests_id : (keepingGuests view c).id = c.id := by
  unfold keepingGuests
  split <;> rfl

@[simp] theorem keepingGuests_uuid : (keepingGuests view c).uuid = c.uuid := by
  unfold keepingGuests
  split <;> rfl

@[simp] theorem keepingGuests_ownerKey : (keepingGuests view c).ownerKey = c.ownerKey := by
  unfold keepingGuests
  split <;> rfl

@[simp] theorem keepingGuests_held? (k : String) :
    (keepingGuests view c).held? k = c.held? k := by
  unfold keepingGuests
  split <;> rfl

end projections

/-- The guests are those of the consumer in the view. -/
theorem keepingGuests_eq {view : Dict Consumer} {c stored : Consumer} {i : String}
    (hc : c.id = some i) (hi : view.get? i = some stored) :
    keepingGuests view c = { c with guests := stored.guests } := by
  rw [keepingGuests, hc, Option.bind_some, hi]

/-- Writing a consumer changes what is found under its id and nothing else. -/
theorem get?_write (t : Transaction) (c : Consumer) (i : String) :
    (t.write c).view.get? i = if c.id = some i then some c else t.view.get? i := by
  unfold write
  cases hc : c.id with
  | none => simp
  | some j => simp [stage, Dict.get?_insert]

/-- What is kept does not depend on consumers written before with their own guests kept. -/
theorem keepingGuests_write {t : Transaction} {c d : Consumer} {i : String} (hc : c.id = some i)
    (hview : t.view.contains i = true) :
    keepingGuests (t.write (keepingGuests t.view d)).view c = keepingGuests t.view c := by
  obtain ⟨stored, hstored⟩ := Dict.contains_iff.mp hview
  have hafter : ∃ c', (t.write (keepingGuests t.view d)).view.get? i = some c' ∧
      c'.guests = stored.guests := by
    rw [get?_write, keepingGuests_id]
    by_cases hd : d.id = some i
    · exact ⟨_, if_pos hd, by rw [keepingGuests_eq hd hstored]⟩
    · exact ⟨stored, by rw [if_neg hd, hstored], rfl⟩
  obtain ⟨c', hget, hguests⟩ := hafter
  rw [keepingGuests_eq hc hget, keepingGuests_eq hc hstored, hguests]

/-- Attributes are written with the guests of the view. -/
theorem writeAttributes_eq (t : Transaction) (c : Consumer) :
    t.writeAttributes c = t.write (keepingGuests t.view c) := by
  unfold writeAttributes keepingGuests
  cases c.id.bind t.view.get? <;> rfl

/-- Writing attributes is writing with the guests of the view at the start of the batch. -/
theorem foldl_writeAttributes {t : Transaction} {cs : List Consumer}
    (h : ∀ c ∈ cs, ∃ i, c.id = some i ∧ t.view.contains i = true) :
    cs.foldl writeAttributes t = t.written (cs.map (keepingGuests t.view)) := by
  induction cs generalizing t with
  | nil => rfl
  | cons d rest ih =>
    have hkeep : ∀ c ∈ rest, keepingGuests (t.write (keepingGuests t.view d)).view c =
        keepingGuests t.view c := by
      intro c hc
      obtain ⟨i, hi, hv⟩ := h c (List.mem_cons_of_mem _ hc)
      exact keepingGuests_write hi hv
    have hrest : ∀ c ∈ rest, ∃ i, c.id = some i ∧
        (t.write (keepingGuests t.view d)).view.contains i = true := by
      intro c hc
      obtain ⟨i, hi, hv⟩ := h c (List.mem_cons_of_mem _ hc)
      refine ⟨i, hi, ?_⟩
      have hkept : (t.written [keepingGuests t.view d]).view.contains i = true :=
        contains_overwritten hv
      rwa [written_cons, written_nil] at hkept
    rw [List.foldl_cons, writeAttributes_eq, ih hrest, List.map_cons, written_cons,
      List.map_congr_left hkeep]

/-- A batch that may be laid over the view: it has ids and leaves single holders. -/
structure Accepts (t : Transaction) (cs : List Consumer) : Prop where
  /-- Every consumer has an id. -/
  ids : ∀ c ∈ cs, ∃ i, c.id = some i
  /-- No id of an owner in the batch gets a second holder. -/
  identities : checkIdentities t.listing t.view cs = .ok ()

/-- All consumers are known if each has an id that the view has. -/
theorem unknown?_eq_none_iff {view : Dict Consumer} {cs : List Consumer} :
    unknown? view cs = none ↔ ∀ c ∈ cs, ∃ i, c.id = some i ∧ view.contains i = true := by
  rw [unknown?, List.find?_eq_none]
  refine forall₂_congr fun c _ => ?_
  cases c.id <;> simp

/-- A write of several consumers is accepted when nothing is injected, all of them are known and no
id gets a second holder. -/
theorem checkBulk_eq_ok_iff {t : Transaction} {cs : List Consumer} :
    t.checkBulk cs = .ok () ↔ t.faults.bulkFailure = none ∧
      (∀ c ∈ cs, ∃ i, c.id = some i ∧ t.view.contains i = true) ∧
      checkIdentities t.listing t.view cs = .ok () := by
  rw [checkBulk, ← unknown?_eq_none_iff]
  cases t.faults.bulkFailure with
  | some message => simp
  | none =>
    cases unknown? t.view cs with
    | some c => simp
    | none => simp

end Transaction

namespace Work

/-- Registering leaves no trace if it fails: the consumer is staged after the last check. -/
theorem atomic_create (id : String) (c : Consumer) : (create id c).Atomic :=
  Effect.atomic_bind (Effect.reads_check _) fun _ =>
    Effect.atomic_bind (Effect.reads_check _) fun _ =>
      (Effect.succeeds_bind (Effect.succeeds_modify _) fun _ => Effect.succeeds_pure _).atomic

/-- So does writing attributes: the first consumer is staged after the last one was checked. -/
theorem atomic_updateAttributes (cs : List Consumer) : (updateAttributes cs).Atomic :=
  Effect.atomic_bind (Effect.reads_check _) fun _ =>
    (Effect.succeeds_forM (fun _ => Effect.succeeds_modify _) cs).atomic

/-- And so does writing consumers. -/
theorem atomic_updateMemberships (cs : List Consumer) : (updateMemberships cs).Atomic :=
  Effect.atomic_bind (Effect.reads_check _) fun _ =>
    (Effect.succeeds_forM (fun _ => Effect.succeeds_modify _) cs).atomic

end Work

namespace Transaction

/-- What registering a consumer comes to. -/
def create (t : Transaction) (id : String) (c : Consumer) :
    Except StoreError (Consumer × Transaction) :=
  (Work.create id c).result t

/-- What writing attributes comes to. -/
def updateAttributes (t : Transaction) (cs : List Consumer) : Except StoreError Transaction :=
  (Work.updateAttributes cs).after t

/-- What writing consumers comes to. -/
def updateMemberships (t : Transaction) (cs : List Consumer) : Except StoreError Transaction :=
  (Work.updateMemberships cs).after t

/-- Changes that are made one after the other once a check was passed. -/
theorem after_check_forM (f : Transaction → Except StoreError Unit)
    (step : Transaction → Consumer → Transaction) (cs : List Consumer) (t : Transaction) :
    (do Effect.check f; cs.forM fun c => modify fun t => step t c : Work Unit).after t =
      (f t).map fun _ => cs.foldl step t := by
  unfold Effect.after Effect.result
  rw [Effect.run_bind, Effect.run_check]
  rcases f t with e | _
  · rfl
  · simp only [Effect.run_forM_modify]
    rfl

/-- Attributes are written one after the other once the batch has passed its check. -/
theorem updateAttributes_eq_foldl (t : Transaction) (cs : List Consumer) :
    t.updateAttributes cs = (t.checkBulk cs).map fun _ => cs.foldl writeAttributes t :=
  after_check_forM _ _ _ _

/-- So are consumers. -/
theorem updateMemberships_eq_foldl (t : Transaction) (cs : List Consumer) :
    t.updateMemberships cs = (t.checkBulk cs).map fun _ => cs.foldl write t :=
  after_check_forM _ _ _ _

/-- A write of guests lays its batch over the view. -/
theorem updateMemberships_eq (t : Transaction) (cs : List Consumer) :
    t.updateMemberships cs = (t.checkBulk cs).map fun _ => t.written cs := by
  rw [updateMemberships_eq_foldl, foldl_write]

/-- A write of attributes lays its batch over the view, with the guests there. -/
theorem updateAttributes_eq (t : Transaction) (cs : List Consumer) :
    t.updateAttributes cs =
      (t.checkBulk cs).map fun _ => t.written (cs.map (keepingGuests t.view)) := by
  rw [updateAttributes_eq_foldl]
  cases hcheck : t.checkBulk cs with
  | error e => rfl
  | ok u => rw [foldl_writeAttributes (checkBulk_eq_ok_iff.mp hcheck).2.1]

/-- A write of consumers succeeds exactly if the batch passes its check. -/
theorem updateMemberships_eq_ok_iff {t t' : Transaction} {cs : List Consumer} :
    t.updateMemberships cs = .ok t' ↔ t.checkBulk cs = .ok () ∧ t' = t.written cs := by
  rw [updateMemberships_eq]
  cases t.checkBulk cs <;> simp [Except.map, eq_comm]

/-- So does a write of attributes. -/
theorem updateAttributes_eq_ok_iff {t t' : Transaction} {cs : List Consumer} :
    t.updateAttributes cs = .ok t' ↔
      t.checkBulk cs = .ok () ∧ t' = t.written (cs.map (keepingGuests t.view)) := by
  rw [updateAttributes_eq]
  cases t.checkBulk cs <;> simp [Except.map, eq_comm]

/-- A consumer that passes both checks is written as a batch of one under its new id. -/
theorem create_eq (t : Transaction) (i : String) (c : Consumer) :
    t.create i c = (t.checkNew c).bind fun _ =>
      (checkIdentities t.listing t.view [{ c with id := some i }]).map fun _ =>
        ({ c with id := some i }, t.written [{ c with id := some i }]) := by
  rw [← stage_eq_written t (c := { c with id := some i }) rfl]
  unfold create Effect.result Work.create
  rw [Effect.run_bind, Effect.run_check]
  rcases t.checkNew c with e | _
  · rfl
  · dsimp only
    rw [Effect.run_bind, Effect.run_check]
    rcases checkIdentities t.listing t.view [{ c with id := some i }] with e | _ <;> rfl

/-- A consumer is registered exactly if it passes both checks. -/
theorem create_eq_ok_iff {t t' : Transaction} {i : String} {c c' : Consumer} :
    t.create i c = .ok (c', t') ↔ t.checkNew c = .ok () ∧
      checkIdentities t.listing t.view [{ c with id := some i }] = .ok () ∧
      c' = { c with id := some i } ∧ t' = t.written [{ c with id := some i }] := by
  rw [create_eq]
  rcases t.checkNew c with e | _
  · simp [Except.bind]
  · rcases checkIdentities t.listing t.view [{ c with id := some i }] with e | _
    · simp [Except.bind, Except.map]
    · simp [Except.bind, Except.map, eq_comm]

/-- A consumer may be registered if its name is not refused and no consumer that is seen has its
uuid. -/
theorem checkNew_eq_ok_iff {t : Transaction} {c : Consumer} :
    t.checkNew c = .ok () ↔ t.faults.refusedNames.get? c.name = none ∧
      ∀ i d, t.view.get? i = some d → d.uuid ≠ c.uuid := by
  have htaken : t.view.values.any (·.uuid == c.uuid) = false ↔
      ∀ i d, t.view.get? i = some d → d.uuid ≠ c.uuid := by
    simp only [List.any_eq_false, Dict.mem_values_iff, beq_iff_eq]
    exact ⟨fun h i d hi => h d ⟨i, hi⟩, fun h d ⟨i, hi⟩ => h i d hi⟩
  rw [checkNew, ← htaken]
  cases t.faults.refusedNames.get? c.name with
  | some message => simp
  | none => cases t.view.values.any (·.uuid == c.uuid) <;> simp

/-- Registering a consumer that may be registered repeats no uuid. -/
theorem distinctUuids_overwritten_new {t : Transaction} {c : Consumer} (h : DistinctUuids t.view)
    (hnew : t.checkNew c = .ok ()) (i : String) :
    DistinctUuids (overwritten t.view [{ c with id := some i }]) := by
  obtain ⟨_, hfree⟩ := checkNew_eq_ok_iff.mp hnew
  have hcases {j : String} {d : Consumer}
      (hj : (overwritten t.view [{ c with id := some i }]).get? j = some d) :
      (j = i ∧ d.uuid = c.uuid) ∨ t.view.get? j = some d := by
    refine (get?_overwritten_cases hj).imp_left fun ⟨hd, hid⟩ => ?_
    obtain rfl := List.mem_singleton.mp hd
    exact ⟨(Option.some.inj hid).symm, rfl⟩
  intro j j' d d' hj hj' huuid
  rcases hcases hj with ⟨rfl, hd⟩ | hold
  · rcases hcases hj' with ⟨rfl, _⟩ | hold'
    · rfl
    · exact absurd (huuid.symm.trans hd) (hfree j' d' hold')
  · rcases hcases hj' with ⟨rfl, hd'⟩ | hold'
    · exact absurd (huuid.trans hd') (hfree j d hold)
    · exact h hold hold' huuid

/-- Consumers that are written over others with their uuids. -/
def KeepsUuids (view : Dict Consumer) (cs : List Consumer) : Prop :=
  ∀ c ∈ cs, ∃ i d, c.id = some i ∧ view.get? i = some d ∧ d.uuid = c.uuid

/-- They leave the uuids as they are. -/
theorem KeepsUuids.overwritten {view : Dict Consumer} {cs : List Consumer} (h : KeepsUuids view cs)
    (i : String) : ((overwritten view cs).get? i).map Consumer.uuid =
      (view.get? i).map Consumer.uuid := by
  rw [get?_overwritten]
  cases hb : (byId cs).get? i with
  | none => rw [Option.none_or]
  | some c =>
    obtain ⟨hc, hid⟩ := mem_of_get?_byId hb
    obtain ⟨j, d, hj, hd, huuid⟩ := h c hc
    rw [hid, Option.some.injEq] at hj
    rw [Option.some_or, hj, hd, Option.map_some, Option.map_some, huuid]

/-- A batch that keeps uuids leaves them distinct. -/
theorem KeepsUuids.distinctUuids {view : Dict Consumer} {cs : List Consumer}
    (h : KeepsUuids view cs) (hview : DistinctUuids view) :
    DistinctUuids (Transaction.overwritten view cs) := by
  have hback {i : String} {c : Consumer} (hi : (Transaction.overwritten view cs).get? i = some c) :
      ∃ d, view.get? i = some d ∧ d.uuid = c.uuid := by
    have hkept := h.overwritten i
    rw [hi, Option.map_some] at hkept
    exact Option.map_eq_some_iff.mp hkept.symm
  intro i j c c' hi hj huuid
  obtain ⟨d, hd, hsame⟩ := hback hi
  obtain ⟨d', hd', hsame'⟩ := hback hj
  exact hview hd hd' (hsame.trans (huuid.trans hsame'.symm))

/-- Whether a consumer may be registered does not depend on such writes. -/
theorem KeepsUuids.checkNew {t : Transaction} {cs : List Consumer} (h : KeepsUuids t.view cs)
    (c : Consumer) : (t.written cs).checkNew c = t.checkNew c := by
  have htaken {view : Dict Consumer} : view.values.any (·.uuid == c.uuid) = true ↔
      ∃ i, (view.get? i).map Consumer.uuid = some c.uuid := by
    simp only [List.any_eq_true, Dict.mem_values_iff, beq_iff_eq, Option.map_eq_some_iff]
    exact ⟨fun ⟨d, ⟨i, hi⟩, huuid⟩ => ⟨i, d, hi, huuid⟩,
      fun ⟨i, d, hi, huuid⟩ => ⟨d, ⟨i, hi⟩, huuid⟩⟩
  have hsame : (t.written cs).view.values.any (·.uuid == c.uuid) =
      t.view.values.any (·.uuid == c.uuid) := by
    rw [Bool.eq_iff_iff, htaken, htaken]
    simp only [written_view, h.overwritten]
  rw [Transaction.checkNew, Transaction.checkNew, hsame, written_faults]

/-- A batch that was written was accepted. -/
theorem accepts_of_updateMemberships {t t' : Transaction} {cs : List Consumer}
    (h : t.updateMemberships cs = .ok t') : t.Accepts cs ∧ t' = t.written cs := by
  obtain ⟨hcheck, ht⟩ := updateMemberships_eq_ok_iff.mp h
  obtain ⟨_, hknown, hident⟩ := checkBulk_eq_ok_iff.mp hcheck
  exact ⟨⟨fun c hc => (hknown c hc).imp fun _ hi => hi.1, hident⟩, ht⟩

/-- So was a batch of attributes, with the guests of the view. -/
theorem accepts_of_updateAttributes {t t' : Transaction} {cs : List Consumer}
    (h : t.updateAttributes cs = .ok t') :
    t.Accepts (cs.map (keepingGuests t.view)) ∧
      t' = t.written (cs.map (keepingGuests t.view)) := by
  obtain ⟨hcheck, ht⟩ := updateAttributes_eq_ok_iff.mp h
  obtain ⟨_, hknown, hident⟩ := checkBulk_eq_ok_iff.mp hcheck
  refine ⟨⟨fun c hc => ?_, ?_⟩, ht⟩
  · obtain ⟨d, hd, rfl⟩ := List.mem_map.mp hc
    rw [keepingGuests_id]
    exact (hknown d hd).imp fun _ hi => hi.1
  · exact checkIdentities_map (keepingGuests_id _) (keepingGuests_ownerKey _)
      (keepingGuests_held? _) hident

/-- And so was a consumer that was registered. -/
theorem accepts_of_create {t t' : Transaction} {i : String} {c c' : Consumer}
    (h : t.create i c = .ok (c', t')) :
    t.Accepts [{ c with id := some i }] ∧ t' = t.written [{ c with id := some i }] := by
  obtain ⟨_, hident, _, ht⟩ := create_eq_ok_iff.mp h
  refine ⟨⟨fun d hd => ?_, hident⟩, ht⟩
  rw [List.mem_singleton.mp hd]
  exact ⟨i, rfl⟩

end Transaction

end HostRoster
