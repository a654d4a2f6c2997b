import HostRoster.Proofs.Store.Writes

/-!
# Which batches are accepted

A batch is accepted exactly if all of its consumers are known and no id of an owner that is named in
it has two holders once the batch is written. The consumers that the check looks at come out of a
map, so the check is also made with these consumers in any other order: the same batches are
accepted, with the same result, and a batch is only refused for a reason that it gives.
-/

namespace HostRoster

namespace Transaction

/-- A batch that leaves ids unique within the owners that are named in it. -/
structure Admits (t : Transaction) (cs : List Consumer) : Prop where
  /-- Every consumer is one that is seen. -/
  known : ∀ c ∈ cs, ∃ i, c.id = some i ∧ t.view.contains i = true
  /-- In the view with the batch written no id of these owners has two holders. -/
  oneHolder : ∀ c ∈ cs, OneHolder (overwritten t.view cs) c.ownerKey

/-- Two consumers of a view hold one hypervisor id of an owner. -/
structure Clash (view : Dict Consumer) (ownerKey hypervisorId : String) (c c' : Consumer) :
    Prop where
  /-- They stand under different ids. -/
  places : ∃ i j, i ≠ j ∧ view.get? i = some c ∧ view.get? j = some c'
  /-- The first one holds the id. -/
  held : c.held? ownerKey = some hypervisorId
  /-- So does the second one. -/
  held' : c'.held? ownerKey = some hypervisorId

/-- Why a batch is refused. -/
inductive Refuses (t : Transaction) (cs : List Consumer) : StoreError → Prop where
  /-- A consumer of the batch is not seen. -/
  | unknown (c : Consumer) (hc : c ∈ cs)
    (hunknown : ¬ ∃ i, c.id = some i ∧ t.view.contains i = true) :
    Refuses t cs (.rejected (.notPersisted c.uuid))
  /-- Two consumers of the view with the batch written hold an id of an owner in the batch. -/
  | shared (c c' : Consumer) (k x : String) (hnamed : ∃ d ∈ cs, d.ownerKey = k)
    (hclash : Clash (overwritten t.view cs) k x c c') :
    Refuses t cs (.rejected (.idShared x c.uuid c'.uuid k))

/-- The check of a batch where the consumers of the written view are listed in some order. -/
def checkBulkListed (t : Transaction) (listing cs : List Consumer) : Except StoreError Unit :=
  match t.faults.bulkFailure with
  | some message => .error (.backend message)
  | none =>
    match unknown? t.view cs with
    | some c => .error (.rejected (.notPersisted c.uuid))
    | none => checkListed listing cs

/-- The writes of a batch after this check. -/
def writeListed (t : Transaction) (step : Transaction → Consumer → Transaction)
    (listing cs : List Consumer) : Except StoreError Transaction := do
  t.checkBulkListed listing cs
  .ok (cs.foldl step t)

/-- What a call says to a batch, whose consumers are written step by step. -/
structure Judges (t : Transaction) (cs : List Consumer)
    (step : Transaction → Consumer → Transaction) (call : Except StoreError Transaction) :
    Prop where
  /-- It accepts the batch exactly if the batch leaves ids unique. -/
  accepted : (∃ t', call = .ok t') ↔ t.Admits cs
  /-- It then leaves a view that holds the ids as the view with the batch written does. -/
  held : ∀ t', call = .ok t' → ∀ i k, (t'.view.get? i).bind (·.held? k) =
    ((overwritten t.view cs).get? i).bind (·.held? k)
  /-- It refuses the batch for a reason. -/
  refused : ∀ e, call = .error e → t.Refuses cs e
  /-- It looks at the consumers of the written view in the order of their ids, and last at those of
  the batch in the order of the unit of work. -/
  listed : call = t.writeListed step (overlaid t.listing t.view cs) cs
  /-- In any other order the same batches are accepted, with the same result, and all others are
  refused for a reason. -/
  unordered : ∀ listing, listing.Perm (overlaid t.listing t.view cs) →
    (∀ t', t.writeListed step listing cs = .ok t' ↔ call = .ok t') ∧
      ∀ e, t.writeListed step listing cs = .error e → t.Refuses cs e

variable {t : Transaction} {view : Dict Consumer} {cs listing : List Consumer} {c c' : Consumer}
  {k x : String}

/-- Two consumers at different places of a listing stand under different ids. -/
theorem exists_places (hlisting : listing.Perm ((overlaidEntries view cs).map Prod.snd))
    (hpair : [c, c'].Sublist listing) :
    ∃ i j, i ≠ j ∧ (overwritten view cs).get? i = some c ∧
      (overwritten view cs).get? j = some c' := by
  by_contra hnone
  -- Otherwise no two entries of the view are the two consumers, in either order.
  have hentries : (overlaidEntries view cs).Pairwise fun a b =>
      ¬ (a.2 = c ∧ b.2 = c') ∧ ¬ (a.2 = c' ∧ b.2 = c) := by
    refine (overlaidEntries_keys_ne view cs).imp_of_mem ?_
    rintro ⟨i, a⟩ ⟨j, b⟩ hi hj hne
    rw [mem_overlaidEntries] at hi hj
    refine ⟨?_, ?_⟩
    · rintro ⟨rfl, rfl⟩
      exact hnone ⟨i, j, hne, hi, hj⟩
    · rintro ⟨rfl, rfl⟩
      exact hnone ⟨j, i, hne.symm, hj, hi⟩
  have hall : listing.Pairwise fun a b => ¬ (a = c ∧ b = c') ∧ ¬ (a = c' ∧ b = c) := by
    rw [hlisting.pairwise_iff fun h => ⟨fun hs => h.2 hs.symm, fun hs => h.1 hs.symm⟩,
      List.pairwise_map]
    exact hentries
  exact (List.pairwise_iff_forall_sublist.mp hall hpair).1 ⟨rfl, rfl⟩

/-- What the check of ids reports is a clash of two consumers of the written view. -/
theorem of_checkListed_eq_error (hlisting : listing.Perm (overlaid t.listing t.view cs))
    {e : StoreError} (h : checkListed listing cs = .error e) : t.Refuses cs e := by
  rw [checkListed] at h
  cases hfind : (ownerKeys cs).keys.findSome? fun k => sharedId? k .empty listing with
  | none => simp [hfind] at h
  | some cause =>
    rw [hfind] at h
    obtain ⟨k, hk, hshared⟩ := List.exists_of_findSome?_eq_some hfind
    obtain ⟨c', _, x, u, hx, rfl, hu | ⟨c, hpair, hc, rfl⟩⟩ := of_sharedId?_eq_some hshared
    · cases hu
    · cases h
      have hnamed := contains_ownerKeys.mp (Dict.mem_keys_iff.mp hk)
      exact .shared c c' k x hnamed
        ⟨exists_places (hlisting.trans (overlaid_perm _ _ _)) hpair, hc, hx⟩

section calls

variable (hfault : t.faults.bulkFailure = none)
  (hlisting : listing.Perm (overlaid t.listing t.view cs))
  (step : Transaction → Consumer → Transaction)

include hfault hlisting

/-- In any order exactly the batches that leave ids unique pass the check. -/
theorem checkBulkListed_eq_ok_iff : t.checkBulkListed listing cs = .ok () ↔ t.Admits cs := by
  rw [checkBulkListed, hfault]
  cases hunknown : unknown? t.view cs with
  | none =>
    have hknown := unknown?_eq_none_iff.mp hunknown
    exact (checkListed_eq_ok_iff (hlisting.trans (overlaid_perm _ _ _))).trans
      ⟨fun h => ⟨hknown, h⟩, fun h => h.oneHolder⟩
  | some c =>
    refine ⟨fun h => (by cases h), fun h => ?_⟩
    rw [unknown?_eq_none_iff.mpr h.known] at hunknown
    cases hunknown

/-- A batch that does not pass is refused for a reason. -/
theorem of_checkBulkListed_eq_error {e : StoreError} (h : t.checkBulkListed listing cs = .error e) :
    t.Refuses cs e := by
  rw [checkBulkListed, hfault] at h
  cases hunknown : unknown? t.view cs with
  | none =>
    rw [hunknown] at h
    exact of_checkListed_eq_error hlisting h
  | some c =>
    rw [hunknown] at h
    cases h
    have hmiss := List.find?_some hunknown
    refine .unknown c (List.mem_of_find?_eq_some hunknown) ?_
    rintro ⟨i, hi, hcontains⟩
    simp [hi, hcontains] at hmiss

/-- In any order the batch is written as it is, or refused. -/
theorem writeListed_eq_ok_iff {t' : Transaction} :
    t.writeListed step listing cs = .ok t' ↔ t.Admits cs ∧ t' = cs.foldl step t := by
  rw [← checkBulkListed_eq_ok_iff hfault hlisting, writeListed]
  cases t.checkBulkListed listing cs with
  | error e =>
    constructor
    · rintro ⟨⟩
    · rintro ⟨⟨⟩, _⟩
  | ok u =>
    constructor
    · rintro ⟨⟩
      exact ⟨rfl, rfl⟩
    · rintro ⟨_, rfl⟩
      rfl

theorem of_writeListed_eq_error {e : StoreError} (h : t.writeListed step listing cs = .error e) :
    t.Refuses cs e := by
  rw [writeListed] at h
  cases hcheck : t.checkBulkListed listing cs with
  | ok u =>
    rw [hcheck] at h
    cases h
  | error e' =>
    rw [hcheck] at h
    cases h
    exact of_checkBulkListed_eq_error hfault hlisting hcheck

end calls

theorem writeListed_overlaid (t : Transaction) (step : Transaction → Consumer → Transaction)
    (cs : List Consumer) :
    t.writeListed step (overlaid t.listing t.view cs) cs =
      (t.checkBulk cs).map fun _ => cs.foldl step t := rfl

/-- Attributes are written after the check in the order of the unit of work. -/
theorem updateAttributes_eq_writeListed (t : Transaction) (cs : List Consumer) :
    t.updateAttributes cs = t.writeListed writeAttributes (overlaid t.listing t.view cs) cs := by
  rw [writeListed_overlaid, updateAttributes_eq_foldl]

theorem updateMemberships_eq_writeListed (t : Transaction) (cs : List Consumer) :
    t.updateMemberships cs = t.writeListed write (overlaid t.listing t.view cs) cs := by
  rw [writeListed_overlaid, updateMemberships_eq_foldl]

/-- Writes after the check judge a batch if they leave ids where the batch has them. -/
theorem judges_writeListed (hfault : t.faults.bulkFailure = none)
    (step : Transaction → Consumer → Transaction)
    (hheld : t.Admits cs → ∀ i k, ((cs.foldl step t).view.get? i).bind (·.held? k) =
      ((overwritten t.view cs).get? i).bind (·.held? k)) :
    t.Judges cs step (t.writeListed step (overlaid t.listing t.view cs) cs) where
  accepted := by
    simp only [writeListed_eq_ok_iff hfault (.refl _), exists_and_left, exists_eq, and_true]
  held t' h := by
    obtain ⟨hadmits, rfl⟩ := (writeListed_eq_ok_iff hfault (.refl _) step).mp h
    exact hheld hadmits
  refused _ h := of_writeListed_eq_error hfault (.refl _) step h
  listed := rfl
  unordered listing hlisting := by
    refine ⟨fun t' => ?_, fun e h => of_writeListed_eq_error hfault hlisting step h⟩
    rw [writeListed_eq_ok_iff hfault hlisting, writeListed_eq_ok_iff hfault (.refl _)]

/-- Unless bulk writes are refused as such, both of them accept exactly the batches that leave ids
unique, in whatever order they look at the consumers. -/
theorem updates_judge_batches (hfault : t.faults.bulkFailure = none) (cs : List Consumer) :
    t.Judges cs writeAttributes (t.updateAttributes cs) ∧
      t.Judges cs write (t.updateMemberships cs) := by
  rw [updateAttributes_eq_writeListed, updateMemberships_eq_writeListed]
  refine ⟨judges_writeListed hfault _ fun hadmits i k => ?_,
    judges_writeListed hfault _ fun _ i k => ?_⟩
  · rw [foldl_writeAttributes hadmits.known]
    exact held?_overwritten_map (fun c => by simp) (fun c => by simp) i
  · rw [foldl_write]
    rfl

/-- Two hypervisors may exchange their ids in one batch, but neither may take the other's alone.
Which of them is then named first depends on the order in which they are looked at. -/
theorem updates_judge_batches_exchanged :
    let host (id uuid hypervisorId : String) : Consumer :=
      ⟨some id, uuid, uuid, "a", .hypervisor, some ⟨hypervisorId, none⟩, [], .empty, none⟩
    let t : Transaction :=
      .start { Registry.empty with
        consumers :=
          (Dict.empty.insert "1" (host "1" "u" "x")).insert "2" (host "2" "v" "y") } .none .given
    t.faults.bulkFailure = none ∧ t.Admits [host "1" "u" "y", host "2" "v" "x"] ∧
      ¬ t.Admits [host "1" "u" "y"] ∧
      t.Refuses [host "1" "u" "y"] (.rejected (.idShared "y" "v" "u" "a")) ∧
      t.Refuses [host "1" "u" "y"] (.rejected (.idShared "y" "u" "v" "a")) := by
  intro host t
  have hfault : t.faults.bulkFailure = none := rfl
  have hexchange : t.checkBulk [host "1" "u" "y", host "2" "v" "x"] = .ok () := by decide +kernel
  have htake : t.checkBulk [host "1" "u" "y"] = .error (.rejected (.idShared "y" "v" "u" "a")) := by
    decide +kernel
  have hreversed : t.checkBulkListed [host "1" "u" "y", host "2" "v" "y"] [host "1" "u" "y"] =
      .error (.rejected (.idShared "y" "u" "v" "a")) := by
    decide +kernel
  have hlisting : [host "1" "u" "y", host "2" "v" "y"].Perm
      (overlaid t.listing t.view [host "1" "u" "y"]) := by
    decide +kernel
  clear_value t
  have hexchanged := updateAttributes_eq_foldl t [host "1" "u" "y", host "2" "v" "x"]
  have htaken := updateAttributes_eq_foldl t [host "1" "u" "y"]
  rw [hexchange] at hexchanged
  rw [htake] at htaken
  obtain ⟨hjudges, _⟩ := updates_judge_batches hfault [host "1" "u" "y"]
  refine ⟨hfault, (updates_judge_batches hfault _).1.accepted.mp ⟨_, hexchanged⟩,
    fun hadmits => ?_, hjudges.refused _ htaken,
    (hjudges.unordered _ hlisting).2 _ (by rw [writeListed, hreversed]; rfl)⟩
  obtain ⟨t', haccepted⟩ := hjudges.accepted.mpr hadmits
  rw [htaken] at haccepted
  cases haccepted

end Transaction

end HostRoster
