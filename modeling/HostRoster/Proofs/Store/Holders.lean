import HostRoster.Proofs.Dict
import HostRoster.Store.Transaction
import Mathlib.Data.List.Nodup
import Mathlib.Data.List.Pairwise

/-!
# Holders of hypervisor ids

A hypervisor holds its hypervisor id within its owner. The check of a written batch looks at the
view with the batch laid over it and accepts exactly if, in the view that the batch leaves behind,
no hypervisor id of an owner named in the batch has two holders.
-/

namespace HostRoster

/-- The hypervisor id that a consumer holds within an owner. -/
def Consumer.held? (c : Consumer) (ownerKey : String) : Option String :=
  if c.ownerKey = ownerKey && c.isHypervisor then c.hypervisorId? else none

/-- No hypervisor id of an owner is held by two consumers. -/
def OneHolder (d : Dict Consumer) (ownerKey : String) : Prop :=
  ∀ ⦃i j : String⦄ ⦃c c' : Consumer⦄ ⦃h : String⦄, d.get? i = some c → d.get? j = some c' →
    c.held? ownerKey = some h → c'.held? ownerKey = some h → i = j

/-- Every hypervisor id of every owner has at most one holder. -/
def OneHolderEach (d : Dict Consumer) : Prop := ∀ ownerKey, OneHolder d ownerKey

/-- The uuid of the machine that a consumer is as a hypervisor of an owner, in lower case, unless it
is blank. -/
def Consumer.machine? (c : Consumer) (ownerKey : String) : Option String :=
  if c.ownerKey = ownerKey && c.isHypervisor then
    (c.systemUuid?.bind Text.nonBlank?).map Text.lower
  else none

/-- No two hypervisors of an owner are one machine. -/
def OneMachine (d : Dict Consumer) (ownerKey : String) : Prop :=
  ∀ ⦃i j : String⦄ ⦃c c' : Consumer⦄ ⦃u : String⦄, d.get? i = some c → d.get? j = some c' →
    c.machine? ownerKey = some u → c'.machine? ownerKey = some u → i = j

/-- Every consumer stands under its own id. -/
def FiledById (d : Dict Consumer) : Prop := ∀ ⦃i c⦄, d.get? i = some c → c.id = some i

/-- No two consumers have one uuid. -/
def DistinctUuids (d : Dict Consumer) : Prop :=
  ∀ ⦃i j c c'⦄, d.get? i = some c → d.get? j = some c' → c.uuid = c'.uuid → i = j

/-- Consumers as they are meant to be kept for an owner. -/
structure WellKept (d : Dict Consumer) (ownerKey : String) : Prop where
  /-- Each stands under its own id. -/
  filed : FiledById d
  /-- No two have one uuid. -/
  uuids : DistinctUuids d
  /-- No hypervisor id of the owner has two holders. -/
  oneHolder : OneHolder d ownerKey

/-- Uuids differ if the list of them repeats none. -/
theorem distinctUuids_of_nodup {d : Dict Consumer} (h : (d.values.map (·.uuid)).Nodup) :
    DistinctUuids d := by
  intro i j c c' hi hj huuid
  rw [Dict.values, List.map_map] at h
  have hsame := List.inj_on_of_nodup_map h (Dict.get?_eq_some_iff.mp hi)
    (Dict.get?_eq_some_iff.mp hj) huuid
  exact congrArg Prod.fst hsame

/-- A consumer holds an id only within its own owner, as a hypervisor. -/
theorem Consumer.held?_eq_some_iff {c : Consumer} {k h : String} :
    c.held? k = some h ↔ c.ownerKey = k ∧ c.isHypervisor = true ∧ c.hypervisorId? = some h := by
  unfold Consumer.held?
  by_cases ho : c.ownerKey = k <;> by_cases hh : c.isHypervisor = true <;> simp [ho, hh]

/-- No holder is left in a part of a dictionary that was not there before. -/
theorem OneHolder.mono {d e : Dict Consumer} {k : String} (hd : OneHolder d k)
    (hsub : ∀ i c, c.ownerKey = k → e.get? i = some c → d.get? i = some c) : OneHolder e k := by
  intro i j c c' h hi hj hc hc'
  have ho := (Consumer.held?_eq_some_iff.mp hc).1
  have ho' := (Consumer.held?_eq_some_iff.mp hc').1
  exact hd (hsub i c ho hi) (hsub j c' ho' hj) hc hc'

/-- Whether there are single holders is decided by what is held under each id. -/
theorem OneHolder.of_held?_eq {d e : Dict Consumer} {k : String} (hd : OneHolder d k)
    (h : ∀ i, (e.get? i).bind (·.held? k) = (d.get? i).bind (·.held? k)) : OneHolder e k := by
  have hback {i : String} {c : Consumer} {x : String} (hi : e.get? i = some c)
      (hc : c.held? k = some x) : ∃ c', d.get? i = some c' ∧ c'.held? k = some x := by
    have hheld := h i
    rw [hi, Option.bind_some, hc] at hheld
    exact Option.bind_eq_some_iff.mp hheld.symm
  intro i j c c' x hi hj hc hc'
  obtain ⟨a, ha, hax⟩ := hback hi hc
  obtain ⟨b, hb, hbx⟩ := hback hj hc'
  exact hd ha hb hax hbx

namespace Transaction

/-- Two consumers do not hold one hypervisor id of an owner. -/
def Apart (ownerKey : String) (c c' : Consumer) : Prop :=
  ∀ h, c.held? ownerKey = some h → c'.held? ownerKey ≠ some h

theorem Apart.symm {k : String} {c c' : Consumer} (h : Apart k c c') : Apart k c' c :=
  fun x hc' hc => h x hc hc'

/-- A holder of an id is compared with those before it and noted for those after it. -/
theorem sharedId?_cons (k : String) (holders : Dict String) (c : Consumer) (rest : List Consumer) :
    sharedId? k holders (c :: rest) =
      match c.held? k with
      | some id =>
        match holders.get? id with
        | some holder => some (.idShared id holder c.uuid k)
        | none => sharedId? k (holders.insert id c.uuid) rest
      | none => sharedId? k holders rest := by
  rw [sharedId?, Consumer.held?]
  by_cases h : (decide (c.ownerKey = k) && c.isHypervisor) = true
  · cases c.hypervisorId? with
    | none => simp only [h, if_true]
    | some id =>
      cases hid : holders.get? id with
      | none => simp only [h, if_true, hid]
      | some holder => simp only [h, if_true, hid]
  · simp only [h, if_false, Bool.false_eq_true]

/-- Nothing is reported exactly if no id is held twice in the list or held before it. -/
theorem sharedId?_eq_none_iff {k : String} {l : List Consumer} {holders : Dict String} :
    sharedId? k holders l = none ↔
      (∀ c ∈ l, ∀ h, c.held? k = some h → holders.contains h = false) ∧ l.Pairwise (Apart k) := by
  induction l generalizing holders with
  | nil => simp [sharedId?]
  | cons c rest ih =>
    rw [sharedId?_cons]
    cases hc : c.held? k with
    | none =>
      have hap : ∀ c' ∈ rest, Apart k c c' := fun c' _ h hh => by simp [hc] at hh
      simp only [ih, List.mem_cons, forall_eq_or_imp, hc, List.pairwise_cons]
      simp only [reduceCtorEq, false_implies, implies_true, true_and]
      exact and_congr_right fun _ => ⟨fun hp => ⟨hap, hp⟩, And.right⟩
    | some id =>
      cases hid : holders.get? id with
      | some holder =>
        simp only [hid, reduceCtorEq, false_iff]
        intro hall
        have := hall.1 c List.mem_cons_self id hc
        simp [Dict.contains, hid] at this
      | none =>
        simp only [hid, ih, List.mem_cons, forall_eq_or_imp, hc, List.pairwise_cons,
          Option.some.injEq]
        have hnot : holders.contains id = false := by simp [Dict.contains, hid]
        constructor
        · rintro ⟨hbefore, hp⟩
          refine ⟨⟨fun h hh => hh ▸ hnot, fun c' hc' h hh => ?_⟩, fun c' hc' h hh hh' => ?_, hp⟩
          · have := hbefore c' hc' h hh
            rw [Dict.contains_insert, Bool.or_eq_false_iff] at this
            exact this.2
          · have := hbefore c' hc' h hh'
            rw [hc, Option.some.injEq] at hh
            subst hh
            simp [Dict.contains_insert] at this
        · rintro ⟨⟨_, hbefore⟩, hap, hp⟩
          refine ⟨fun c' hc' h hh => ?_, hp⟩
          rw [Dict.contains_insert, hbefore c' hc' h hh, Bool.or_false]
          exact decide_eq_false fun he => hap c' hc' id hc (he ▸ hh)

/-- What is reported names two holders of an id. The later one is in the list, and the other one
comes before it there or is among those held before. -/
theorem of_sharedId?_eq_some {k : String} {l : List Consumer} {holders : Dict String}
    {cause : Rejection} (h : sharedId? k holders l = some cause) :
    ∃ c' ∈ l, ∃ x u, c'.held? k = some x ∧ cause = .idShared x u c'.uuid k ∧
      (holders.get? x = some u ∨ ∃ c, [c, c'].Sublist l ∧ c.held? k = some x ∧ c.uuid = u) := by
  induction l generalizing holders with
  | nil => cases h
  | cons c rest ih =>
    rw [sharedId?_cons] at h
    cases hc : c.held? k with
    | none =>
      rw [hc] at h
      obtain ⟨c', hc', x, u, hx, hcause, hu | ⟨b, hb, hbx, hbu⟩⟩ := ih h
      · exact ⟨c', List.mem_cons_of_mem _ hc', x, u, hx, hcause, Or.inl hu⟩
      · exact ⟨c', List.mem_cons_of_mem _ hc', x, u, hx, hcause, Or.inr ⟨b, hb.cons c, hbx, hbu⟩⟩
    | some id =>
      rw [hc] at h
      cases hid : holders.get? id with
      | some holder =>
        simp only [hid, Option.some.injEq] at h
        exact ⟨c, List.mem_cons_self, id, holder, hc, h.symm, Or.inl hid⟩
      | none =>
        simp only [hid] at h
        obtain ⟨c', hc', x, u, hx, hcause, hu | ⟨b, hb, hbx, hbu⟩⟩ := ih h
        · -- The holder that is named is the head of the list or was there before.
          refine ⟨c', List.mem_cons_of_mem _ hc', x, u, hx, hcause, ?_⟩
          rcases Dict.eq_or_get?_of_insert hu with ⟨rfl, rfl⟩ | hold
          · exact Or.inr ⟨c, (List.singleton_sublist.mpr hc').cons_cons c, hc, rfl⟩
          · exact Or.inl hold
        · exact ⟨c', List.mem_cons_of_mem _ hc', x, u, hx, hcause,
            Or.inr ⟨b, hb.cons c, hbx, hbu⟩⟩

/-- Consumers with their ids; those without an id are left out. -/
def withIds (cs : List Consumer) : List (String × Consumer) :=
  cs.filterMap fun c => c.id.map fun id => (id, c)

/-- A view with consumers written under their ids; of several with one id the last. -/
def overwritten (view : Dict Consumer) (cs : List Consumer) : Dict Consumer :=
  (withIds cs).foldl (fun d e => d.insert e.1 e.2) view

/-- Consumers without ids are left out. -/
theorem mem_withIds {cs : List Consumer} {i : String} {c : Consumer} :
    (i, c) ∈ withIds cs ↔ c ∈ cs ∧ c.id = some i := by
  rw [withIds, List.mem_filterMap]
  constructor
  · rintro ⟨c', hc', he⟩
    obtain ⟨id, hid, heq⟩ := Option.map_eq_some_iff.mp he
    cases heq
    exact ⟨hc', hid⟩
  · rintro ⟨hc, hid⟩
    exact ⟨c, hc, by rw [hid]; rfl⟩

/-- A written consumer is found under its id, and all others are found as before. -/
theorem get?_overwritten (view : Dict Consumer) (cs : List Consumer) (i : String) :
    (overwritten view cs).get? i = ((byId cs).get? i).or (view.get? i) :=
  Dict.get?_foldl_insert _ _ _

/-- The last consumer with an id counts. -/
theorem get?_byId_concat (cs : List Consumer) (c : Consumer) (i : String) :
    (byId (cs ++ [c])).get? i = if c.id = some i then some c else (byId cs).get? i := by
  rw [byId, byId, List.filterMap_append]
  cases hc : c.id with
  | none => simp [hc]
  | some j =>
    rw [List.filterMap_cons, hc]
    simpa using Dict.get?_ofList_concat _ (j, c) i

/-- Consumers that are changed under their ids are found changed. -/
theorem get?_byId_map {f : Consumer → Consumer} (hid : ∀ c, (f c).id = c.id) (cs : List Consumer)
    (i : String) : (byId (cs.map f)).get? i = ((byId cs).get? i).map f := by
  induction cs using List.reverseRecOn with
  | nil => rfl
  | append_singleton cs c ih =>
    rw [List.map_append, List.map_singleton, get?_byId_concat, get?_byId_concat, hid, ih]
    split <;> rfl

/-- What a batch holds under an id is one of its consumers with this id. -/
theorem mem_of_get?_byId {cs : List Consumer} {i : String} {c : Consumer}
    (h : (byId cs).get? i = some c) : c ∈ cs ∧ c.id = some i :=
  mem_withIds.mp (Dict.mem_of_get?_ofList h)

/-- Every id of a batch has a consumer in it. -/
theorem contains_byId {cs : List Consumer} {i : String} :
    (byId cs).contains i = true ↔ ∃ c ∈ cs, c.id = some i := by
  refine Dict.contains_ofList.trans ?_
  constructor
  · rintro ⟨c, hc⟩
    exact ⟨c, mem_withIds.mp hc⟩
  · rintro ⟨c, hc⟩
    exact ⟨c, mem_withIds.mpr hc⟩

/-- Of consumers with different ids each one is held under its own. -/
theorem get?_byId_eq_some_iff {cs : List Consumer} (hcs : cs.Pairwise fun c c' => c.id ≠ c'.id)
    {i : String} {c : Consumer} : (byId cs).get? i = some c ↔ c ∈ cs ∧ c.id = some i := by
  refine ⟨mem_of_get?_byId, fun ⟨hc, hi⟩ => ?_⟩
  obtain ⟨d, hd⟩ := Dict.contains_iff.mp (contains_byId.mpr ⟨c, hc, hi⟩)
  obtain ⟨hmem, hid⟩ := mem_of_get?_byId hd
  have hsymm : Std.Symm fun c c' : Consumer => c.id ≠ c'.id := ⟨fun _ _ h => h.symm⟩
  have hsame : d = c := by
    by_contra hne
    exact hcs.forall hmem hc hne (hid.trans hi.symm)
  rw [hd, hsame]

/-- Consumers with different ids that are written are all found under them. -/
theorem get?_overwritten_of_mem (view : Dict Consumer) {cs : List Consumer}
    (hcs : cs.Pairwise fun c c' => c.id ≠ c'.id) {c : Consumer} (hc : c ∈ cs) {i : String}
    (hi : c.id = some i) : (overwritten view cs).get? i = some c := by
  rw [get?_overwritten, (get?_byId_eq_some_iff hcs).mpr ⟨hc, hi⟩, Option.some_or]

/-- A consumer of the written view was written or was there before under the same id. -/
theorem get?_overwritten_cases {view : Dict Consumer} {cs : List Consumer} {i : String}
    {c : Consumer} (h : (overwritten view cs).get? i = some c) :
    (c ∈ cs ∧ c.id = some i) ∨ view.get? i = some c := by
  rw [get?_overwritten] at h
  cases hb : (byId cs).get? i with
  | none => exact Or.inr (by simpa [hb] using h)
  | some c' =>
    rw [hb, Option.some_or, Option.some.injEq] at h
    exact Or.inl (h ▸ mem_of_get?_byId hb)

/-- Nothing disappears from a view by writing. -/
theorem contains_overwritten {view : Dict Consumer} {cs : List Consumer} {i : String}
    (h : view.contains i = true) : (overwritten view cs).contains i = true := by
  obtain ⟨c, hc⟩ := Dict.contains_iff.mp h
  rw [Dict.contains, get?_overwritten, hc]
  cases (byId cs).get? i <;> rfl

/-- The consumers of the written view with their ids, those not written first. -/
def overlaidEntries (view : Dict Consumer) (cs : List Consumer) : List (String × Consumer) :=
  (view.entries.filter fun e => !(byId cs).contains e.1) ++ (byId cs).entries

/-- The consumers that are checked are those of the written view, in some order. -/
theorem overlaid_perm (listing : Listing) (view : Dict Consumer) (cs : List Consumer) :
    (overlaid listing view cs).Perm ((overlaidEntries view cs).map Prod.snd) := by
  rw [overlaid, overlaidEntries, List.map_append]
  exact (listing.perm _).append_left _

/-- The entries are those of the written view. -/
theorem mem_overlaidEntries {view : Dict Consumer} {cs : List Consumer} {i : String}
    {c : Consumer} :
    (i, c) ∈ overlaidEntries view cs ↔ (overwritten view cs).get? i = some c := by
  rw [overlaidEntries, List.mem_append, List.mem_filter, ← Dict.get?_eq_some_iff,
    ← Dict.get?_eq_some_iff, get?_overwritten, Dict.contains]
  cases (byId cs).get? i <;> simp

/-- No two of them have one id. -/
theorem overlaidEntries_keys_ne (view : Dict Consumer) (cs : List Consumer) :
    (overlaidEntries view cs).Pairwise fun a b => a.1 ≠ b.1 := by
  have hne {d : Dict Consumer} : d.entries.Pairwise fun a b => a.1 ≠ b.1 :=
    List.pairwise_map.mp d.nodup_keys
  rw [overlaidEntries, List.pairwise_append]
  refine ⟨hne.filter _, hne, fun a ha b hb heq => ?_⟩
  have hmiss := (List.mem_filter.mp ha).2
  have hhit : (byId cs).contains b.1 = true :=
    Dict.contains_iff.mpr ⟨b.2, Dict.get?_eq_some_iff.mpr hb⟩
  simp [heq, hhit] at hmiss

/-- The consumers of the written view share no id exactly if it has single holders. -/
theorem pairwise_overlaidEntries_iff {view : Dict Consumer} {cs : List Consumer} {k : String} :
    ((overlaidEntries view cs).map Prod.snd).Pairwise (Apart k) ↔
      OneHolder (overwritten view cs) k := by
  rw [List.pairwise_map]
  constructor
  · intro hp i j c c' h hi hj hc hc'
    by_contra hij
    have hsymm : Std.Symm fun a b : String × Consumer => Apart k a.2 b.2 :=
      ⟨fun _ _ hap => hap.symm⟩
    have hne : (i, c) ≠ (j, c') := fun he => hij (congrArg Prod.fst he)
    exact hp.forall (mem_overlaidEntries.mpr hi) (mem_overlaidEntries.mpr hj) hne h hc hc'
  · intro hone
    refine (overlaidEntries_keys_ne view cs).imp_of_mem ?_
    rintro ⟨i, c⟩ ⟨j, c'⟩ hi hj hne h hc hc'
    exact hne (hone (mem_overlaidEntries.mp hi) (mem_overlaidEntries.mp hj) hc hc')

/-- The owners in question are those of the written consumers. -/
theorem contains_ownerKeys {cs : List Consumer} {k : String} :
    (ownerKeys cs).contains k = true ↔ ∃ c ∈ cs, c.ownerKey = k := by
  rw [ownerKeys, Keys.contains_foldl_add]
  simp

/-- The check of written consumers where those of the written view are listed in some order. -/
def checkListed (listing written : List Consumer) : Except StoreError Unit :=
  match (ownerKeys written).keys.findSome? fun k => sharedId? k .empty listing with
  | some cause => .error (.rejected cause)
  | none => .ok ()

theorem checkIdentities_eq_checkListed (listing : Listing) (view : Dict Consumer)
    (cs : List Consumer) :
    checkIdentities listing view cs = checkListed (overlaid listing view cs) cs := rfl

/-- In whatever order the consumers are listed, a batch is accepted exactly if no id of an owner
named in it has two holders in the written view. -/
theorem checkListed_eq_ok_iff {view : Dict Consumer} {cs listing : List Consumer}
    (hlisting : listing.Perm ((overlaidEntries view cs).map Prod.snd)) :
    checkListed listing cs = .ok () ↔ ∀ c ∈ cs, OneHolder (overwritten view cs) c.ownerKey := by
  have hshared (k : String) : sharedId? k .empty listing = none ↔
      OneHolder (overwritten view cs) k := by
    rw [sharedId?_eq_none_iff, hlisting.pairwise_iff Apart.symm, pairwise_overlaidEntries_iff]
    simp
  have hfind : ((ownerKeys cs).keys.findSome? fun k => sharedId? k .empty listing) = none
      ↔ ∀ c ∈ cs, OneHolder (overwritten view cs) c.ownerKey := by
    rw [List.findSome?_eq_none_iff]
    constructor
    · intro h c hc
      have hcontains : (ownerKeys cs).contains c.ownerKey = true :=
        contains_ownerKeys.mpr ⟨c, hc, rfl⟩
      exact (hshared _).mp (h _ (Dict.mem_keys_iff.mpr hcontains))
    · intro h k hk
      have hcontains : (ownerKeys cs).contains k = true := Dict.mem_keys_iff.mp hk
      obtain ⟨c, hc, rfl⟩ := contains_ownerKeys.mp hcontains
      exact (hshared _).mpr (h c hc)
  rw [checkListed, ← hfind]
  split <;> simp_all

/-- Whatever the order is, a batch passes exactly if no owner in it gets an id with two holders. -/
theorem checkIdentities_eq_ok_iff {listing : Listing} {view : Dict Consumer}
    {cs : List Consumer} :
    checkIdentities listing view cs = .ok () ↔
      ∀ c ∈ cs, OneHolder (overwritten view cs) c.ownerKey := by
  rw [checkIdentities_eq_checkListed]
  exact checkListed_eq_ok_iff (overlaid_perm listing view cs)

/-- A batch that holds the same under the same ids leaves the same held in the written view. -/
theorem held?_overwritten_map {view : Dict Consumer} {cs : List Consumer} {f : Consumer → Consumer}
    {k : String} (hid : ∀ c, (f c).id = c.id) (hheld : ∀ c, (f c).held? k = c.held? k)
    (i : String) :
    ((overwritten view (cs.map f)).get? i).bind (·.held? k) =
      ((overwritten view cs).get? i).bind (·.held? k) := by
  rw [get?_overwritten, get?_overwritten, get?_byId_map hid]
  cases (byId cs).get? i with
  | none => rfl
  | some c => exact hheld c

/-- The check looks at ids, owners, kinds and identities only. -/
theorem checkIdentities_map {listing : Listing} {view : Dict Consumer} {cs : List Consumer}
    {f : Consumer → Consumer} (hid : ∀ c, (f c).id = c.id)
    (howner : ∀ c, (f c).ownerKey = c.ownerKey) (hheld : ∀ c k, (f c).held? k = c.held? k)
    (h : checkIdentities listing view cs = .ok ()) :
    checkIdentities listing view (cs.map f) = .ok () := by
  rw [checkIdentities_eq_ok_iff] at h ⊢
  intro c hc
  obtain ⟨d, hd, rfl⟩ := List.mem_map.mp hc
  rw [howner]
  exact (h d hd).of_held?_eq fun i => held?_overwritten_map hid (hheld · _) i

/-- Owners that a batch does not name lose holders at most. -/
theorem oneHolder_overwritten {listing : Listing} {view : Dict Consumer} {cs : List Consumer}
    {k : String} (hview : OneHolder view k) (hcheck : checkIdentities listing view cs = .ok ()) :
    OneHolder (overwritten view cs) k := by
  by_cases hk : ∃ c ∈ cs, c.ownerKey = k
  · obtain ⟨c, hc, rfl⟩ := hk
    exact checkIdentities_eq_ok_iff.mp hcheck c hc
  · refine hview.mono fun i c ho hi => ?_
    rcases get?_overwritten_cases hi with ⟨hc, _⟩ | hold
    · exact absurd ⟨c, hc, ho⟩ hk
    · exact hold

/-- A batch that passes leaves single holders everywhere. -/
theorem oneHolderEach_overwritten {listing : Listing} {view : Dict Consumer}
    {cs : List Consumer} (hview : OneHolderEach view)
    (hcheck : checkIdentities listing view cs = .ok ()) :
    OneHolderEach (overwritten view cs) :=
  fun k => oneHolder_overwritten (hview k) hcheck

end Transaction

end HostRoster
