import HostRoster.Proofs.Answers
import HostRoster.Proofs.Store.Commit

/-!
# What belongs to an owner

A unit of work that reads and writes consumers of one owner depends on nothing else: in two views
that show the same consumers of the owner, each of its calls answers the same and leaves views that
again show the same. The only look beyond the owner is the one for a uuid that is taken, so new
uuids must not be in use elsewhere. Where a batch is refused for a clash of ids, the clash that is
named is the one that comes first in the order in which the batch is gone through.
-/

namespace HostRoster

/-- The consumers of an owner, under their ids. -/
def ownedPart (d : Dict Consumer) (ownerKey : String) : Dict Consumer :=
  ⟨d.entries.filter fun e => e.2.ownerKey == ownerKey, d.ascending.filter _⟩

/-- A consumer of an owner's part is a consumer of the owner. -/
theorem get?_ownedPart_eq_some_iff {d : Dict Consumer} {k i : String} {c : Consumer} :
    (ownedPart d k).get? i = some c ↔ d.get? i = some c ∧ c.ownerKey = k := by
  rw [Dict.get?_eq_some_iff, Dict.get?_eq_some_iff, ownedPart, List.mem_filter, beq_iff_eq]

/-- Under an id the owner's part has what is there if it belongs to the owner. -/
theorem get?_ownedPart (d : Dict Consumer) (k i : String) :
    (ownedPart d k).get? i = (d.get? i).filter (·.ownerKey == k) := by
  apply Option.ext
  intro c
  rw [get?_ownedPart_eq_some_iff, Option.filter_eq_some_iff, beq_iff_eq]

/-- The consumers of the part are those of the owner, in the same order. -/
theorem values_ownedPart (d : Dict Consumer) (k : String) :
    (ownedPart d k).values = d.values.filter (·.ownerKey == k) := by
  rw [Dict.values, Dict.values, List.filter_map]
  rfl

/-- Two dictionaries with the same consumers of an owner have the same part of it. -/
theorem ownedPart_eq {d e : Dict Consumer} {k : String}
    (h : ∀ i c, c.ownerKey = k → (d.get? i = some c ↔ e.get? i = some c)) :
    ownedPart d k = ownedPart e k := by
  refine Dict.eq_of_get?_eq fun i => Option.ext fun c => ?_
  rw [get?_ownedPart_eq_some_iff, get?_ownedPart_eq_some_iff]
  exact and_congr_left (h i c)

/-- Two errors of calls for an owner that go through batches in two orders: one error, or the
clashes of ids within the owner that come first in two orders of the same consumers. -/
inductive StoreError.UpToListing (ownerKey : String) (listing listing' : Listing) :
    StoreError → StoreError → Prop where
  /-- The errors are one. -/
  | same (e : StoreError) : UpToListing ownerKey listing listing' e e
  /-- The orders differ, and so do the clashes that come first. -/
  | clash (hne : listing ≠ listing') {cs cs' : List Consumer} (hperm : cs.Perm cs')
    {cause cause' : Rejection} (h : Transaction.sharedId? ownerKey .empty cs = some cause)
    (h' : Transaction.sharedId? ownerKey .empty cs' = some cause') :
    UpToListing ownerKey listing listing' (.rejected cause) (.rejected cause')

/-- The uuids are not used by consumers of other owners. -/
def Reserved (d : Dict Consumer) (ownerKey : String) (uuids : String → Prop) : Prop :=
  ∀ ⦃i c⦄, d.get? i = some c → uuids c.uuid → c.ownerKey = ownerKey

namespace Transaction

/-- Two units of work are the same to a run for an owner. -/
structure SameFor (ownerKey : String) (t t' : Transaction) : Prop where
  /-- The same writes are refused. -/
  faults : t.faults = t'.faults
  /-- They see the same consumers of the owner. -/
  part : ownedPart t.view ownerKey = ownedPart t'.view ownerKey
  /-- They have written under the same ids. -/
  dirty : t.dirty = t'.dirty
  /-- They have written consumers of the same owners. -/
  touched : t.touched = t'.touched

/-- What calls come to that write consumers of an owner to two units of work: they fail in the same
way, but for the clash that is named, or lay one batch over both views. -/
inductive SameWrite (ownerKey : String) (t t' : Transaction) :
    Except StoreError Transaction → Except StoreError Transaction → Prop where
  /-- Both fail. -/
  | failed {e e' : StoreError} (h : StoreError.UpToListing ownerKey t.listing t'.listing e e') :
    SameWrite ownerKey t t' (.error e) (.error e')
  /-- Both lay the consumers over their views. -/
  | laid (cs : List Consumer) (hcs : ∀ c ∈ cs, c.ownerKey = ownerKey) :
    SameWrite ownerKey t t' (.ok (t.written cs)) (.ok (t'.written cs))

/-- A batch changes consumers of an owner that a view shows. -/
def Changes (ownerKey : String) (view : Dict Consumer) (cs : List Consumer) : Prop :=
  ∀ c ∈ cs, c.ownerKey = ownerKey ∧
    ∃ i, c.id = some i ∧ (ownedPart view ownerKey).contains i = true

section reading

variable {k : String} {t t' : Transaction}

/-- The consumers of an owner are read off its part. -/
theorem ownedBy_eq (t : Transaction) (k : String) : t.ownedBy k = (ownedPart t.view k).values := by
  rw [values_ownedPart, ownedBy]

/-- Units of work that are the same to an owner have the same consumers of it. -/
theorem SameFor.ownedBy (h : SameFor k t t') : t.ownedBy k = t'.ownedBy k := by
  rw [ownedBy_eq, ownedBy_eq, h.part]

/-- They find the same hosts of the owner. -/
theorem SameFor.hostConsumers (h : SameFor k t t') (hypervisorIds systemUuids : Keys) :
    t.hostConsumers k hypervisorIds systemUuids = t'.hostConsumers k hypervisorIds systemUuids := by
  rw [Transaction.hostConsumers, Transaction.hostConsumers, h.ownedBy]

/-- They find the same guests of the owner. -/
theorem SameFor.guestConsumers (h : SameFor k t t') (guestIds : Keys) :
    t.guestConsumers k guestIds = t'.guestConsumers k guestIds := by
  rw [Transaction.guestConsumers, Transaction.guestConsumers, h.ownedBy]

/-- They find the same hosts of its reporters. -/
theorem SameFor.consumersOfReporter (h : SameFor k t t') (reporter : String) :
    t.consumersOfReporter k reporter = t'.consumersOfReporter k reporter := by
  rw [Transaction.consumersOfReporter, Transaction.consumersOfReporter, h.ownedBy]

end reading

/-- A batch of an owner's consumers is laid over the owner's part. -/
theorem ownedPart_overwritten {view : Dict Consumer} {cs : List Consumer} {k : String}
    (hcs : ∀ c ∈ cs, c.ownerKey = k) :
    ownedPart (overwritten view cs) k = overwritten (ownedPart view k) cs := by
  refine Dict.eq_of_get?_eq fun i => ?_
  rw [get?_ownedPart, get?_overwritten, get?_overwritten, get?_ownedPart]
  cases hb : (byId cs).get? i with
  | none => rw [Option.none_or, Option.none_or]
  | some c =>
    have ho : c.ownerKey = k := hcs c (mem_of_get?_byId hb).1
    simp [ho]

/-- They stay the same when consumers of the owner are written. -/
theorem SameFor.written {k : String} {t t' : Transaction} (h : SameFor k t t')
    {cs : List Consumer} (hcs : ∀ c ∈ cs, c.ownerKey = k) :
    SameFor k (t.written cs) (t'.written cs) where
  faults := h.faults
  part := by
    rw [written_view, written_view, ownedPart_overwritten hcs, ownedPart_overwritten hcs, h.part]
  dirty := by simp only [Transaction.written, h.dirty]
  touched := by simp only [Transaction.written, h.touched]

/-- Uuids stay reserved when consumers of the owner are written. -/
theorem reserved_overwritten {view : Dict Consumer} {k : String} {uuids : String → Prop}
    (h : Reserved view k uuids) {cs : List Consumer} (hcs : ∀ c ∈ cs, c.ownerKey = k) :
    Reserved (overwritten view cs) k uuids := by
  intro i c hi hu
  rcases get?_overwritten_cases hi with ⟨hc, _⟩ | hold
  · exact hcs c hc
  · exact h hold hu

/-- Consumers of an owner do not disappear when consumers of the owner are written. -/
theorem Changes.overwritten {view : Dict Consumer} {k : String} {cs ds : List Consumer}
    (h : Changes k view ds) (hcs : ∀ c ∈ cs, c.ownerKey = k) :
    Changes k (overwritten view cs) ds := by
  intro d hd
  obtain ⟨ho, i, hi, hcontains⟩ := h d hd
  exact ⟨ho, i, hi, ownedPart_overwritten hcs ▸ contains_overwritten hcontains⟩

/-- Consumers that a batch changes are in the view. -/
theorem Changes.contains {view : Dict Consumer} {k : String} {cs : List Consumer}
    (h : Changes k view cs) : ∀ c ∈ cs, ∃ i, c.id = some i ∧ view.contains i = true := by
  intro c hc
  obtain ⟨_, i, hi, hcontains⟩ := h c hc
  obtain ⟨d, hd⟩ := Dict.contains_iff.mp hcontains
  have hseen : view.get? i = some d := (get?_ownedPart_eq_some_iff.mp hd).1
  exact ⟨i, hi, Dict.contains_iff.mpr ⟨d, hseen⟩⟩

/-- Clashes within an owner are found among its consumers. -/
theorem sharedId?_filter (k : String) (holders : Dict String) (l : List Consumer) :
    sharedId? k holders (l.filter (·.ownerKey == k)) = sharedId? k holders l := by
  induction l generalizing holders with
  | nil => rfl
  | cons c rest ih =>
    by_cases ho : c.ownerKey = k
    · have hkeep : (c :: rest).filter (·.ownerKey == k) = c :: rest.filter (·.ownerKey == k) :=
        List.filter_cons_of_pos (by simpa using ho)
      rw [hkeep, sharedId?_cons, sharedId?_cons]
      simp only [ih]
    · have hdrop : (c :: rest).filter (·.ownerKey == k) = rest.filter (·.ownerKey == k) :=
        List.filter_cons_of_neg (by simpa using ho)
      have hheld : c.held? k = none := by simp [Consumer.held?, ho]
      rw [hdrop, ih, sharedId?_cons, hheld]

/-- Of a batch over a view the owner has what it has over its part. -/
theorem filter_overlaid {listing : Listing} {view : Dict Consumer} {cs : List Consumer}
    {k : String} :
    (overlaid listing view cs).filter (·.ownerKey == k) =
      (overlaid listing (ownedPart view k) cs).filter (·.ownerKey == k) := by
  simp only [overlaid, ownedPart, List.filter_append, List.filter_map, List.filter_filter]
  congr 2
  refine List.filter_congr fun e _ => ?_
  simp only [Function.comp_apply]
  cases e.2.ownerKey == k <;> simp

/-- The check of an owner's batch looks for clashes within the owner only. -/
theorem findSome?_sharedId? {cs : List Consumer} {k : String} (hcs : ∀ c ∈ cs, c.ownerKey = k)
    (l : List Consumer) :
    ((ownerKeys cs).keys.findSome? fun j => sharedId? j .empty l) =
      if (ownerKeys cs).keys = [] then none else sharedId? k .empty l := by
  have hkeys : ∀ j ∈ (ownerKeys cs).keys, j = k := by
    intro j hj
    have hcontains : (ownerKeys cs).contains j = true := Dict.mem_keys_iff.mp hj
    obtain ⟨c, hc, rfl⟩ := contains_ownerKeys.mp hcontains
    exact hcs c hc
  generalize (ownerKeys cs).keys = ks at hkeys ⊢
  induction ks with
  | nil => rfl
  | cons j rest ih =>
    obtain rfl := hkeys j List.mem_cons_self
    rw [if_neg (List.cons_ne_nil _ _), List.findSome?_cons,
      ih fun j hj => hkeys j (List.mem_cons_of_mem _ hj)]
    cases sharedId? j .empty l with
    | some cause => rfl
    | none => exact ite_self none

/-- The check of an owner's batch depends on the owner's part only. -/
theorem checkIdentities_congr {listing : Listing} {view view' : Dict Consumer}
    {cs : List Consumer} {k : String} (hpart : ownedPart view k = ownedPart view' k)
    (hcs : ∀ c ∈ cs, c.ownerKey = k) :
    checkIdentities listing view cs = checkIdentities listing view' cs := by
  have hshared : sharedId? k .empty (overlaid listing view cs) =
      sharedId? k .empty (overlaid listing view' cs) := by
    rw [← sharedId?_filter, filter_overlaid, hpart, ← filter_overlaid, sharedId?_filter]
  rw [checkIdentities, checkIdentities, findSome?_sharedId? hcs, findSome?_sharedId? hcs, hshared]

/-- What the check of an owner's batch reports is the clash within the owner that comes first. -/
theorem of_checkIdentities_eq_error {listing : Listing} {view : Dict Consumer}
    {cs : List Consumer} {k : String} (hcs : ∀ c ∈ cs, c.ownerKey = k) {e : StoreError}
    (h : checkIdentities listing view cs = .error e) :
    ∃ cause, e = .rejected cause ∧
      sharedId? k .empty (overlaid listing view cs) = some cause := by
  rw [checkIdentities, findSome?_sharedId? hcs] at h
  split at h
  · next cause hcause =>
    split at hcause
    · cases hcause
    · cases h
      exact ⟨cause, rfl, hcause⟩
  · cases h

/-- In two orders the check of an owner's batch comes to the same, but for the clash it names. -/
theorem checkIdentities_upToListing (listing listing' : Listing) {view view' : Dict Consumer}
    {cs : List Consumer} {k : String} (hpart : ownedPart view k = ownedPart view' k)
    (hcs : ∀ c ∈ cs, c.ownerKey = k) :
    Answers.Same (StoreError.UpToListing k listing listing') (checkIdentities listing view cs)
      (checkIdentities listing' view' cs) := by
  rw [checkIdentities_congr hpart hcs]
  have hverdict : checkIdentities listing view' cs = .ok () ↔
      checkIdentities listing' view' cs = .ok () := by
    rw [checkIdentities_eq_ok_iff, checkIdentities_eq_ok_iff]
  cases h : checkIdentities listing view' cs with
  | ok u =>
    rw [hverdict.mp h]
    exact .ok ()
  | error e =>
    cases h' : checkIdentities listing' view' cs with
    | ok u =>
      rw [hverdict.mpr h'] at h
      cases h
    | error e' =>
      refine .error ?_
      by_cases hlisting : listing = listing'
      · subst hlisting
        rw [h] at h'
        cases h'
        exact .same e
      · obtain ⟨cause, rfl, hcause⟩ := of_checkIdentities_eq_error hcs h
        obtain ⟨cause', rfl, hcause'⟩ := of_checkIdentities_eq_error hcs h'
        have hperm : (overlaid listing view' cs).Perm (overlaid listing' view' cs) :=
          (overlaid_perm listing view' cs).trans (overlaid_perm listing' view' cs).symm
        exact .clash hlisting hperm hcause hcause'

/-- A single consumer is gone through in one order only. -/
theorem checkIdentities_singleton (listing listing' : Listing) (view : Dict Consumer)
    (c : Consumer) : checkIdentities listing view [c] = checkIdentities listing' view [c] := by
  have hvalues : (byId [c]).values = [] ∨ (byId [c]).values = [c] := by
    rw [byId, List.filterMap_cons]
    cases c.id with
    | none => exact Or.inl rfl
    | some i => exact Or.inr rfl
  have hlist : listing.list (byId [c]).values = listing'.list (byId [c]).values := by
    rcases hvalues with h | h
    · rw [h, List.perm_nil.mp (listing.perm []), List.perm_nil.mp (listing'.perm [])]
    · rw [h, List.perm_singleton.mp (listing.perm [c]), List.perm_singleton.mp (listing'.perm [c])]
  rw [checkIdentities, checkIdentities, overlaid, overlaid, hlist]

/-- Whether a reserved uuid is taken depends on the owner's part only. -/
theorem any_uuid_ownedPart {view : Dict Consumer} {k uuid : String} {uuids : String → Prop}
    (h : Reserved view k uuids) (hu : uuids uuid) :
    view.values.any (·.uuid == uuid) = (ownedPart view k).values.any (·.uuid == uuid) := by
  rw [Bool.eq_iff_iff, List.any_eq_true, List.any_eq_true]
  refine exists_congr fun c => and_congr_left fun hc => ?_
  rw [Dict.mem_values_iff, Dict.mem_values_iff]
  refine exists_congr fun i => ?_
  rw [get?_ownedPart_eq_some_iff]
  exact ⟨fun hi => ⟨hi, h hi (beq_iff_eq.mp hc ▸ hu)⟩, And.left⟩

section calls

variable {k : String} {t t' : Transaction}

/-- The same consumers may be registered, if uuids are reserved. -/
theorem SameFor.checkNew (h : SameFor k t t') {uuids : String → Prop}
    (hr : Reserved t.view k uuids) (hr' : Reserved t'.view k uuids) {c : Consumer}
    (hu : uuids c.uuid) : t.checkNew c = t'.checkNew c := by
  rw [Transaction.checkNew, Transaction.checkNew, h.faults, any_uuid_ownedPart hr hu,
    any_uuid_ownedPart hr' hu, h.part]

/-- The same batches pass; where one does not, the clashes that are named may differ. -/
theorem SameFor.checkBulk (h : SameFor k t t') {cs : List Consumer}
    (hcs : Changes k t.view cs) :
    Answers.Same (StoreError.UpToListing k t.listing t'.listing) (t.checkBulk cs)
      (t'.checkBulk cs) := by
  have hcs' : Changes k t'.view cs := fun c hc => h.part ▸ hcs c hc
  rw [Transaction.checkBulk, Transaction.checkBulk, h.faults,
    unknown?_eq_none_iff.mpr hcs.contains, unknown?_eq_none_iff.mpr hcs'.contains]
  cases t'.faults.bulkFailure with
  | some message => exact .error (.same _)
  | none => exact checkIdentities_upToListing _ _ h.part fun c hc => (hcs c hc).1

/-- The guests that a view has for a consumer of the owner are in the owner's part. -/
theorem keepingGuests_ownedPart {view : Dict Consumer} {c : Consumer} {i : String}
    (hi : c.id = some i) (hcontains : (ownedPart view k).contains i = true) :
    keepingGuests view c = keepingGuests (ownedPart view k) c := by
  obtain ⟨d, hd⟩ := Dict.contains_iff.mp hcontains
  rw [keepingGuests_eq hi hd, keepingGuests_eq hi (get?_ownedPart_eq_some_iff.mp hd).1]

/-- Registering a consumer of the owner under a reserved uuid fails in the same way or lays the same
consumer over both views. -/
theorem SameFor.create (h : SameFor k t t') {uuids : String → Prop}
    (hr : Reserved t.view k uuids) (hr' : Reserved t'.view k uuids) {c : Consumer}
    (ho : c.ownerKey = k) (hu : uuids c.uuid) (i : String) :
    (∃ e, t.create i c = .error e ∧ t'.create i c = .error e) ∨
      (t.create i c = .ok ({ c with id := some i }, t.written [{ c with id := some i }]) ∧
        t'.create i c = .ok ({ c with id := some i }, t'.written [{ c with id := some i }])) := by
  have hnew := h.checkNew hr hr' hu
  have hident : checkIdentities t.listing t.view [{ c with id := some i }] =
      checkIdentities t'.listing t'.view [{ c with id := some i }] :=
    (checkIdentities_congr h.part fun d hd => by rw [List.mem_singleton.mp hd, ho]).trans
      (checkIdentities_singleton _ _ _ _)
  rw [create_eq, create_eq, hnew, hident]
  rcases t'.checkNew c with e | _
  · exact Or.inl ⟨e, rfl, rfl⟩
  · rcases checkIdentities t'.listing t'.view [{ c with id := some i }] with e | _
    · exact Or.inl ⟨e, rfl, rfl⟩
    · exact Or.inr ⟨rfl, rfl⟩

/-- Writing consumers of the owner comes to the same in both. -/
theorem SameFor.updateMemberships (h : SameFor k t t') {cs : List Consumer}
    (hcs : Changes k t.view cs) :
    SameWrite k t t' (t.updateMemberships cs) (t'.updateMemberships cs) := by
  have hcheck := h.checkBulk hcs
  rw [updateMemberships_eq, updateMemberships_eq]
  generalize t.checkBulk cs = answer, t'.checkBulk cs = answer' at hcheck ⊢
  cases hcheck with
  | error he => exact .failed he
  | ok u => exact .laid cs fun d hd => (hcs d hd).1

/-- So does writing their attributes. -/
theorem SameFor.updateAttributes (h : SameFor k t t') {cs : List Consumer}
    (hcs : Changes k t.view cs) :
    SameWrite k t t' (t.updateAttributes cs) (t'.updateAttributes cs) := by
  have hkept : cs.map (keepingGuests t.view) = cs.map (keepingGuests t'.view) := by
    refine List.map_congr_left fun c hc => ?_
    obtain ⟨_, i, hi, hcontains⟩ := hcs c hc
    rw [keepingGuests_ownedPart hi hcontains, h.part,
      ← keepingGuests_ownedPart hi (h.part ▸ hcontains)]
  have howner : ∀ d ∈ cs.map (keepingGuests t'.view), d.ownerKey = k := by
    intro d hd
    obtain ⟨c, hc, rfl⟩ := List.mem_map.mp hd
    rw [keepingGuests_ownerKey]
    exact (hcs c hc).1
  have hcheck := h.checkBulk hcs
  rw [updateAttributes_eq, updateAttributes_eq, hkept]
  generalize t.checkBulk cs = answer, t'.checkBulk cs = answer' at hcheck ⊢
  cases hcheck with
  | error he => exact .failed he
  | ok u => exact .laid _ howner

end calls

/-- A batch laid over a unit of work that has written nothing is found under the ids noted. -/
theorem mem_of_dirty {t : Transaction} (hclean : t.dirty = .empty) {cs : List Consumer}
    {i : String} (hi : (t.written cs).dirty.contains i = true) :
    ∃ c ∈ cs, c.id = some i ∧ (t.written cs).view.get? i = some c := by
  rw [contains_written_dirty, hclean] at hi
  have hby : (byId cs).contains i = true := contains_byId.mpr (hi.resolve_left (by simp))
  obtain ⟨c, hb⟩ := Dict.contains_iff.mp hby
  obtain ⟨hc, hid⟩ := mem_of_get?_byId hb
  refine ⟨c, hc, hid, ?_⟩
  rw [written_view, get?_overwritten, hb, Option.some_or]

/-- Units of work that are the same to the owner of all that they have written publish the same. -/
theorem SameFor.published {k : String} {t t' : Transaction} (h : SameFor k t t')
    (hdirty : ∀ i, t.dirty.contains i = true → ∃ c, t.view.get? i = some c ∧ c.ownerKey = k)
    (r : Registry) : t.published r = t'.published r := by
  have hconsumers : (t.published r).consumers = (t'.published r).consumers := by
    refine Dict.eq_of_get?_eq fun i => ?_
    rw [get?_published, get?_published, ← h.dirty]
    by_cases hi : t.dirty.contains i = true
    · obtain ⟨c, hc, ho⟩ := hdirty i hi
      have hpart := get?_ownedPart_eq_some_iff.mpr ⟨hc, ho⟩
      rw [h.part] at hpart
      rw [if_pos hi, if_pos hi, hc, (get?_ownedPart_eq_some_iff.mp hpart).1]
    · rw [if_neg hi, if_neg hi]
  have hversions : (t.published r).versions = (t'.published r).versions := by
    simp only [Transaction.published, h.touched]
  simp only [Transaction.published] at hconsumers hversions ⊢
  rw [hconsumers, hversions]

/-- A unit of work that has written nothing publishes nothing. -/
theorem published_of_clean {t : Transaction} {r : Registry} (hdirty : t.dirty = .empty)
    (htouched : t.touched = .empty) : t.published r = r := by
  rw [Transaction.published, hdirty, htouched]
  rfl

/-- What other owners have in the registry stays where it is, if nothing is published over it. -/
theorem ownedPart_published {t : Transaction} {r : Registry} {k j : String} (hne : j ≠ k)
    (hdirty : ∀ i, t.dirty.contains i = true →
      (∃ c, t.view.get? i = some c ∧ c.ownerKey = k) ∧
        ∀ c, r.consumers.get? i = some c → c.ownerKey = k) :
    ownedPart (t.published r).consumers j = ownedPart r.consumers j := by
  refine ownedPart_eq fun i c ho => ?_
  rw [get?_published]
  by_cases hi : t.dirty.contains i = true
  · obtain ⟨⟨d, hd, hdo⟩, hold⟩ := hdirty i hi
    rw [if_pos hi, hd, Option.some_or, Option.some.injEq]
    constructor
    · rintro rfl
      exact absurd (ho.symm.trans hdo) hne
    · intro hc
      exact absurd (ho.symm.trans (hold c hc)) hne
  · rw [if_neg hi]

end Transaction

end HostRoster
