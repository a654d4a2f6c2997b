import HostRoster.Proofs.Plan
import HostRoster.Proofs.Store.Conflicts

/-!
# Uuids

A unit of work registers no consumer under a uuid that it sees already, but what it sees is a copy.
If bulk writes leave uuids as they are, the consumers of the store have distinct uuids after every
step exactly if no commit doubles a uuid: two units of work that are open at once may register one
uuid for different owners, and since no owner is contested, the later commit succeeds as well.

The proof labels the ids with uuids. A label, once given, is that of every record of the id, in the
store, in the views and in what was told of them, as new ids are never ids in use.
-/

namespace HostRoster

namespace Deed

/-- What was staged was written by some call. -/
theorem exists_of_mem_staged {name : String} {d : Consumer} {deeds : List Deed}
    (h : d ∈ staged name deeds) : ∃ n records, .wrote n records ∈ deeds ∧ d ∈ records := by
  induction deeds with
  | nil => simp [staged] at h
  | cons x past ih =>
    have hpast (h : d ∈ staged name past) :
        ∃ n records, .wrote n records ∈ x :: past ∧ d ∈ records := by
      obtain ⟨n, records, hin, hd⟩ := ih h
      exact ⟨n, records, List.mem_cons_of_mem x hin, hd⟩
    cases x with
    | wrote n records =>
      rw [staged] at h
      split at h
      · rcases List.mem_append.mp h with h | h
        · exact hpast h
        · exact ⟨n, records, List.mem_cons_self, h⟩
      · exact hpast h
    | opened n | committed n | ended n =>
      rw [staged] at h
      split at h
      · simp at h
      · exact hpast h

theorem exists_of_mem_rivals {name : String} {e : Consumer} {deeds : List Deed}
    (h : e ∈ (rivals name deeds).flatten) :
    ∃ n records, .wrote n records ∈ deeds ∧ e ∈ records := by
  induction deeds with
  | nil => simp [rivals] at h
  | cons x past ih =>
    have hpast (h : ∃ n records, .wrote n records ∈ past ∧ e ∈ records) :
        ∃ n records, .wrote n records ∈ x :: past ∧ e ∈ records := by
      obtain ⟨n, records, hin, hd⟩ := h
      exact ⟨n, records, List.mem_cons_of_mem x hin, hd⟩
    cases x with
    | wrote n records => exact hpast (ih h)
    | committed n =>
      rw [rivals] at h
      split at h
      · simp at h
      · rw [List.flatten_append, List.flatten_singleton] at h
        rcases List.mem_append.mp h with h | h
        · exact hpast (ih h)
        · exact hpast (exists_of_mem_staged h)
    | opened n | ended n =>
      rw [rivals] at h
      split at h
      · simp at h
      · exact hpast (ih h)

end Deed

/-- What is staged takes its new ids from the supply. -/
theorem Transaction.Draws.leads {t : Transaction} {ids ids' : Supply} {cs : List Consumer}
    (h : t.Draws ids cs ids') : ids.Leads ids' := by
  cases h with
  | fresh => exact ids.leads_rest
  | seen => exact .refl ids

namespace World

theorem Did.leads {w w' : World} {d : Deed} (h : w.Did d w') :
    w.store.supplies.ids.Leads w'.store.supplies.ids := by
  cases h with
  | opened | idle => exact .refl _
  | wrote _ _ hdraws => exact hdraws.leads
  | committed _ _ hids | ended hids => exact hids ▸ .refl _

/-- Records that were staged have the uuids of those seen under their ids. -/
def LeavesUuids (w : World) : Deed → Prop
  | .wrote name records => ∀ t ∈ w.works.get? name, ∀ d ∈ records,
      ∀ seen ∈ d.id.bind t.view.get?, seen.uuid = d.uuid
  | _ => True

instance (w : World) : (d : Deed) → Decidable (w.LeavesUuids d)
  | .wrote _ _ => inferInstanceAs (Decidable (∀ t ∈ _, _))
  | .opened _ | .committed _ | .ended _ => inferInstanceAs (Decidable True)

theorem LeavesUuids.keepsUuids {w : World} {name : String} {t : Transaction} {cs : List Consumer}
    (h : w.LeavesUuids (.wrote name cs)) (ht : w.works.get? name = some t)
    (hseen : ∀ c ∈ cs, ∃ i, c.id = some i ∧ t.view.contains i = true) :
    Transaction.KeepsUuids t.view cs := by
  intro c hc
  obtain ⟨i, hi, hin⟩ := hseen c hc
  obtain ⟨d, hd⟩ := Dict.contains_iff.mp hin
  exact ⟨i, d, hi, hd, h t ht c hc d (by rw [hi]; exact hd)⟩

end World

namespace Chronicle

/-- Whether steps, each when it is taken, are as said. -/
def Along (P : Chronicle → Step → Prop) : Chronicle → List Step → Prop
  | _, [] => True
  | c, x :: rest => P c x ∧ Along P (c.step x) rest

instance (P : Chronicle → Step → Prop) [∀ c x, Decidable (P c x)] :
    (c : Chronicle) → (steps : List Step) → Decidable (Along P c steps)
  | _, [] => inferInstanceAs (Decidable True)
  | c, x :: rest =>
    have := instDecidableAlong P (c.step x) rest
    inferInstanceAs (Decidable (_ ∧ _))

theorem leads_run (c : Chronicle) (steps : List Step) :
    c.world.store.supplies.ids.Leads (c.run steps).world.store.supplies.ids := by
  induction steps generalizing c with
  | nil => exact .refl _
  | cons x rest ih => exact (c.world.did_step x).leads.trans (ih (c.step x))

/-- Ids stand for the uuids that they are labelled with, and the ids that are handed out up to a
place of the supply are without a label. -/
structure Labelled (c : Chronicle) (label : String → Option String) (last : Supply) : Prop where
  /-- So in the store. -/
  stored : ∀ i d, c.registry.consumers.get? i = some d → label i = some d.uuid
  /-- So in the views. -/
  views : ∀ name t, c.world.works.get? name = some t →
    ∀ i d, t.view.get? i = some d → label i = some d.uuid
  /-- So in what is told. -/
  told : ∀ name records, .wrote name records ∈ c.deeds →
    ∀ d ∈ records, ∃ i, d.id = some i ∧ label i = some d.uuid
  /-- The place is still ahead. -/
  leads : c.world.store.supplies.ids.Leads last
  /-- The ids that are handed out have no label. -/
  unspent : ∀ i ∈ c.world.store.supplies.ids.handedOut last, label i = none
  /-- Nor are they handed out twice. -/
  once : (c.world.store.supplies.ids.handedOut last).Nodup

namespace Labelled

variable {c : Chronicle} {label : String → Option String} {last : Supply}

theorem ofStore {s : Store} (hleads : s.supplies.ids.Leads last)
    (hfresh : ∀ i ∈ s.supplies.ids.handedOut last, s.registry.consumers.contains i = false)
    (honce : (s.supplies.ids.handedOut last).Nodup) :
    (ofStore s).Labelled (fun i => (s.registry.consumers.get? i).map Consumer.uuid) last where
  stored i d hi := by
    have hget : s.registry.consumers.get? i = some d := hi
    rw [hget, Option.map_some]
  views name t ht := by simp [Chronicle.ofStore, World.ofStore] at ht
  told name records h := by simp [Chronicle.ofStore] at h
  leads := hleads
  unspent i hi := by
    rw [Option.map_eq_none_iff]
    exact Option.not_isSome_iff_eq_none.mp (Bool.eq_false_iff.mp (hfresh i hi))
  once := honce

/-- Staged records have the uuids of their labels. -/
theorem staged (h : c.Labelled label last) {name : String} {d : Consumer}
    (hd : d ∈ c.staged name) : ∃ i, d.id = some i ∧ label i = some d.uuid := by
  obtain ⟨n, records, hin, hd⟩ := Deed.exists_of_mem_staged hd
  exact h.told n records hin d hd

/-- So have records of rivals. -/
theorem rivals (h : c.Labelled label last) {name : String} {e : Consumer}
    (he : e ∈ (c.rivals name).flatten) : ∃ i, e.id = some i ∧ label i = some e.uuid := by
  obtain ⟨n, records, hin, he⟩ := Deed.exists_of_mem_rivals he
  exact h.told n records hin e he

/-- More labels, for records that are laid over the view of a unit of work. -/
theorem wrote (h : c.Labelled label last) {label' : String → Option String}
    (hmore : ∀ i u, label i = some u → label' i = some u) {w' : World} {name : String}
    {t : Transaction} {cs : List Consumer} (ht : c.world.works.get? name = some t)
    (hcs : ∀ d ∈ cs, ∃ i, d.id = some i ∧ label' i = some d.uuid)
    (hregistry : w'.store.registry = c.registry)
    (hworks : w'.works = c.world.works.insert name (t.written cs))
    (hlast : w'.store.supplies.ids.Leads last)
    (hunspent : ∀ i ∈ w'.store.supplies.ids.handedOut last, label' i = none)
    (honce : (w'.store.supplies.ids.handedOut last).Nodup) :
    (⟨w', .wrote name cs :: c.deeds⟩ : Chronicle).Labelled label' last where
  stored i d hi := by
    simp only [registry, hregistry] at hi
    exact hmore i d.uuid (h.stored i d hi)
  views n t' ht' i d hi := by
    rcases Dict.eq_or_get?_of_insert (hworks ▸ ht') with ⟨_, rfl⟩ | hold
    · rcases Transaction.get?_overwritten_cases hi with ⟨hd, hid⟩ | hseen
      · obtain ⟨j, hj, hlabel⟩ := hcs d hd
        obtain rfl : i = j := Option.some.inj (hid.symm.trans hj)
        exact hlabel
      · exact hmore i d.uuid (h.views name t ht i d hseen)
    · exact hmore i d.uuid (h.views n t' hold i d hi)
  told n records hin d hd := by
    rcases List.mem_cons.mp hin with heq | hin
    · cases heq
      exact hcs d hd
    · obtain ⟨i, hi, hlabel⟩ := h.told n records hin d hd
      exact ⟨i, hi, hmore i d.uuid hlabel⟩
  leads := hlast
  unspent := hunspent
  once := honce

/-- The id of a new consumer, which is the next one of the supply, is labelled with its uuid. -/
theorem registered (h : c.Labelled label last) {w' : World} {name : String} {t : Transaction}
    (ht : c.world.works.get? name = some t) (new : Consumer)
    (hregistry : w'.store.registry = c.registry)
    (hworks : w'.works = c.world.works.insert name
      (t.written [{ new with id := some c.world.store.supplies.ids.next }]))
    (hids : w'.store.supplies.ids = c.world.store.supplies.ids.rest)
    (hlast : w'.store.supplies.ids.Leads last) :
    (⟨w', .wrote name [{ new with id := some c.world.store.supplies.ids.next }] :: c.deeds⟩ :
      Chronicle).Labelled
        (Function.update label c.world.store.supplies.ids.next (some new.uuid)) last := by
  have hall := Supply.handedOut_eq_cons (hids ▸ hlast)
  have honce := h.once
  have hunspent := h.unspent
  rw [hall] at honce hunspent
  obtain ⟨hnext, honce⟩ := List.nodup_cons.mp honce
  refine h.wrote (fun i u hi => ?_) ht (fun d hd => ?_) hregistry hworks hlast (fun i hi => ?_)
    (hids ▸ honce)
  · have hne : i ≠ c.world.store.supplies.ids.next := by
      rintro rfl
      rw [hunspent _ List.mem_cons_self] at hi
      cases hi
    rw [Function.update_of_ne hne, hi]
  · obtain rfl := List.mem_singleton.mp hd
    exact ⟨_, rfl, Function.update_self ..⟩
  · rw [hids] at hi
    have hne : i ≠ c.world.store.supplies.ids.next := by
      rintro rfl
      exact hnext hi
    rw [Function.update_of_ne hne]
    exact hunspent i (List.mem_cons_of_mem _ hi)

/-- A deed that leaves uuids as they are labels a new id or none. -/
theorem did (h : c.Labelled label last) {d : Deed} {w' : World} (hd : c.world.Did d w')
    (hleaves : c.world.LeavesUuids d) (hlast : w'.store.supplies.ids.Leads last) :
    ∃ label', (⟨w', d :: c.deeds⟩ : Chronicle).Labelled label' last := by
  cases hd with
  | opened name =>
    refine ⟨label, h.stored, fun n t ht => ?_, fun n records hin => ?_, hlast, h.unspent, h.once⟩
    · rcases Dict.eq_or_get?_of_insert ht with ⟨_, rfl⟩ | hold
      · exact h.stored
      · exact h.views n t hold
    · exact h.told n records (by simpa using hin)
  | @wrote _ name t cs ht haccepts hdraws hregistry hworks =>
    generalize hids : w'.store.supplies.ids = ids at hdraws
    cases hdraws with
    | fresh new hnew => exact ⟨_, h.registered ht new hregistry hworks hids hlast⟩
    | seen hcs =>
      refine ⟨label, h.wrote (fun _ _ hi => hi) ht (fun d hd => ?_) hregistry hworks hlast
        (hids ▸ h.unspent) (hids ▸ h.once)⟩
      obtain ⟨i, seen, hi, hseen, huuid⟩ := hleaves.keepsUuids ht hcs d hd
      exact ⟨i, hi, huuid ▸ h.views name t ht i seen hseen⟩
  | @idle name =>
    refine ⟨label, h.stored, h.views, fun n records hin => ?_, hlast, h.unspent, h.once⟩
    rcases List.mem_cons.mp hin with heq | hin
    · cases heq
      exact fun d hd => by simp at hd
    · exact h.told n records hin
  | @committed _ name t ht hfree hids hregistry hworks =>
    refine ⟨label, fun i d hi => ?_, fun n t' ht' => ?_, fun n records hin => ?_, hlast,
      hids ▸ h.unspent, hids ▸ h.once⟩
    · simp only [registry, hregistry] at hi
      rcases Transaction.get?_of_published hi with hseen | hold
      · exact h.views name t ht i d hseen
      · exact h.stored i d hold
    · exact h.views n t' (Dict.get?_of_erase (hworks ▸ ht'))
    · exact h.told n records (by simpa using hin)
  | @ended _ name hids hregistry hworks =>
    refine ⟨label, fun i d hi => ?_, fun n t' ht' => ?_, fun n records hin => ?_, hlast,
      hids ▸ h.unspent, hids ▸ h.once⟩
    · simp only [registry, hregistry] at hi
      exact h.stored i d hi
    · exact h.views n t' (Dict.get?_of_erase (hworks ▸ ht'))
    · exact h.told n records (by simpa using hin)

end Labelled

/-- A commit that succeeds although others have committed, since the unit of work was opened, a
consumer of another owner under the uuid of one of its own. -/
def Doubles (c : Chronicle) : Deed → Prop
  | .committed name => ∃ d ∈ c.staged name, ∃ e ∈ (c.rivals name).flatten,
      d.uuid = e.uuid ∧ d.id ≠ e.id ∧ d.ownerKey ≠ e.ownerKey
  | _ => False

instance (c : Chronicle) : (d : Deed) → Decidable (c.Doubles d)
  | .committed _ => inferInstanceAs (Decidable (∃ d ∈ _, _))
  | .opened _ | .wrote _ _ | .ended _ => inferInstanceAs (Decidable False)

namespace Since

variable {c : Chronicle} {name : String} {t : Transaction} {r : Registry}
  {label : String → Option String} {last : Supply}

/-- What an open unit of work sees is what was there at its opening with what it has staged. -/
theorem view (h : c.Since name t r) :
    t.view = Transaction.overwritten r.consumers (c.staged name) := by
  obtain ⟨faults, listing, rfl⟩ := h.work
  exact Transaction.written_view _ _

/-- What is found after a commit is seen by the unit of work, as one of its own or of the store, or
others have committed it since. -/
theorem get?_published_cases (h : c.Since name t r) {i : String} {a : Consumer}
    (hi : (t.published c.registry).consumers.get? i = some a) :
    (t.view.get? i = some a ∧
      (a ∈ c.staged name ∧ a.id = some i ∨ c.registry.consumers.get? i = some a)) ∨
    (a ∈ (c.rivals name).flatten ∧ a.id = some i ∧ c.registry.consumers.get? i = some a) := by
  rw [h.consumers_published, Transaction.get?_overwritten] at hi
  rw [h.view, Transaction.get?_overwritten]
  cases hown : (Transaction.byId (c.staged name)).get? i with
  | some d =>
    obtain rfl : d = a := by simpa [hown] using hi
    exact Or.inl ⟨Option.some_or, Or.inl (Transaction.mem_of_get?_byId hown)⟩
  | none =>
    rw [hown, Option.none_or] at hi
    rw [Option.none_or]
    have hstored := hi
    rw [h.consumers] at hi
    rcases Transaction.get?_overwritten_cases hi with ⟨hrival, hid⟩ | hold
    · exact Or.inr ⟨hrival, hid, hstored⟩
    · exact Or.inl ⟨hold, Or.inr hstored⟩

/-- A commit keeps the uuids of the store distinct exactly if what it has staged and what others
have committed since share uuids only with their ids. -/
theorem distinctUuids_published_iff (h : c.Since name t r) (hlabelled : c.Labelled label last)
    (ht : c.world.works.get? name = some t) (hstored : DistinctUuids c.registry.consumers)
    (hview : DistinctUuids t.view) :
    DistinctUuids (t.published c.registry).consumers ↔
      ∀ d ∈ c.staged name, ∀ e ∈ (c.rivals name).flatten, d.uuid = e.uuid → d.id = e.id := by
  constructor
  · intro hdistinct d hd e he huuid
    obtain ⟨i, hi, hlabel⟩ := hlabelled.staged hd
    obtain ⟨j, hj, hlabel'⟩ := hlabelled.rivals he
    have hkept {k : String} {a : Consumer}
        (hk : (t.published c.registry).consumers.get? k = some a) : label k = some a.uuid :=
      (Transaction.get?_of_published hk).elim (hlabelled.views name t ht k a)
        (hlabelled.stored k a)
    obtain ⟨a, ha⟩ : ∃ a, (t.published c.registry).consumers.get? i = some a := by
      obtain ⟨own, hown⟩ := Dict.contains_iff.mp (Transaction.contains_byId.mpr ⟨d, hd, hi⟩)
      rw [h.consumers_published, Transaction.get?_overwritten, hown]
      exact ⟨own, Option.some_or⟩
    obtain ⟨b, hb⟩ : ∃ b, (t.published c.registry).consumers.get? j = some b := by
      obtain ⟨there, _, hthere⟩ := h.mem_rivals ⟨e, he, hj⟩
      rw [h.consumers_published]
      exact Dict.contains_iff.mp
        (Transaction.contains_overwritten (Dict.contains_iff.mpr ⟨there, hthere⟩))
    have hsame : a.uuid = b.uuid :=
      calc a.uuid = d.uuid := Option.some.inj ((hkept ha).symm.trans hlabel)
        _ = e.uuid := huuid
        _ = b.uuid := Option.some.inj (hlabel'.symm.trans (hkept hb))
    rw [hi, hj, hdistinct ha hb hsame]
  · intro hapart i j a b hi hj huuid
    rcases h.get?_published_cases hi with ⟨hseen, hfrom⟩ | ⟨hrival, hid, hthere⟩
    · rcases h.get?_published_cases hj with ⟨hseen', _⟩ | ⟨hrival', hid', hthere'⟩
      · exact hview hseen hseen' huuid
      · rcases hfrom with ⟨hown, hid⟩ | hthere
        · have hsame := hapart a hown b hrival' huuid
          rw [hid, hid'] at hsame
          exact Option.some.inj hsame
        · exact hstored hthere hthere' huuid
    · rcases h.get?_published_cases hj with ⟨_, ⟨hown', hid'⟩ | hthere'⟩ | ⟨_, _, hthere'⟩
      · have hsame := hapart b hown' a hrival huuid.symm
        rw [hid, hid'] at hsame
        exact (Option.some.inj hsame).symm
      · exact hstored hthere hthere' huuid
      · exact hstored hthere hthere' huuid

end Since

/-- The store and the views have distinct uuids, and ids stand for uuids. -/
structure Unambiguous (c : Chronicle) (last : Supply) : Prop where
  /-- All is as told. -/
  follows : c.Follows
  /-- The ids are labelled. -/
  labelled : ∃ label, c.Labelled label last
  /-- No uuid is double in the store. -/
  stored : DistinctUuids c.registry.consumers
  /-- Nor in a view. -/
  views : ∀ name t, c.world.works.get? name = some t → DistinctUuids t.view

namespace Unambiguous

variable {c : Chronicle} {last : Supply}

theorem ofStore {s : Store} (hdistinct : DistinctUuids s.registry.consumers)
    (hleads : s.supplies.ids.Leads last)
    (hfresh : ∀ i ∈ s.supplies.ids.handedOut last, s.registry.consumers.contains i = false)
    (honce : (s.supplies.ids.handedOut last).Nodup) : (ofStore s).Unambiguous last where
  follows := follows_ofStore s
  labelled := ⟨_, .ofStore hleads hfresh honce⟩
  stored := hdistinct
  views name t ht := by simp [Chronicle.ofStore, World.ofStore] at ht

/-- Views stay without double uuids. -/
theorem distinctUuids_view (h : c.Unambiguous last) {d : Deed} {w' : World}
    (hd : c.world.Did d w') (hleaves : c.world.LeavesUuids d) {n : String} {t' : Transaction}
    (ht' : w'.works.get? n = some t') : DistinctUuids t'.view := by
  cases hd with
  | opened name =>
    rcases Dict.eq_or_get?_of_insert ht' with ⟨_, rfl⟩ | hold
    · exact h.stored
    · exact h.views n t' hold
  | @wrote _ name t cs ht _ hdraws _ hworks =>
    rcases Dict.eq_or_get?_of_insert (hworks ▸ ht') with ⟨_, rfl⟩ | hold
    · rw [Transaction.written_view]
      generalize w'.store.supplies.ids = ids at hdraws
      cases hdraws with
      | fresh new hnew =>
        exact Transaction.distinctUuids_overwritten_new (h.views name t ht) hnew _
      | seen hcs => exact (hleaves.keepsUuids ht hcs).distinctUuids (h.views name t ht)
    · exact h.views n t' hold
  | idle => exact h.views n t' ht'
  | committed _ _ _ _ hworks | ended _ _ hworks =>
    exact h.views n t' (Dict.get?_of_erase (hworks ▸ ht'))

/-- A deed keeps the uuids of the store distinct exactly if it doubles none. -/
theorem distinctUuids_iff (h : c.Unambiguous last) {d : Deed} {w' : World}
    (hd : c.world.Did d w') : DistinctUuids w'.store.registry.consumers ↔ ¬ c.Doubles d := by
  cases hd with
  | opened | idle => exact iff_of_true h.stored id
  | wrote _ _ _ hregistry | ended _ hregistry =>
    rw [hregistry]
    exact iff_of_true h.stored id
  | @committed _ name t ht hfree _ hregistry =>
    obtain ⟨r, hsince⟩ := h.follows name t ht
    obtain ⟨label, hlabelled⟩ := h.labelled
    rw [hregistry]
    refine (hsince.distinctUuids_published_iff hlabelled ht h.stored (h.views name t ht)).trans ?_
    have hother {d e : Consumer} (hd : d ∈ c.staged name) (he : e ∈ (c.rivals name).flatten) :
        d.ownerKey ≠ e.ownerKey := by
      intro hsame
      obtain ⟨records, hrecords, hin⟩ := List.mem_flatten.mp he
      exact hsince.conflict?_eq_none_iff.mp hfree e.ownerKey
        ⟨⟨d, hd, hsame⟩, records, hrecords, e, hin, rfl⟩
    constructor
    · rintro hapart ⟨d, hd, e, he, huuid, hid, _⟩
      exact hid (hapart d hd e he huuid)
    · intro hnone d hd e he huuid
      by_contra hid
      exact hnone ⟨d, hd, e, he, huuid, hid, hother hd he⟩

/-- A step that leaves uuids distinct keeps the labels. -/
theorem step (h : c.Unambiguous last) {x : Step}
    (hleaves : c.world.LeavesUuids (c.world.deed x))
    (hlast : (c.step x).world.store.supplies.ids.Leads last)
    (hdistinct : DistinctUuids (c.step x).registry.consumers) : (c.step x).Unambiguous last where
  follows := h.follows.step x
  labelled := by
    obtain ⟨label, hlabelled⟩ := h.labelled
    exact hlabelled.did (c.world.did_step x) hleaves hlast
  stored := hdistinct
  views _ _ ht := h.distinctUuids_view (c.world.did_step x) hleaves ht

/-- Uuids stay distinct along steps exactly if no commit doubles one. -/
theorem along_iff (h : c.Unambiguous last) {steps : List Step}
    (hlast : (c.run steps).world.store.supplies.ids.Leads last)
    (hleaves : c.Along (fun c x => c.world.LeavesUuids (c.world.deed x)) steps) :
    c.Along (fun c x => DistinctUuids (c.step x).registry.consumers) steps ↔
      c.Along (fun c x => ¬ c.Doubles (c.world.deed x)) steps := by
  induction steps generalizing c with
  | nil => exact Iff.rfl
  | cons x rest ih =>
    obtain ⟨hnow, hlater⟩ := hleaves
    have hiff : DistinctUuids (c.step x).registry.consumers ↔ ¬ c.Doubles (c.world.deed x) :=
      h.distinctUuids_iff (c.world.did_step x)
    have hrest (hdistinct : DistinctUuids (c.step x).registry.consumers) :=
      ih (h.step hnow ((leads_run _ rest).trans hlast) hdistinct) hlast hlater
    exact (and_congr_right hrest).trans (and_congr hiff Iff.rfl)

end Unambiguous

/-- If bulk writes leave uuids as they are and new ids are new, the consumers of the store have
distinct uuids after every step exactly if no commit doubles a uuid. -/
theorem distinctUuids_along_iff {s : Store} {steps : List Step}
    (hdistinct : DistinctUuids s.registry.consumers)
    (hfresh : ∀ i ∈ s.supplies.ids.handedOut ((World.ofStore s).run steps).store.supplies.ids,
      s.registry.consumers.contains i = false)
    (honce : (s.supplies.ids.handedOut
      ((World.ofStore s).run steps).store.supplies.ids).Nodup)
    (hleaves : (ofStore s).Along (fun c x => c.world.LeavesUuids (c.world.deed x)) steps) :
    (ofStore s).Along (fun c x => DistinctUuids (c.step x).registry.consumers) steps ↔
      (ofStore s).Along (fun c x => ¬ c.Doubles (c.world.deed x)) steps := by
  rw [← world_run_ofStore] at hfresh honce
  exact (Unambiguous.ofStore hdistinct (leads_run (ofStore s) steps) hfresh honce).along_iff
    (.refl _) hleaves

/-- Two units of work register one uuid for one owner, and the later commit fails. -/
theorem distinctUuids_along_iff_one_owner :
    let host (id uuid name owner : String) : Consumer :=
      ⟨some id, uuid, name, owner, .hypervisor, none, [], .empty, none⟩
    let s : Store :=
      ⟨⟨.empty, Transaction.overwritten .empty [host "1" "u" "stored" "a"], .empty⟩, .none, .none,
        ⟨⟨fun n => String.ofList (List.replicate n 'i'), 0⟩, ⟨fun _ => "", 0⟩⟩, .given⟩
    let steps : List Step :=
      [.start "x", .start "y", .create "x" (host "" "v" "first" "a"),
        .updateAttributes "y" [host "1" "u" "moved" "b"], .create "y" (host "" "v" "second" "a"),
        .commit "x", .commit "y", .start "z", .create "z" (host "" "v" "third" "b"), .commit "z"]
    (ofStore s).Along (fun c x => c.world.LeavesUuids (c.world.deed x)) steps ∧
      (ofStore s).Along (fun c x => ¬ c.Doubles (c.world.deed x)) steps ∧
      (ofStore s).Along (fun c x => DistinctUuids (c.step x).registry.consumers) steps := by
  intro host s steps
  have hdistinct : DistinctUuids s.registry.consumers := by
    intro i j c c' hi hj _
    rw [(Dict.eq_of_get?_single hi).1, (Dict.eq_of_get?_single hj).1]
  have hdrawn : s.supplies.ids.handedOut ((World.ofStore s).run steps).store.supplies.ids =
      ["", "i"] := by decide +kernel
  have hfresh : ∀ i ∈ s.supplies.ids.handedOut
      ((World.ofStore s).run steps).store.supplies.ids,
      s.registry.consumers.contains i = false := by
    rw [hdrawn]
    decide +kernel
  have honce : (s.supplies.ids.handedOut
      ((World.ofStore s).run steps).store.supplies.ids).Nodup := by
    rw [hdrawn]
    decide
  have hleaves : (ofStore s).Along (fun c x => c.world.LeavesUuids (c.world.deed x)) steps := by
    decide +kernel
  have hnone : (ofStore s).Along (fun c x => ¬ c.Doubles (c.world.deed x)) steps := by
    decide +kernel
  exact ⟨hleaves, hnone, (distinctUuids_along_iff hdistinct hfresh honce hleaves).mpr hnone⟩

/-- Uuids do not stay distinct whatever units of work register. -/
theorem exists_doubled :
    ¬ ∀ (s : Store) (steps : List Step), DistinctUuids s.registry.consumers →
      (∀ i ∈ s.supplies.ids.handedOut ((World.ofStore s).run steps).store.supplies.ids,
        s.registry.consumers.contains i = false) →
      (s.supplies.ids.handedOut ((World.ofStore s).run steps).store.supplies.ids).Nodup →
      (ofStore s).Along (fun c x => c.world.LeavesUuids (c.world.deed x)) steps →
      DistinctUuids ((World.ofStore s).run steps).store.registry.consumers := by
  intro hall
  let host (name owner : String) : Consumer :=
    ⟨none, "u", name, owner, .hypervisor, none, [], .empty, none⟩
  let s : Store :=
    ⟨.empty, .none, .none,
      ⟨⟨fun n => String.ofList (List.replicate n 'i'), 0⟩, ⟨fun _ => "", 0⟩⟩, .given⟩
  let steps : List Step :=
    [.start "early", .start "late", .create "early" (host "first" "a"),
      .create "late" (host "second" "b"), .commit "early", .commit "late"]
  have hempty : s.registry.consumers = .empty := rfl
  have h := hall s steps (fun i j c c' hi => by simp [hempty] at hi)
    (fun i _ => Dict.contains_empty i) (by decide +kernel) (by decide +kernel)
  have hfirst : ((World.ofStore s).run steps).store.registry.consumers.get? "" =
      some { host "first" "a" with id := some "" } := by decide +kernel
  have hsecond : ((World.ofStore s).run steps).store.registry.consumers.get? "i" =
      some { host "second" "b" with id := some "i" } := by decide +kernel
  exact absurd (h hfirst hsecond rfl) (by decide)

end Chronicle

end HostRoster
