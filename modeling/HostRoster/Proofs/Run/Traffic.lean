import HostRoster.Proofs.Run.Errand
import HostRoster.Proofs.Store.Filing

/-!
# Concurrent runs

Any number of runs on one store, each opened at one time and concluded at a later one. Between the
two a run works on what it saw at its opening, so it is checked by the versions of owners alone that
nothing it relies on has changed. A run that gets through comes to the same by itself, made when the
others before it are done.
-/

namespace HostRoster

/-- A run to be made: what for, by whose leave, at which time and with which new texts. -/
structure Run where
  /-- What the run is made for. -/
  errand : Errand
  /-- Decides what the principal may do. -/
  authorizer : Authorizer
  /-- The time. -/
  now : Timestamp
  /-- Where new ids come from. -/
  supplies : Supplies

/-- A run that was concluded. -/
structure Finished where
  /-- The run. -/
  run : Run
  /-- What it answered. -/
  answer : Except RunError Answer
  /-- Whether it has committed and had written anything. -/
  wrote : Bool
  /-- The supplies that it left. -/
  left : Supplies

namespace Finished

/-- An id of the store that the run has drawn. -/
def DrewId (f : Finished) (i : String) : Prop := f.run.supplies.ids.HandedOut f.left.ids i

/-- A uuid that the run has drawn. -/
def DrewUuid (f : Finished) (u : String) : Prop := f.run.supplies.uuids.HandedOut f.left.uuids u

end Finished

namespace Run

/-- The session in which the run makes its attempt. -/
def session (r : Run) (s : Store) (t : Transaction) : Session := ⟨t, s.usage, r.supplies, .none⟩

/-- The session that the attempt leaves. -/
def after (r : Run) (s : Store) (t : Transaction) : Session :=
  r.errand.after r.authorizer r.now (r.session s t)

/-- The run concluded in a unit of work that it has opened. -/
def concluded (r : Run) (s : Store) (t : Transaction) : Except RunError Answer × Store :=
  ({ s with supplies := r.supplies } : Store).conclude t (r.errand.attempt r.authorizer r.now)

/-- What becomes of the run when it is concluded. -/
def finish (r : Run) (s : Store) (t : Transaction) : Finished where
  run := r
  answer := (r.concluded s t).1
  wrote := (r.concluded s t).1.isOk && !(r.after s t).work.dirty.isEmpty
  left := (r.after s t).supplies

/-- The run by itself, with nothing between its opening and its commit. -/
def alone (r : Run) (s : Store) : Except RunError Answer × Store :=
  ({ s with supplies := r.supplies } : Store).runFor ⟨r.authorizer, r.now, .none, none⟩ r.errand

/-- Runs one after the other: their answers and the store they leave. -/
def serially (s : Store) : List Run → List (Except RunError Answer) × Store
  | [] => ([], s)
  | r :: rest => ((r.alone s).1 :: (serially (r.alone s).2 rest).1, (serially (r.alone s).2 rest).2)

end Run

/-- A store with open runs, and the runs that were concluded. -/
structure Traffic where
  /-- The store. -/
  store : Store
  /-- The open runs by name, with their units of work. -/
  opened : Dict (Run × Transaction)
  /-- The concluded runs in the order of their conclusion. -/
  log : List Finished

/-- What happens to a run. -/
inductive Event where
  /-- It is opened under a name. -/
  | start (name : String) (run : Run)
  /-- It makes its calls and commits, or rolls back. -/
  | finish (name : String)

namespace Traffic

/-- A store without open runs. -/
def ofStore (s : Store) : Traffic := ⟨s, .empty, []⟩

/-- The concluded runs that have committed something that they had written. -/
def writers (w : Traffic) : List Finished := w.log.filter (·.wrote)

/-- What is left after an event; a run that is not open is not concluded. -/
def step (w : Traffic) : Event → Traffic
  | .start name r => { w with opened := w.opened.insert name (r, w.store.start) }
  | .finish name =>
    match w.opened.get? name with
    | some (r, t) =>
      ⟨(r.concluded w.store t).2, w.opened.erase name, w.log ++ [r.finish w.store t]⟩
    | none => w

/-- What is left after events. -/
def run (w : Traffic) (events : List Event) : Traffic := events.foldl step w

end Traffic

/-- The texts that runs have drawn are new: none is in use, and no two runs share one. -/
structure Fresh (d : Dict Consumer) (l : List Finished) : Prop where
  /-- No id is in use. -/
  ids : ∀ f ∈ l, ∀ i, f.DrewId i → d.contains i = false
  /-- No uuid is in use. -/
  uuids : ∀ f ∈ l, ∀ i c, d.get? i = some c → ¬ f.DrewUuid c.uuid
  /-- No two runs share an id. -/
  idsApart : l.Pairwise fun f g => ∀ i, f.DrewId i → ¬ g.DrewId i
  /-- No two runs share a uuid. -/
  uuidsApart : l.Pairwise fun f g => ∀ u, f.DrewUuid u → ¬ g.DrewUuid u

/-- A unit of work that has written nothing yet, compared with the store while others commit. -/
structure Transaction.Unwritten (t : Transaction) (s : Store) : Prop where
  /-- The same writes are refused. -/
  faults : t.faults = s.faults
  /-- The owners are the same. -/
  owners : t.owners = s.registry.owners
  /-- No id is noted. -/
  dirty : t.dirty = .empty
  /-- No owner is noted. -/
  touched : t.touched = .empty
  /-- Consumers are seen under their own ids. -/
  filed : FiledById t.view
  /-- Versions have not fallen since the start. -/
  base_le : ∀ k, Registry.version t.base k ≤ Registry.version s.registry.versions k
  /-- What is seen of an owner whose version is that of the start is what the store has. -/
  part : ∀ k, Registry.version s.registry.versions k = Registry.version t.base k →
    ownedPart t.view k = ownedPart s.registry.consumers k

/-- A unit of work that was just opened has written nothing. -/
theorem Store.unwritten_start {s : Store} (h : FiledById s.registry.consumers) :
    s.start.Unwritten s :=
  ⟨rfl, rfl, rfl, rfl, h, fun _ => Nat.le_refl _, fun _ _ => rfl⟩

/-- Nothing is lost if the store keeps its contents. -/
theorem Transaction.Unwritten.of_eq {t : Transaction} {s s' : Store} (h : t.Unwritten s)
    (hregistry : s'.registry = s.registry) (hfaults : s'.faults = s.faults) : t.Unwritten s' where
  faults := h.faults.trans hfaults.symm
  owners := hregistry ▸ h.owners
  dirty := h.dirty
  touched := h.touched
  filed := h.filed
  base_le := hregistry ▸ h.base_le
  part := hregistry ▸ h.part

/-- Every consumer was there before, or its id and its uuid were drawn by a run. -/
def Accounted (d : Dict Consumer) (l : List Finished) (e : Dict Consumer) : Prop :=
  ∀ ⦃i c⦄, e.get? i = some c →
    (d.contains i = true ∨ ∃ f ∈ l, f.DrewId i) ∧
      ((∃ j c', d.get? j = some c' ∧ c'.uuid = c.uuid) ∨ ∃ f ∈ l, f.DrewUuid c.uuid)

/-- What is accounted for stays so when more runs are concluded. -/
theorem Accounted.mono {d e : Dict Consumer} {l l' : List Finished} (h : Accounted d l e)
    (hsub : ∀ f ∈ l, f ∈ l') : Accounted d l' e := by
  intro i c hi
  obtain ⟨hid, huuid⟩ := h hi
  exact ⟨hid.imp_right fun ⟨f, hf, hdrew⟩ => ⟨f, hsub f hf, hdrew⟩,
    huuid.imp_right fun ⟨f, hf, hdrew⟩ => ⟨f, hsub f hf, hdrew⟩⟩

namespace Fresh

variable {d e : Dict Consumer} {l : List Finished} {f : Finished}

/-- What holds of all runs holds of those before the last ones. -/
theorem init {l' : List Finished} (h : Fresh d (l ++ l')) : Fresh d l where
  ids g hg := h.ids g (List.mem_append_left _ hg)
  uuids g hg := h.uuids g (List.mem_append_left _ hg)
  idsApart := (List.pairwise_append.mp h.idsApart).1
  uuidsApart := (List.pairwise_append.mp h.uuidsApart).1

/-- An id that the last run has drawn is not in use by then. -/
theorem not_contains (h : Fresh d (l ++ [f])) (he : Accounted d l e) {i : String}
    (hi : f.DrewId i) : e.get? i = none := by
  cases hget : e.get? i with
  | none => rfl
  | some c =>
    rcases (he hget).1 with hold | ⟨g, hg, hdrew⟩
    · rw [h.ids f (by simp) i hi] at hold
      cases hold
    · have hapart := (List.pairwise_append.mp h.idsApart).2.2 g hg f (by simp)
      exact absurd hi (hapart i hdrew)

/-- Nor is a uuid that it has drawn. -/
theorem reserved (h : Fresh d (l ++ [f])) (he : Accounted d l e) (k : String) :
    Reserved e k f.DrewUuid := by
  intro i c hget hdrew
  rcases (he hget).2 with ⟨j, c', hj, huuid⟩ | ⟨g, hg, hdrew'⟩
  · rw [← huuid] at hdrew
    exact absurd hdrew (h.uuids f (by simp) j c' hj)
  · have hapart := (List.pairwise_append.mp h.uuidsApart).2.2 g hg f (by simp)
    exact absurd hdrew (hapart c.uuid hdrew')

end Fresh

namespace Run

/-- A run that commits what it has written for an owner. -/
structure Writes (r : Run) (s : Store) (t : Transaction) (k : String) (ds : List Consumer) :
    Prop where
  /-- It is the owner that the run finds. -/
  owner : ∀ o, t.owner? r.errand.ownerKey = some o → o.key = k
  /-- The attempt succeeds. -/
  attempt : ∃ a, ((r.errand.attempt r.authorizer r.now).run.run (r.session s t)).1 = .ok a ∧
    (r.concluded s t).1 = .ok a
  /-- What was written. -/
  work : (r.after s t).work = t.written ds
  /-- Something was. -/
  nonempty : ds ≠ []
  /-- It belongs to the owner. -/
  mayWrite : ∀ d ∈ ds, (r.session s t).MayWrite (r.after s t) k d
  /-- No other commit has changed consumers of the owner. -/
  free : (t.written ds).conflict? s.registry = none
  /-- What was written is published. -/
  registry : (r.concluded s t).2.registry = (t.written ds).published s.registry

/-- A run leaves no trace, or commits what it has written for the owner that it finds. -/
theorem finish_cases (r : Run) {s : Store} {t : Transaction} (ht : t.Unwritten s) :
    (r.concluded s t).2.faults = s.faults ∧
      ((r.finish s t).wrote = false ∧ (r.concluded s t).2.registry = s.registry ∨
        (r.finish s t).wrote = true ∧ ∃ k ds, r.Writes s t k ds) := by
  obtain ⟨hfaults, hcases⟩ := ({ s with supplies := r.supplies } : Store).conclude_cases t
    (r.errand.attempt r.authorizer r.now)
  refine ⟨hfaults, ?_⟩
  rcases hcases with ⟨e, hanswer, hregistry⟩ | ⟨a, σ, hrun, hfree, hanswer, hregistry⟩
  · refine Or.inl ⟨?_, hregistry⟩
    simp only [finish, concluded, hanswer, Except.isOk, Except.toBool, Bool.false_and]
  · obtain ⟨k, hk⟩ : ∃ k, ∀ o, t.owner? r.errand.ownerKey = some o → o.key = k := by
      cases t.owner? r.errand.ownerKey with
      | none => exact ⟨"", fun o ho => by cases ho⟩
      | some o => exact ⟨o.key, fun o' ho' => by cases ho'; rfl⟩
    have hafter : r.after s t = σ := congrArg Prod.snd hrun
    have hkeeps : (r.session s t).Keeps k (r.after s t) := Errand.keeps_after _ _ rfl ht.filed hk
    obtain ⟨ds, hwork, hds⟩ := hkeeps.work
    have hwork : (r.after s t).work = t.written ds := hwork
    have hregistry : (r.concluded s t).2.registry = (t.written ds).published s.registry := by
      rw [← hwork, hafter]
      exact hregistry
    have hwrote : (r.finish s t).wrote = !(t.written ds).dirty.isEmpty := by
      rw [← hwork]
      simp only [finish, concluded, hanswer, Except.isOk, Except.toBool, Bool.true_and]
    cases hempty : (t.written ds).dirty.isEmpty with
    | true =>
      have hnil : ds = [] := by
        refine List.eq_nil_iff_forall_not_mem.mpr fun d hd => ?_
        obtain ⟨_, i, hi, _⟩ := hds d hd
        have hcontains := Dict.isEmpty_iff.mp hempty i
        rw [Transaction.contains_written_dirty.mpr (Or.inr ⟨d, hd, hi⟩)] at hcontains
        cases hcontains
      refine Or.inl ⟨by rw [hwrote, hempty]; rfl, ?_⟩
      rw [hregistry, hnil, Transaction.written_nil,
        Transaction.published_of_clean ht.dirty ht.touched]
    | false =>
      refine Or.inr ⟨by rw [hwrote, hempty]; rfl, k, ds, hk, ⟨a, congrArg Prod.fst hrun, hanswer⟩,
        hwork, ?_, hds, ?_, hregistry⟩
      · rintro rfl
        rw [Transaction.written_nil, ht.dirty] at hempty
        cases hempty
      · rw [← hwork, hafter]
        exact hfree

namespace Writes

variable {r : Run} {s : Store} {t : Transaction} {k : String} {ds : List Consumer}

/-- All that is written belongs to the owner. -/
theorem ownerKey (h : r.Writes s t k ds) : ∀ d ∈ ds, d.ownerKey = k :=
  fun d hd => (h.mayWrite d hd).1

/-- The owner is noted, and no other is. -/
theorem contains_touched (h : r.Writes s t k ds) (ht : t.Unwritten s) {j : String} :
    (t.written ds).touched.contains j = true ↔ j = k := by
  rw [Transaction.contains_written_touched, ht.touched]
  constructor
  · rintro (hold | ⟨d, hd, _, _, rfl⟩)
    · simp at hold
    · exact h.ownerKey d hd
  · rintro rfl
    obtain ⟨d, hd⟩ := List.exists_mem_of_ne_nil ds h.nonempty
    obtain ⟨ho, i, hi, _⟩ := h.mayWrite d hd
    exact Or.inr ⟨d, hd, i, hi, ho⟩

/-- The run has seen what the store has of the owner. -/
theorem part (h : r.Writes s t k ds) (ht : t.Unwritten s) :
    ownedPart t.view k = ownedPart s.registry.consumers k := by
  have htouched : (t.written ds).touched.contains k = true := (h.contains_touched ht).mpr rfl
  have hversion : Registry.version s.registry.versions k = Registry.version t.base k :=
    Transaction.conflict?_eq_none_iff.mp h.free k htouched
  exact ht.part k hversion

/-- The run writes over nothing but what the owner has. -/
theorem dirty (h : r.Writes s t k ds) (ht : t.Unwritten s)
    (hids : ∀ i, (r.finish s t).DrewId i → s.registry.consumers.get? i = none) {i : String}
    (hi : (t.written ds).dirty.contains i = true) :
    (∃ c, (t.written ds).view.get? i = some c ∧ c.ownerKey = k) ∧
      ∀ c, s.registry.consumers.get? i = some c → c.ownerKey = k := by
  obtain ⟨d, hd, hid, hview⟩ := Transaction.mem_of_dirty ht.dirty hi
  refine ⟨⟨d, hview, h.ownerKey d hd⟩, fun c hc => ?_⟩
  obtain ⟨_, j, hj, hmay⟩ := h.mayWrite d hd
  rw [hid, Option.some.injEq] at hj
  subst hj
  rcases hmay with ⟨hdrew, _⟩ | ⟨c₀, hc₀, _⟩
  · rw [hids i hdrew] at hc
    cases hc
  · have hpart : (ownedPart s.registry.consumers k).get? i = some c₀ := h.part ht ▸ hc₀
    obtain ⟨hstored, ho⟩ := get?_ownedPart_eq_some_iff.mp hpart
    rw [hstored, Option.some.injEq] at hc
    exact hc ▸ ho

/-- The run comes to the same by itself, on a store with the same contents. -/
theorem alone (h : r.Writes s t k ds) (ht : t.Unwritten s) {s' : Store}
    (hregistry : s'.registry = s.registry) (hfaults : s'.faults = s.faults)
    (hfiled : FiledById s.registry.consumers)
    (hids : ∀ i, (r.finish s t).DrewId i → s.registry.consumers.get? i = none)
    (hview : Reserved t.view k (r.finish s t).DrewUuid)
    (hstore : Reserved s.registry.consumers k (r.finish s t).DrewUuid) :
    (r.alone s').1 = (r.concluded s t).1 ∧
      (r.alone s').2.registry = (r.concluded s t).2.registry ∧
      (r.alone s').2.faults = s'.faults := by
  have hclean := Store.unwritten_start (s := s') (hregistry ▸ hfiled)
  have hpart : ownedPart t.view k = ownedPart s'.registry.consumers k := hregistry ▸ h.part ht
  have howners : t.owners = s'.registry.owners := hregistry ▸ ht.owners
  have hstore : Reserved s'.registry.consumers k (r.finish s t).DrewUuid := hregistry ▸ hstore
  have halone : r.alone s' = r.concluded s' s'.start := by
    rw [Run.alone, Store.runFor_eq_conclude _ rfl rfl, concluded]
    rfl
  have hsame : (r.session s t).SameFor k (r.session s' s'.start) := by
    refine ⟨⟨ht.faults.trans hfaults.symm, hpart, ?_, ?_⟩, rfl, rfl, rfl⟩
    · exact ht.dirty
    · exact ht.touched
  obtain ⟨hresult, hafter⟩ := Errand.attempt_congr (e := r.errand) r.authorizer r.now hsame
    (congrArg (·.get? r.errand.ownerKey) howners) ht.filed h.owner hview hstore
  have hafter : (t.written ds).SameFor k (r.after s' s'.start).work := h.work ▸ hafter.work
  have howner : ∀ o, s'.start.owner? r.errand.ownerKey = some o → o.key = k := fun o ho =>
    h.owner o (by rw [Transaction.owner?, howners]; exact ho)
  have hkeeps : (r.session s' s'.start).Keeps k (r.after s' s'.start) :=
    Errand.keeps_after _ _ rfl hclean.filed howner
  -- Nothing has happened to the store since the opening.
  have hfree : (r.after s' s'.start).work.conflict? s'.registry = none := by
    obtain ⟨ds', hwork, _⟩ := hkeeps.work
    refine Transaction.conflict?_eq_none_iff.mpr fun j _ => ?_
    rw [hwork, Transaction.written_base]
    rfl
  obtain ⟨a, ha, hanswer⟩ := h.attempt
  have hrun : (r.errand.attempt r.authorizer r.now).run.run (r.session s' s'.start) =
      (.ok a, r.after s' s'.start) := by
    rw [ha] at hresult
    exact Prod.ext hresult.eq_ok rfl
  have hconcluded := Store.conclude_of_ok (s := { s' with supplies := r.supplies }) hrun
    (Transaction.committed_eq_ok_iff.mpr ⟨hfree, rfl⟩)
  rw [halone, concluded, hconcluded]
  refine ⟨hanswer.symm, ?_, rfl⟩
  rw [h.registry, hafter.published (fun i hi => (h.dirty ht hids hi).1)]
  simp only [hregistry]

/-- Another run that is open may rely on the store as before. -/
theorem unwritten (h : r.Writes s t k ds) (ht : t.Unwritten s) {s' : Store}
    (hregistry : s'.registry = (t.written ds).published s.registry) (hfaults : s'.faults = s.faults)
    (hids : ∀ i, (r.finish s t).DrewId i → s.registry.consumers.get? i = none)
    {t' : Transaction} (ht' : t'.Unwritten s) : t'.Unwritten s' where
  faults := ht'.faults.trans hfaults.symm
  owners := by rw [ht'.owners, hregistry, Transaction.published_owners]
  dirty := ht'.dirty
  touched := ht'.touched
  filed := ht'.filed
  base_le j := by
    rw [hregistry]
    exact Nat.le_trans (ht'.base_le j) (Transaction.version_le_published _ _ j)
  part j hj := by
    have hbase := ht'.base_le j
    rw [hregistry, Transaction.version_published] at hj
    have huntouched : ¬ (t.written ds).touched.contains j = true := by
      intro htouched
      rw [if_pos htouched] at hj
      omega
    rw [if_neg huntouched, Nat.add_zero] at hj
    have hne : j ≠ k := fun he => huntouched ((h.contains_touched ht).mpr he)
    rw [hregistry, Transaction.ownedPart_published hne fun i hi => h.dirty ht hids hi]
    exact ht'.part j hj

/-- What the run has published is accounted for by what it has drawn. -/
theorem accounted (h : r.Writes s t k ds) (ht : t.Unwritten s) {d : Dict Consumer}
    {l : List Finished} (hs : Accounted d l s.registry.consumers) (hview : Accounted d l t.view) :
    Accounted d (l ++ [r.finish s t]) ((t.written ds).published s.registry).consumers := by
  have hmono {e : Dict Consumer} (he : Accounted d l e) : Accounted d (l ++ [r.finish s t]) e :=
    he.mono fun f hf => List.mem_append_left _ hf
  intro i c hi
  rw [Transaction.get?_published] at hi
  by_cases hdirty : (t.written ds).dirty.contains i = true
  · obtain ⟨c', hc', hid, hget⟩ := Transaction.mem_of_dirty ht.dirty hdirty
    rw [if_pos hdirty, hget, Option.some_or, Option.some.injEq] at hi
    subst hi
    obtain ⟨_, j, hj, hmay⟩ := h.mayWrite c' hc'
    rw [hid, Option.some.injEq] at hj
    subst hj
    rcases hmay with ⟨hdrewId, hdrewUuid⟩ | ⟨c₀, hc₀, huuid⟩
    · have hmem : r.finish s t ∈ l ++ [r.finish s t] := List.mem_append_right _ (by simp)
      exact ⟨Or.inr ⟨_, hmem, hdrewId⟩, Or.inr ⟨_, hmem, hdrewUuid⟩⟩
    · exact huuid ▸ hmono hview (get?_ownedPart_eq_some_iff.mp hc₀).1
  · rw [if_neg hdirty] at hi
    exact hmono hs hi

/-- Consumers stay under their own ids. -/
theorem filed (h : r.Writes s t k ds) (ht : t.Unwritten s)
    (hfiled : FiledById s.registry.consumers) :
    FiledById (r.concluded s t).2.registry.consumers := by
  rw [h.registry]
  exact filedById_published (filedById_overwritten ht.filed ds) hfiled

end Writes

end Run

end HostRoster
