import HostRoster.Proofs.Store.Steps

/-!
# Chronicles

A world with all that was done in it. From the deeds it can be read what an open unit of work has
staged and what others have committed since it was opened, without a look at the store. The main
statement is that the store follows its chronicle: an open unit of work is the copy that it was
opened with and what it has staged, the consumers of the store are those of the opening with the
records of the commits since, and a version counts the commits that staged a record of its owner.
-/

namespace HostRoster

namespace Deed

/-- What a unit of work that is open after some deeds, the latest first, has staged since it was
opened, in order. -/
def staged (name : String) : List Deed → List Consumer
  | [] => []
  | .wrote n records :: past =>
    if n = name then staged name past ++ records else staged name past
  | .opened n :: past | .committed n :: past | .ended n :: past =>
    if n = name then [] else staged name past

/-- What others have committed since a unit of work was opened: the records of each commit, in the
order of the commits. -/
def rivals (name : String) : List Deed → List (List Consumer)
  | [] => []
  | .wrote _ _ :: past => rivals name past
  | .committed n :: past => if n = name then [] else rivals name past ++ [staged n past]
  | .opened n :: past | .ended n :: past => if n = name then [] else rivals name past

end Deed

/-- A world and what has happened in it, the latest first. -/
structure Chronicle where
  /-- The world. -/
  world : World
  /-- What has happened. -/
  deeds : List Deed

namespace Chronicle

/-- A store before all that happens. -/
def ofStore (s : Store) : Chronicle := ⟨.ofStore s, []⟩

/-- The chronicle with one more step. -/
def step (c : Chronicle) (x : Step) : Chronicle := ⟨c.world.step x, c.world.deed x :: c.deeds⟩

/-- The chronicle with more steps. -/
def run (c : Chronicle) (steps : List Step) : Chronicle := steps.foldl step c

/-- The committed contents of the store. -/
def registry (c : Chronicle) : Registry := c.world.store.registry

/-- What an open unit of work has staged since it was opened, in order. -/
def staged (c : Chronicle) (name : String) : List Consumer := Deed.staged name c.deeds

/-- What others have committed since an open unit of work was opened. -/
def rivals (c : Chronicle) (name : String) : List (List Consumer) := Deed.rivals name c.deeds

@[simp] theorem run_nil (c : Chronicle) : c.run [] = c := rfl

@[simp] theorem run_cons (c : Chronicle) (x : Step) (rest : List Step) :
    c.run (x :: rest) = (c.step x).run rest := rfl

/-- Keeping a chronicle does not change what happens. -/
theorem world_run (c : Chronicle) (steps : List Step) :
    (c.run steps).world = c.world.run steps := by
  induction steps generalizing c with
  | nil => rfl
  | cons x rest ih => exact ih (c.step x)

/-- A chronicle tells of the world that the steps lead to. -/
theorem world_run_ofStore (s : Store) (steps : List Step) :
    ((ofStore s).run steps).world = (World.ofStore s).run steps :=
  world_run (ofStore s) steps

end Chronicle

namespace Transaction

/-- Two batches may be laid over a view as one. -/
theorem overwritten_append (view : Dict Consumer) (cs ds : List Consumer) :
    overwritten view (cs ++ ds) = overwritten (overwritten view cs) ds := by
  simp only [overwritten, withIds, List.filterMap_append, List.foldl_append]

end Transaction

namespace Chronicle

/-- Whether records hold one of an owner. -/
def concerns (ownerKey : String) (records : List Consumer) : Bool :=
  records.any (·.ownerKey == ownerKey)

/-- An open unit of work, and the contents of the store at its opening and now. -/
structure Since (c : Chronicle) (name : String) (t : Transaction) (r : Registry) : Prop where
  /-- The unit of work is the copy of the opening with what it has staged. -/
  work : ∃ faults listing, t = (Transaction.start r faults listing).written (c.staged name)
  /-- All that it has staged has ids. -/
  ids : ∀ d ∈ c.staged name, ∃ i, d.id = some i
  /-- The records that others have committed since were laid over the consumers of the store. -/
  consumers : c.registry.consumers = Transaction.overwritten r.consumers (c.rivals name).flatten
  /-- A version was raised by each of these commits that held a record of the owner. -/
  versions : ∀ k, Registry.version c.registry.versions k =
    Registry.version r.versions k + (c.rivals name).countP (concerns k)

/-- All open units of work and the store are as the chronicle tells. -/
def Follows (c : Chronicle) : Prop :=
  ∀ name t, c.world.works.get? name = some t → ∃ r, c.Since name t r

/-- Before anything happens there is nothing to tell. -/
theorem follows_ofStore (s : Store) : (ofStore s).Follows := by
  intro name t ht
  simp [ofStore, World.ofStore] at ht

namespace Since

variable {c : Chronicle} {name : String} {t : Transaction} {r : Registry}

/-- A deed that leaves the store alone and tells nothing of the unit of work. -/
theorem of_eq (h : c.Since name t r) {c' : Chronicle} (hregistry : c'.registry = c.registry)
    (hstaged : c'.staged name = c.staged name) (hrivals : c'.rivals name = c.rivals name) :
    c'.Since name t r where
  work := hstaged ▸ h.work
  ids := hstaged ▸ h.ids
  consumers := by rw [hregistry, hrivals, h.consumers]
  versions k := by rw [hregistry, hrivals, h.versions k]

/-- The unit of work stages more. -/
theorem written (h : c.Since name t r) {cs : List Consumer} (haccepts : t.Accepts cs)
    {c' : Chronicle} (hregistry : c'.registry = c.registry)
    (hstaged : c'.staged name = c.staged name ++ cs) (hrivals : c'.rivals name = c.rivals name) :
    c'.Since name (t.written cs) r where
  work := by
    obtain ⟨faults, listing, hwork⟩ := h.work
    exact ⟨faults, listing, by rw [hwork, hstaged, Transaction.written_append]⟩
  ids d hd := by
    rw [hstaged] at hd
    rcases List.mem_append.mp hd with hold | hnew
    · exact h.ids d hold
    · exact haccepts.ids d hnew
  consumers := by rw [hregistry, hrivals, h.consumers]
  versions k := by rw [hregistry, hrivals, h.versions k]

/-- The owners of what was staged are noted. -/
theorem contains_touched (h : c.Since name t r) {k : String} :
    t.touched.contains k = true ↔ concerns k (c.staged name) = true := by
  obtain ⟨faults, listing, rfl⟩ := h.work
  rw [Transaction.contains_written_touched, concerns, List.any_eq_true]
  simp only [Transaction.start, Dict.contains_empty, Bool.false_eq_true, false_or, beq_iff_eq]
  constructor
  · rintro ⟨d, hd, _, _, hk⟩
    exact ⟨d, hd, hk⟩
  · rintro ⟨d, hd, hk⟩
    obtain ⟨i, hi⟩ := h.ids d hd
    exact ⟨d, hd, i, hi, hk⟩

/-- What the unit of work publishes is what it has staged. -/
theorem consumers_published (h : c.Since name t r) (r' : Registry) :
    (t.published r').consumers = Transaction.overwritten r'.consumers (c.staged name) := by
  obtain ⟨faults, listing, rfl⟩ := h.work
  exact Transaction.published_written_start r r' faults listing _

/-- Another unit of work is committed. -/
theorem published (h : c.Since name t r) {other : String} {u : Transaction} {r' : Registry}
    (hu : c.Since other u r') {c' : Chronicle} (hregistry : c'.registry = u.published c.registry)
    (hstaged : c'.staged name = c.staged name)
    (hrivals : c'.rivals name = c.rivals name ++ [c.staged other]) : c'.Since name t r where
  work := hstaged ▸ h.work
  ids := hstaged ▸ h.ids
  consumers := by
    rw [hregistry, hrivals, hu.consumers_published, h.consumers, List.flatten_append,
      Transaction.overwritten_append, List.flatten_singleton]
  versions k := by
    have hraised : (if u.touched.contains k = true then 1 else 0) =
        if concerns k (c.staged other) = true then 1 else 0 :=
      if_congr hu.contains_touched rfl rfl
    rw [hregistry, hrivals, Transaction.version_published, h.versions k, hraised,
      List.countP_append, List.countP_singleton, Nat.add_assoc]

end Since

/-- A unit of work that was just opened has staged nothing and has no rivals. -/
theorem since_start (c : Chronicle) (name : String) :
    (⟨c.world.start name, .opened name :: c.deeds⟩ : Chronicle).Since name c.world.store.start
      c.registry where
  work := by
    refine ⟨c.world.store.faults, c.world.store.listing, ?_⟩
    simp only [staged, Deed.staged, if_true, Transaction.written_nil]
    rfl
  ids d hd := by simp [staged, Deed.staged] at hd
  consumers := by
    simp only [rivals, Deed.rivals, if_true, List.flatten_nil]
    rfl
  versions k := by
    simp only [rivals, Deed.rivals, if_true, List.countP_nil]
    rfl

/-- What a deed leaves follows the chronicle with that deed. -/
theorem Follows.did {c : Chronicle} (h : c.Follows) {d : Deed} {w' : World}
    (hd : c.world.Did d w') : (⟨w', d :: c.deeds⟩ : Chronicle).Follows := by
  intro n t' ht'
  cases hd with
  | opened name =>
    by_cases hn : name = n
    · subst hn
      obtain rfl : c.world.store.start = t' := by simpa [World.start] using ht'
      exact ⟨c.registry, since_start c name⟩
    · have hold : c.world.works.get? n = some t' := by
        rwa [World.start, Dict.get?_insert_of_ne _ _ hn] at ht'
      obtain ⟨r, hr⟩ := h n t' hold
      refine ⟨r, hr.of_eq rfl ?_ ?_⟩
      · simp only [staged, Deed.staged, hn, if_false]
      · simp only [rivals, Deed.rivals, hn, if_false]
  | @wrote _ name t cs ht haccepts _ hregistry hworks =>
    rw [hworks] at ht'
    by_cases hn : name = n
    · subst hn
      obtain rfl : t.written cs = t' := by simpa using ht'
      obtain ⟨r, hr⟩ := h name t ht
      refine ⟨r, hr.written haccepts hregistry ?_ rfl⟩
      simp only [staged, Deed.staged, if_true]
    · rw [Dict.get?_insert_of_ne _ _ hn] at ht'
      obtain ⟨r, hr⟩ := h n t' ht'
      refine ⟨r, hr.of_eq hregistry ?_ rfl⟩
      simp only [staged, Deed.staged, hn, if_false]
  | @idle name =>
    obtain ⟨r, hr⟩ := h n t' ht'
    refine ⟨r, hr.of_eq rfl ?_ rfl⟩
    simp only [staged, Deed.staged, List.append_nil, ite_self]
  | @committed _ name t ht hfree _ hregistry hworks =>
    rw [hworks] at ht'
    obtain ⟨hn, hold⟩ := Dict.ne_and_get?_of_erase ht'
    obtain ⟨r, hr⟩ := h n t' hold
    obtain ⟨r', hr'⟩ := h name t ht
    refine ⟨r, hr.published hr' hregistry ?_ ?_⟩
    · simp only [staged, Deed.staged, hn, if_false]
    · simp only [staged, rivals, Deed.rivals, hn, if_false]
  | @ended _ name _ hregistry hworks =>
    rw [hworks] at ht'
    obtain ⟨hn, hold⟩ := Dict.ne_and_get?_of_erase ht'
    obtain ⟨r, hr⟩ := h n t' hold
    refine ⟨r, hr.of_eq hregistry ?_ ?_⟩
    · simp only [staged, Deed.staged, hn, if_false]
    · simp only [rivals, Deed.rivals, hn, if_false]

/-- Every step is told. -/
theorem Follows.step {c : Chronicle} (h : c.Follows) (x : Step) : (c.step x).Follows :=
  h.did (c.world.did_step x)

theorem Follows.run {c : Chronicle} (h : c.Follows) (steps : List Step) :
    (c.run steps).Follows := by
  induction steps generalizing c with
  | nil => exact h
  | cons x rest ih => exact ih (h.step x)

end Chronicle

end HostRoster
