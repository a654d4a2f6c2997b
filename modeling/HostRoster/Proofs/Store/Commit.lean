import HostRoster.Proofs.Store.Writes
import HostRoster.Store.Basic

/-!
# Commits of a unit of work

A commit puts the written consumers over those of the registry and raises the versions of their
owners. All versions are checked before that, so a commit that fails publishes nothing. As long as
the version of an owner stays where it was at the start, whatever the registry still holds of that
owner is what the unit of work sees of it, except for what it has written.
-/

namespace HostRoster

namespace Transaction

/-- The registry with the writes of a unit of work. -/
def published (t : Transaction) (r : Registry) : Registry :=
  { r with
    consumers := t.dirty.keys.foldl t.publish r.consumers
    versions := t.touched.keys.foldl bump r.versions }

@[simp] theorem published_owners (t : Transaction) (r : Registry) :
    (t.published r).owners = r.owners := rfl

/-- The first owner of written consumers whose consumers another commit has changed. -/
def conflict? (t : Transaction) (r : Registry) : Option String :=
  t.touched.keys.find? fun k => Registry.version r.versions k != Registry.version t.base k

/-- What a commit comes to. -/
def committed (t : Transaction) (r : Registry) : Except StoreError Registry := t.commit.after r

/-- There is no conflict exactly if the versions of all written owners are those of the start. -/
theorem conflict?_eq_none_iff {t : Transaction} {r : Registry} :
    t.conflict? r = none ↔ ∀ k, t.touched.contains k = true →
      Registry.version r.versions k = Registry.version t.base k := by
  rw [conflict?, List.find?_eq_none]
  simp [Dict.mem_keys_iff]

/-- A commit leaves no trace if it fails: what is published comes after the last check. -/
theorem atomic_commit (t : Transaction) : t.commit.Atomic :=
  Effect.atomic_bind (Effect.reads_forM (fun _ => Effect.reads_check _) _) fun _ =>
    (Effect.succeeds_bind (Effect.succeeds_forM (fun _ => Effect.succeeds_modify _) _) fun _ =>
      Effect.succeeds_forM (fun _ => Effect.succeeds_modify _) _).atomic

/-- The versions of owners are checked up to the first one that has moved. -/
theorem forM_checkVersion (t : Transaction) (r : Registry) (ks : List String) :
    (ks.forM fun k => t.checkVersion k r) =
      match ks.find? fun k => Registry.version r.versions k != Registry.version t.base k with
      | some k => .error (.conflict k)
      | none => .ok () := by
  induction ks with
  | nil => rfl
  | cons k rest ih =>
    have hstep : ((k :: rest).forM fun k => t.checkVersion k r) =
        t.checkVersion k r >>= fun _ => rest.forM fun k => t.checkVersion k r := rfl
    rw [hstep, List.find?_cons, checkVersion]
    by_cases hk : Registry.version r.versions k = Registry.version t.base k
    · rw [if_pos hk, hk, bne_self_eq_false]
      exact ih
    · rw [if_neg hk, bne_iff_ne.mpr hk]
      rfl

/-- Consumers are published one by one. -/
theorem foldl_publish (t : Transaction) (ids : List String) (r : Registry) :
    ids.foldl (fun r id => { r with consumers := t.publish r.consumers id }) r =
      { r with consumers := ids.foldl t.publish r.consumers } := by
  induction ids generalizing r with
  | nil => rfl
  | cons id rest ih => exact ih _

/-- Versions are raised one by one. -/
theorem foldl_bump (ks : List String) (r : Registry) :
    ks.foldl (fun r k => { r with versions := bump r.versions k }) r =
      { r with versions := ks.foldl bump r.versions } := by
  induction ks generalizing r with
  | nil => rfl
  | cons k rest ih => exact ih _

/-- A commit comes to a conflict or publishes the writes. -/
theorem committed_eq (t : Transaction) (r : Registry) :
    t.committed r =
      match t.conflict? r with
      | some k => .error (.conflict k)
      | none => .ok (t.published r) := by
  unfold committed Effect.after Effect.result commit
  rw [Effect.run_bind, Effect.run_forM_check, forM_checkVersion, ← conflict?]
  cases t.conflict? r with
  | some k => rfl
  | none =>
    dsimp only
    rw [Effect.run_bind, Effect.run_forM_modify]
    dsimp only
    rw [Effect.run_forM_modify, foldl_publish, foldl_bump]
    rfl

/-- A commit succeeds exactly without a conflict, and then publishes the writes. -/
theorem committed_eq_ok_iff {t : Transaction} {r r' : Registry} :
    t.committed r = .ok r' ↔ t.conflict? r = none ∧ r' = t.published r := by
  rw [committed_eq]
  cases t.conflict? r with
  | some k => simp
  | none => simp [eq_comm]

end Transaction

namespace Store

variable {s : Store} {t : Transaction}

/-- A commit of a store that fails leaves the store as it is. -/
theorem commit_of_error {e : StoreError} (h : t.committed s.registry = .error e) :
    s.commit t = (.error e, s) := by
  rw [commit, t.atomic_commit.run_eq_after, ← Transaction.committed, h]

/-- One that succeeds leaves the registry that its unit of work comes to. -/
theorem commit_of_ok {r : Registry} (h : t.committed s.registry = .ok r) :
    s.commit t =
      (.ok (), { s with
        registry := r
        usage := { s.usage with commits := s.usage.commits + 1 } }) := by
  rw [commit, t.atomic_commit.run_eq_after, ← Transaction.committed, h]

end Store

namespace Transaction

/-- Publishing an id changes what is found under it and nothing else. -/
theorem get?_publish (t : Transaction) (d : Dict Consumer) (i j : String) :
    (t.publish d i).get? j = if i = j then (t.view.get? j).or (d.get? j) else d.get? j := by
  unfold publish
  by_cases h : i = j
  · subst h
    cases t.view.get? i <;> simp
  · cases t.view.get? i with
    | none => simp [h]
    | some c => simp [h, Dict.get?_insert_of_ne]

/-- Publishing many ids changes what is found under them. -/
theorem get?_foldl_publish (t : Transaction) (ids : List String) (d : Dict Consumer) (j : String) :
    (ids.foldl t.publish d).get? j =
      if j ∈ ids then (t.view.get? j).or (d.get? j) else d.get? j := by
  induction ids generalizing d with
  | nil => simp
  | cons i rest ih =>
    rw [List.foldl_cons, ih, get?_publish]
    by_cases hi : i = j
    · subst hi
      cases t.view.get? i <;> simp
    · simp [hi, Ne.symm hi]

/-- The consumers written are found as the unit of work sees them, all others as before. -/
theorem get?_published (t : Transaction) (r : Registry) (i : String) :
    (t.published r).consumers.get? i =
      if t.dirty.contains i = true then (t.view.get? i).or (r.consumers.get? i)
      else r.consumers.get? i := by
  simp only [published, get?_foldl_publish, Dict.mem_keys_iff]

/-- What is found after a commit was seen by the unit of work or was there before. -/
theorem get?_of_published {t : Transaction} {r : Registry} {i : String} {c : Consumer}
    (h : (t.published r).consumers.get? i = some c) :
    t.view.get? i = some c ∨ r.consumers.get? i = some c := by
  rw [get?_published] at h
  split at h
  · rcases Option.or_eq_some_iff.mp h with hseen | ⟨_, hold⟩
    · exact Or.inl hseen
    · exact Or.inr hold
  · exact Or.inr h

/-- What is published is what was written since the opening, over whatever is there. -/
theorem published_written_start (r r' : Registry) (faults : Faults) (listing : Listing)
    (cs : List Consumer) :
    (((start r faults listing).written cs).published r').consumers =
      overwritten r'.consumers cs := by
  refine Dict.eq_of_get?_eq fun i => ?_
  rw [get?_published, written_view, get?_overwritten, get?_overwritten]
  have hdirty : ((start r faults listing).written cs).dirty.contains i = true ↔
      (byId cs).contains i = true := by
    rw [contains_written_dirty, contains_byId]
    simp [start]
  cases hb : (byId cs).get? i with
  | some d =>
    rw [if_pos (hdirty.mpr (Dict.contains_iff.mpr ⟨d, hb⟩))]
    simp only [Option.some_or]
  | none =>
    have hnot : ¬ (byId cs).contains i = true := by simp [Dict.contains, hb]
    rw [if_neg fun h => hnot (hdirty.mp h), Option.none_or]

/-- One version is raised by one. -/
theorem version_bump (versions : Dict Nat) (k j : String) :
    Registry.version (bump versions k) j =
      Registry.version versions j + if k = j then 1 else 0 := by
  rw [bump, Registry.version, Dict.get?_insert]
  by_cases h : k = j
  · subst h
    simp
  · simp [h, Registry.version]

/-- The versions of different owners are raised by one each. -/
theorem version_foldl_bump {ks : List String} (hn : ks.Nodup) (versions : Dict Nat) (j : String) :
    Registry.version (ks.foldl bump versions) j =
      Registry.version versions j + if j ∈ ks then 1 else 0 := by
  induction ks generalizing versions with
  | nil => simp
  | cons k rest ih =>
    obtain ⟨hk, hrest⟩ := List.nodup_cons.mp hn
    rw [List.foldl_cons, ih hrest, version_bump]
    by_cases h : k = j
    · subst h
      simp [hk]
    · simp [h, Ne.symm h]

/-- A commit raises the versions of the written owners by one and no others. -/
theorem version_published (t : Transaction) (r : Registry) (k : String) :
    Registry.version (t.published r).versions k =
      Registry.version r.versions k + if t.touched.contains k = true then 1 else 0 := by
  simp only [published, version_foldl_bump t.touched.nodup_keys, Dict.mem_keys_iff]

/-- No version falls. -/
theorem version_le_published (t : Transaction) (r : Registry) (k : String) :
    Registry.version r.versions k ≤ Registry.version (t.published r).versions k := by
  rw [version_published]
  omega

/-- What a unit of work sees, compared with the registry while others commit. -/
structure Tracks (t : Transaction) (r : Registry) : Prop where
  /-- Versions have not fallen since the start. -/
  base_le : ∀ k, Registry.version t.base k ≤ Registry.version r.versions k
  /-- Consumers that the registry holds of an owner whose version is that of the start are seen as
  they are, unless they were written. -/
  seen : ∀ k i c, Registry.version r.versions k = Registry.version t.base k →
    r.consumers.get? i = some c → c.ownerKey = k → t.dirty.contains i = false →
    t.view.get? i = some c
  /-- What was written belongs to a noted owner. -/
  noted : ∀ i, t.dirty.contains i = true →
    ∃ c, t.view.get? i = some c ∧ t.touched.contains c.ownerKey = true

/-- A unit of work that was just opened knows the registry. -/
theorem tracks_start (r : Registry) (faults : Faults) (listing : Listing) :
    (start r faults listing).Tracks r where
  base_le _ := Nat.le_refl _
  seen _ _ _ _ hi _ _ := hi
  noted i hi := by simp [start] at hi

/-- Writing keeps what is known, since the ids and owners of the batch are noted. -/
theorem Tracks.written {t : Transaction} {r : Registry} {cs : List Consumer} (h : t.Tracks r) :
    (t.written cs).Tracks r where
  base_le := h.base_le
  seen k i c hk hi ho hclean := by
    have hnot : ¬ ((t.dirty.contains i = true) ∨ ∃ c ∈ cs, c.id = some i) := by
      intro hd
      rw [contains_written_dirty.mpr hd] at hclean
      cases hclean
    have hby : (byId cs).get? i = none := by
      cases hb : (byId cs).get? i with
      | none => rfl
      | some d => exact absurd (Or.inr ⟨d, mem_of_get?_byId hb⟩) hnot
    rw [written_view, get?_overwritten, hby, Option.none_or]
    exact h.seen k i c hk hi ho (by simpa using fun hd => hnot (Or.inl hd))
  noted i hi := by
    rcases contains_written_dirty.mp hi with hold | hnew
    · obtain ⟨c, hc, ht⟩ := h.noted i hold
      cases hb : (byId cs).get? i with
      | none =>
        refine ⟨c, ?_, contains_written_touched.mpr (Or.inl ht)⟩
        rw [written_view, get?_overwritten, hb, Option.none_or, hc]
      | some d =>
        obtain ⟨hd, hid⟩ := mem_of_get?_byId hb
        refine ⟨d, ?_, contains_written_touched.mpr (Or.inr ⟨d, hd, i, hid, rfl⟩)⟩
        rw [written_view, get?_overwritten, hb, Option.some_or]
    · have hby : (byId cs).contains i = true := contains_byId.mpr hnew
      obtain ⟨d, hb⟩ := Dict.contains_iff.mp hby
      obtain ⟨hd, hid⟩ := mem_of_get?_byId hb
      refine ⟨d, ?_, contains_written_touched.mpr (Or.inr ⟨d, hd, i, hid, rfl⟩)⟩
      rw [written_view, get?_overwritten, hb, Option.some_or]

/-- A published consumer belongs to a noted owner or was there before. -/
theorem Tracks.get?_published_cases {t : Transaction} {r : Registry} {i : String} {c : Consumer}
    (h : t.Tracks r) (hi : (t.published r).consumers.get? i = some c) :
    (t.dirty.contains i = true ∧ t.view.get? i = some c ∧ t.touched.contains c.ownerKey = true) ∨
      (t.dirty.contains i = false ∧ r.consumers.get? i = some c) := by
  rw [get?_published] at hi
  by_cases hd : t.dirty.contains i = true
  · obtain ⟨d, hview, ht⟩ := h.noted i hd
    rw [if_pos hd, hview, Option.some_or, Option.some.injEq] at hi
    exact Or.inl ⟨hd, hi ▸ hview, hi ▸ ht⟩
  · rw [if_neg hd] at hi
    exact Or.inr ⟨by simpa using hd, hi⟩

/-- The commit of another unit of work keeps what is known: it raises the versions of all owners
that its consumers belong to. -/
theorem Tracks.published {t u : Transaction} {r : Registry} (h : t.Tracks r) (hu : u.Tracks r) :
    t.Tracks (u.published r) where
  base_le k := Nat.le_trans (h.base_le k) (version_le_published u r k)
  noted := h.noted
  seen k i c hk hi ho hclean := by
    have hbase := h.base_le k
    rw [version_published] at hk
    have hfree : u.touched.contains k = false := by
      by_contra ht
      rw [Bool.not_eq_false] at ht
      rw [if_pos ht] at hk
      omega
    rw [hfree, if_neg (by decide), Nat.add_zero] at hk
    rcases hu.get?_published_cases hi with ⟨_, _, ht⟩ | ⟨_, hold⟩
    · rw [ho, hfree] at ht
      cases ht
    · exact h.seen k i c hk hold ho hclean

/-- A commit without a conflict leaves single holders if the view and the registry have them. -/
theorem oneHolderEach_published {t : Transaction} {r : Registry} (htracks : t.Tracks r)
    (hview : OneHolderEach t.view) (hr : OneHolderEach r.consumers)
    (hfree : t.conflict? r = none) : OneHolderEach (t.published r).consumers := by
  intro k
  by_cases hk : t.touched.contains k = true
  · -- The registry holds nothing of the owner that the view does not show as well.
    have hversion := conflict?_eq_none_iff.mp hfree k hk
    refine (hview k).mono fun i c ho hi => ?_
    rcases htracks.get?_published_cases hi with ⟨_, hseen, _⟩ | ⟨hclean, hold⟩
    · exact hseen
    · exact htracks.seen k i c hversion hold ho hclean
  · -- Nothing of the owner was written.
    refine (hr k).mono fun i c ho hi => ?_
    rcases htracks.get?_published_cases hi with ⟨_, _, ht⟩ | ⟨_, hold⟩
    · exact absurd (ho ▸ ht) hk
    · exact hold

end Transaction

end HostRoster
