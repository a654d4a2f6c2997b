import HostRoster.Proofs.Store.Chronicle

/-!
# Conflicts

A commit fails exactly if an owner is contested: the unit of work has staged a record of the owner,
and so has another one that was committed since this one was opened. Of several contested owners the
conflict names the one with the smallest key. A commit that does not fail puts the last record that
was staged under each id into the store and leaves all else as it is.
-/

namespace HostRoster

namespace Transaction

/-- A conflict is about the smallest key of a written owner whose version is not that of the
start. -/
theorem conflict?_eq_some_iff {t : Transaction} {r : Registry} {k : String} :
    t.conflict? r = some k ↔
      (t.touched.contains k = true ∧ Registry.version r.versions k ≠ Registry.version t.base k) ∧
        ∀ j, t.touched.contains j = true →
          Registry.version r.versions j ≠ Registry.version t.base j → ¬ j < k := by
  rw [conflict?, Dict.find?_keys_eq_some_iff]
  simp only [bne_iff_ne]

/-- A commit fails exactly with a conflict. -/
theorem committed_eq_error_iff {t : Transaction} {r : Registry} {e : StoreError} :
    t.committed r = .error e ↔ ∃ k, e = .conflict k ∧ t.conflict? r = some k := by
  rw [committed_eq]
  cases t.conflict? r with
  | none => simp
  | some k => simp [eq_comm]

/-- What a batch holds under an id is the last of its consumers with this id. -/
theorem get?_byId_eq_find? (cs : List Consumer) (i : String) :
    (byId cs).get? i = cs.reverse.find? fun c => c.id = some i := by
  induction cs using List.reverseRecOn with
  | nil => rfl
  | append_singleton cs c ih =>
    rw [get?_byId_concat, List.reverse_concat, List.find?_cons, ih]
    by_cases h : c.id = some i <;> simp [h]

end Transaction

namespace Chronicle

/-- An owner of whom a unit of work has staged a record, and of whom one was committed by another
unit of work since this one was opened. -/
def Contested (c : Chronicle) (name ownerKey : String) : Prop :=
  (∃ d ∈ c.staged name, d.ownerKey = ownerKey) ∧
    ∃ records ∈ c.rivals name, ∃ d ∈ records, d.ownerKey = ownerKey

instance (c : Chronicle) (name ownerKey : String) : Decidable (c.Contested name ownerKey) :=
  inferInstanceAs (Decidable (_ ∧ _))

/-- Records concern an owner if one of them belongs to it. -/
theorem concerns_iff {k : String} {records : List Consumer} :
    concerns k records = true ↔ ∃ d ∈ records, d.ownerKey = k := by
  simp only [concerns, List.any_eq_true, beq_iff_eq]

namespace Since

variable {c : Chronicle} {name : String} {t : Transaction} {r : Registry}

theorem base (h : c.Since name t r) : t.base = r.versions := by
  obtain ⟨faults, listing, rfl⟩ := h.work
  rfl

/-- A version has moved exactly if another unit of work has committed a record of the owner. -/
theorem version_ne_iff (h : c.Since name t r) {k : String} :
    Registry.version c.registry.versions k ≠ Registry.version t.base k ↔
      ∃ records ∈ c.rivals name, ∃ d ∈ records, d.ownerKey = k := by
  have hcount : Registry.version c.registry.versions k ≠ Registry.version t.base k ↔
      0 < (c.rivals name).countP (concerns k) := by
    rw [h.versions k, h.base]
    omega
  rw [hcount, List.countP_pos_iff]
  simp only [concerns_iff]

/-- The contested owners are those whose consumers are written and whose version has moved. -/
theorem contested_iff (h : c.Since name t r) {k : String} :
    c.Contested name k ↔ t.touched.contains k = true ∧
      Registry.version c.registry.versions k ≠ Registry.version t.base k := by
  rw [h.contains_touched, concerns_iff, h.version_ne_iff, Contested]

/-- The conflict is with the first owner that is contested. -/
theorem conflict?_eq_some_iff (h : c.Since name t r) {k : String} :
    t.conflict? c.registry = some k ↔
      c.Contested name k ∧ ∀ j, c.Contested name j → ¬ j < k := by
  rw [Transaction.conflict?_eq_some_iff]
  simp only [h.contested_iff, and_imp]

/-- There is none exactly if no owner is contested. -/
theorem conflict?_eq_none_iff (h : c.Since name t r) :
    t.conflict? c.registry = none ↔ ∀ k, ¬ c.Contested name k := by
  rw [Transaction.conflict?_eq_none_iff]
  simp only [h.contested_iff, not_and, not_not]

/-- A commit fails exactly with a conflict about the smallest key of a contested owner. -/
theorem answer_eq_error_iff (h : c.Since name t r) {e : StoreError} :
    (c.world.commit name t).1 = .error e ↔
      ∃ k, e = .conflict k ∧ c.Contested name k ∧ ∀ j, c.Contested name j → ¬ j < k := by
  have herror : (c.world.commit name t).1 = .error e ↔ t.committed c.registry = .error e := by
    rw [World.commit_answer]
    change (t.committed c.registry).map _ = _ ↔ _
    cases t.committed c.registry <;> simp [Except.map]
  rw [herror, Transaction.committed_eq_error_iff]
  simp only [h.conflict?_eq_some_iff]

/-- What is stored under an id that others have committed since the opening is one of their
records. -/
theorem mem_rivals (h : c.Since name t r) {i : String}
    (hi : ∃ e ∈ (c.rivals name).flatten, e.id = some i) :
    ∃ stored ∈ (c.rivals name).flatten, c.registry.consumers.get? i = some stored := by
  obtain ⟨last, hlast⟩ : ∃ last, (Transaction.byId (c.rivals name).flatten).get? i = some last :=
    Dict.contains_iff.mp (Transaction.contains_byId.mpr hi)
  refine ⟨last, (Transaction.mem_of_get?_byId hlast).1, ?_⟩
  rw [h.consumers, Transaction.get?_overwritten, hlast, Option.some_or]

/-- A commit that succeeds publishes under every id that was staged the last record staged there. -/
theorem get?_commit (h : c.Since name t r) (hok : (c.world.commit name t).1 = .ok ()) (i : String) :
    (c.world.commit name t).2.store.registry.consumers.get? i =
      ((Transaction.byId (c.staged name)).get? i).or (c.registry.consumers.get? i) := by
  rw [(World.published_of_commit hok).2, h.consumers_published, Transaction.get?_overwritten]
  rfl

/-- If a commit succeeds, no owner is contested. -/
theorem not_contested (h : c.Since name t r) (hok : (c.world.commit name t).1 = .ok ())
    (k : String) : ¬ c.Contested name k :=
  h.conflict?_eq_none_iff.mp (World.published_of_commit hok).1 k

end Since

/-- A commit conflicts exactly if an owner is contested, and names the smallest such owner. If it
succeeds, the store holds the last record that was staged under each id, and all else as before. -/
theorem commit_conflicts_iff {s : Store} {steps : List Step} {name : String} {t : Transaction}
    (ht : ((World.ofStore s).run steps).works.get? name = some t) :
    let w := (World.ofStore s).run steps
    let c := (ofStore s).run steps
    let answer := (w.commit name t).1
    let left := (w.commit name t).2.store.registry.consumers
    ((∃ k, answer = .error (.conflict k)) ↔ ∃ k, c.Contested name k) ∧
      (∀ e, answer = .error e ↔
        ∃ k, e = .conflict k ∧ c.Contested name k ∧ ∀ j, c.Contested name j → ¬ j < k) ∧
      (answer = .ok () → ∀ i, left.get? i =
        ((c.staged name).reverse.find? fun d => d.id = some i).or
          (w.store.registry.consumers.get? i)) := by
  rw [← world_run_ofStore] at ht ⊢
  intro w c answer left
  obtain ⟨r, h⟩ := (follows_ofStore s).run steps name t ht
  refine ⟨⟨fun ⟨k, hk⟩ => ?_, fun ⟨k, hk⟩ => ?_⟩, fun e => h.answer_eq_error_iff, fun hok i => ?_⟩
  · obtain ⟨j, _, hj, _⟩ := h.answer_eq_error_iff.mp hk
    exact ⟨j, hj⟩
  · cases hc : t.conflict? c.registry with
    | none => exact absurd hk (h.conflict?_eq_none_iff.mp hc k)
    | some j => exact ⟨j, h.answer_eq_error_iff.mpr ⟨j, rfl, h.conflict?_eq_some_iff.mp hc⟩⟩
  · rw [← Transaction.get?_byId_eq_find?]
    exact h.get?_commit hok i

/-- One unit of work has written for two owners of whom others were the first to commit, another one
for an owner of its own. -/
theorem commit_conflicts_iff_two_owners :
    let host (uuid owner : String) : Consumer :=
      ⟨none, uuid, uuid, owner, .hypervisor, none, [], .empty, none⟩
    let s : Store :=
      ⟨.empty, .none, .none,
        ⟨⟨fun n => String.ofList (List.replicate n 'i'), 0⟩, ⟨fun _ => "", 0⟩⟩, .given⟩
    let steps : List Step :=
      [.start "both", .start "left", .start "right", .start "apart", .create "both" (host "1" "b"),
        .create "both" (host "2" "a"), .create "right" (host "3" "b"), .commit "right",
        .create "left" (host "4" "a"), .commit "left", .create "apart" (host "5" "c")]
    let w := (World.ofStore s).run steps
    let c := (ofStore s).run steps
    ∃ t u, w.works.get? "both" = some t ∧ w.works.get? "apart" = some u ∧
      c.Contested "both" "a" ∧ c.Contested "both" "b" ∧
      (w.commit "both" t).1 = .error (.conflict "a") ∧
      (w.commit "apart" u).1 = .ok () ∧
      ∀ i, (w.commit "apart" u).2.store.registry.consumers.get? i =
        ((c.staged "apart").reverse.find? fun d => d.id = some i).or
          (w.store.registry.consumers.get? i) := by
  intro host s steps w c
  obtain ⟨t, ht⟩ : ∃ t, w.works.get? "both" = some t :=
    Option.isSome_iff_exists.mp (by decide +kernel)
  obtain ⟨u, hu⟩ : ∃ u, w.works.get? "apart" = some u :=
    Option.isSome_iff_exists.mp (by decide +kernel)
  have hleft : c.Contested "both" "a" := by decide +kernel
  have hright : c.Contested "both" "b" := by decide +kernel
  have hok : (w.commit "apart" u).1 = .ok () := (World.commits_iff hu).mp (by decide +kernel)
  -- An owner that is contested is one of those written for.
  have hleast (k : String) (hk : c.Contested "both" k) : ¬ k < "a" := by
    have hamong : ∀ d ∈ c.staged "both", ¬ d.ownerKey < "a" := by decide +kernel
    obtain ⟨⟨d, hd, rfl⟩, _⟩ := hk
    exact hamong d hd
  clear_value s steps
  obtain ⟨_, hboth, _⟩ := commit_conflicts_iff ht
  obtain ⟨_, _, hapart⟩ := commit_conflicts_iff hu
  exact ⟨t, u, ht, hu, hleft, hright, (hboth _).mpr ⟨"a", rfl, hleft, hleast⟩, hok, hapart hok⟩

end Chronicle

end HostRoster
