import HostRoster.Proofs.Store.Conflicts

/-!
# Lost updates

A commit that succeeds may replace what others have committed since the unit of work was opened: a
unit of work notes the owners of the records that it stages, and not those of the records that they
replace. This is the only way. What is lost was moved, before the commit, to an owner for whom the
unit of work has staged nothing at all.
-/

namespace HostRoster

namespace Chronicle

/-- If a commit that succeeds replaces what others have committed since the opening, then what it
replaces belongs to an owner for whom it has staged no record. -/
theorem commit_replaces_moved {s : Store} {steps : List Step} {name : String} {t : Transaction}
    (ht : ((World.ofStore s).run steps).works.get? name = some t)
    (hok : (((World.ofStore s).run steps).commit name t).1 = .ok ()) :
    let w := (World.ofStore s).run steps
    let c := (ofStore s).run steps
    let left := (w.commit name t).2.store.registry.consumers
    ∀ i, (∃ d ∈ c.staged name, d.id = some i) →
      (∃ e ∈ (c.rivals name).flatten, e.id = some i) →
      ∃ lost kept, w.store.registry.consumers.get? i = some lost ∧ left.get? i = some kept ∧
        lost ∈ (c.rivals name).flatten ∧ kept ∈ c.staged name ∧
        ∀ own ∈ c.staged name, own.ownerKey ≠ lost.ownerKey := by
  rw [← world_run_ofStore] at ht hok ⊢
  intro w c left i hstaged hrivals
  obtain ⟨r, h⟩ := (follows_ofStore s).run steps name t ht
  obtain ⟨lost, hlost, hstored⟩ := h.mem_rivals hrivals
  obtain ⟨kept, hkept⟩ : ∃ kept, (Transaction.byId (c.staged name)).get? i = some kept :=
    Dict.contains_iff.mp (Transaction.contains_byId.mpr hstaged)
  have hleft : left.get? i = some kept := by
    rw [h.get?_commit hok, hkept, Option.some_or]
  refine ⟨lost, kept, hstored, hleft, hlost, (Transaction.mem_of_get?_byId hkept).1, ?_⟩
  -- Otherwise the owner of what is lost would be contested.
  intro own hown hsame
  obtain ⟨records, hrecords, hin⟩ := List.mem_flatten.mp hlost
  exact h.not_contested hok lost.ownerKey ⟨⟨own, hown, hsame⟩, records, hrecords, lost, hin, rfl⟩

/-- A host was moved to another owner, and its move is undone by a unit of work that was opened
before. -/
theorem commit_replaces_moved_host :
    let host (name owner : String) (guests : List String) : Consumer :=
      ⟨some "1", "u", name, owner, .hypervisor, none, guests, .empty, none⟩
    let s : Store :=
      ⟨⟨.empty, Transaction.overwritten .empty [host "stored" "a" []], .empty⟩, .none, .none,
        ⟨⟨fun _ => "", 0⟩, ⟨fun _ => "", 0⟩⟩, .given⟩
    let steps : List Step :=
      [.start "early", .start "late", .updateMemberships "early" [host "moved" "b" ["g"]],
        .commit "early", .updateMemberships "late" [host "renamed" "a" []]]
    let w := (World.ofStore s).run steps
    let c := (ofStore s).run steps
    ∃ t, w.works.get? "late" = some t ∧ (w.commit "late" t).1 = .ok () ∧
      (∃ d ∈ c.staged "late", d.id = some "1") ∧
      (∃ e ∈ (c.rivals "late").flatten, e.id = some "1") ∧
      ∃ lost kept, w.store.registry.consumers.get? "1" = some lost ∧
        (w.commit "late" t).2.store.registry.consumers.get? "1" = some kept ∧
        lost ∈ (c.rivals "late").flatten ∧ kept ∈ c.staged "late" ∧
        ∀ own ∈ c.staged "late", own.ownerKey ≠ lost.ownerKey := by
  intro host s steps w c
  obtain ⟨t, ht⟩ : ∃ t, w.works.get? "late" = some t :=
    Option.isSome_iff_exists.mp (by decide +kernel)
  have hok : (w.commit "late" t).1 = .ok () := (World.commits_iff ht).mp (by decide +kernel)
  have hstaged : ∃ d ∈ c.staged "late", d.id = some "1" := by decide +kernel
  have hrivals : ∃ e ∈ (c.rivals "late").flatten, e.id = some "1" := by decide +kernel
  clear_value s steps
  exact ⟨t, ht, hok, hstaged, hrivals, commit_replaces_moved ht hok "1" hstaged hrivals⟩

/-- Not every commit that succeeds finds what it replaces as it was when the unit of work was
opened. -/
theorem exists_commit_replaces :
    ¬ ∀ (s : Store) (before after : List Step) (name : String) (t : Transaction),
      let steps := before ++ .start name :: after
      let w := (World.ofStore s).run steps
      .start name ∉ after → w.works.get? name = some t → (w.commit name t).1 = .ok () →
      ∀ d ∈ ((ofStore s).run steps).staged name, ∀ i, d.id = some i →
        w.store.registry.consumers.get? i =
          ((World.ofStore s).run before).store.registry.consumers.get? i := by
  intro hall
  let host (name owner : String) : Consumer :=
    ⟨some "1", "u", name, owner, .hypervisor, none, [], .empty, none⟩
  let s : Store :=
    ⟨⟨.empty, Transaction.overwritten .empty [host "stored" "a"], .empty⟩, .none, .none,
      ⟨⟨fun _ => "", 0⟩, ⟨fun _ => "", 0⟩⟩, .given⟩
  let after : List Step :=
    [.updateAttributes "early" [host "moved" "b"], .commit "early",
      .updateAttributes "late" [host "renamed" "a"]]
  let w := (World.ofStore s).run ([.start "early"] ++ .start "late" :: after)
  obtain ⟨t, ht⟩ : ∃ t, w.works.get? "late" = some t :=
    Option.isSome_iff_exists.mp (by decide +kernel)
  have hok : (w.commit "late" t).1 = .ok () := (World.commits_iff ht).mp (by decide +kernel)
  have h := hall s [.start "early"] after "late" t (by decide +kernel) ht hok
    (host "renamed" "a") (by decide +kernel) "1" rfl
  exact absurd h (by decide +kernel)

end Chronicle

end HostRoster
