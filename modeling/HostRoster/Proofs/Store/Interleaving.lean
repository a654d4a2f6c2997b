import HostRoster.Proofs.Store.Steps

/-!
# Interleaved units of work

The steps of any number of units of work on one store, in any order. No order of steps gives a
hypervisor id of an owner a second holder, neither in the store nor in the view of an open unit of
work: every write is checked against the whole view, and a commit passes only if the view still
shows all that the store holds of the owners written to.
-/

namespace HostRoster

namespace World

/-- What a step leaves of the registry and of the open units of work: a commit publishes, a call
lays a batch over one view, and all else only opens or closes. -/
inductive Change (w : World) : World → Prop where
  /-- A unit of work is opened. -/
  | opened (name : String) : Change w (w.start name)
  /-- A batch is laid over the view of a unit of work. -/
  | wrote {w' : World} {name : String} {t : Transaction} {cs : List Consumer}
    (ht : w.works.get? name = some t) (haccepts : t.Accepts cs)
    (hregistry : w'.store.registry = w.store.registry)
    (hworks : w'.works = w.works.insert name (t.written cs)) : Change w w'
  /-- A unit of work is committed. -/
  | published {w' : World} {name : String} {t : Transaction}
    (ht : w.works.get? name = some t) (hfree : t.conflict? w.store.registry = none)
    (hregistry : w'.store.registry = t.published w.store.registry)
    (hworks : w'.works = w.works.erase name) : Change w w'
  /-- A unit of work is gone without a trace. -/
  | closed {w' : World} {name : String} (hregistry : w'.store.registry = w.store.registry)
    (hworks : w'.works = w.works.erase name) : Change w w'
  /-- Nothing is left. -/
  | none : Change w w

/-- What a deed leaves of the registry and of the open units of work. -/
theorem Did.change {w w' : World} {d : Deed} (h : w.Did d w') : w.Change w' := by
  cases h with
  | opened name => exact .opened name
  | wrote ht haccepts _ hregistry hworks => exact .wrote ht haccepts hregistry hworks
  | idle => exact .none
  | committed ht hfree _ hregistry hworks => exact .published ht hfree hregistry hworks
  | ended _ hregistry hworks => exact .closed hregistry hworks

/-- Every step is a change of the world. -/
theorem change_step (w : World) (s : Step) : w.Change (w.step s) := (w.did_step s).change

/-- The store and all views have single holders, and open units of work keep track of the store. -/
structure Sound (w : World) : Prop where
  /-- The store has single holders. -/
  store : OneHolderEach w.store.registry.consumers
  /-- So has every view. -/
  view : ∀ name t, w.works.get? name = some t → OneHolderEach t.view
  /-- Every open unit of work knows what it may rely on. -/
  tracks : ∀ name t, w.works.get? name = some t → t.Tracks w.store.registry

/-- A store with single holders and without open units of work is sound. -/
theorem sound_ofStore {s : Store} (h : OneHolderEach s.registry.consumers) :
    (ofStore s).Sound where
  store := h
  view _ _ ht := by simp [ofStore] at ht
  tracks _ _ ht := by simp [ofStore] at ht

/-- Every change of a world keeps it sound. -/
theorem Sound.change {w w' : World} (h : w.Sound) (hw : w.Change w') : w'.Sound := by
  cases hw with
  | opened name =>
    refine ⟨h.store, fun n t ht => ?_, fun n t ht => ?_⟩
    · rcases Dict.eq_or_get?_of_insert ht with ⟨_, rfl⟩ | hold
      · exact h.store
      · exact h.view n t hold
    · rcases Dict.eq_or_get?_of_insert ht with ⟨_, rfl⟩ | hold
      · exact Transaction.tracks_start _ _ _
      · exact h.tracks n t hold
  | @wrote _ name t cs ht haccepts hregistry hworks =>
    refine ⟨hregistry ▸ h.store, fun n t' ht' => ?_, fun n t' ht' => hregistry ▸ ?_⟩
    · rcases Dict.eq_or_get?_of_insert (hworks ▸ ht') with ⟨_, rfl⟩ | hold
      · exact Transaction.oneHolderEach_overwritten (h.view name t ht) haccepts.identities
      · exact h.view n t' hold
    · rcases Dict.eq_or_get?_of_insert (hworks ▸ ht') with ⟨_, rfl⟩ | hold
      · exact (h.tracks name t ht).written
      · exact h.tracks n t' hold
  | @published _ name t ht hfree hregistry hworks =>
    have htracks := h.tracks name t ht
    have hold (n : String) (t' : Transaction) (ht' : w'.works.get? n = some t') :
        w.works.get? n = some t' := Dict.get?_of_erase (hworks ▸ ht')
    refine ⟨hregistry ▸ ?_, fun n t' ht' => h.view n t' (hold n t' ht'),
      fun n t' ht' => hregistry ▸ (h.tracks n t' (hold n t' ht')).published htracks⟩
    exact Transaction.oneHolderEach_published htracks (h.view name t ht) h.store hfree
  | @closed _ name hregistry hworks =>
    have hold (n : String) (t' : Transaction) (ht' : w'.works.get? n = some t') :
        w.works.get? n = some t' := Dict.get?_of_erase (hworks ▸ ht')
    exact ⟨hregistry ▸ h.store, fun n t' ht' => h.view n t' (hold n t' ht'),
      fun n t' ht' => hregistry ▸ h.tracks n t' (hold n t' ht')⟩
  | none => exact h

theorem Sound.run {w : World} (h : w.Sound) (steps : List Step) : (w.run steps).Sound := by
  induction steps generalizing w with
  | nil => exact h
  | cons s rest ih => exact ih (h.change (change_step w s))

/-- However units of work interleave, no hypervisor id of an owner gets a second holder, neither in
the store nor in the view of an open unit of work. -/
theorem oneHolderEach_run {s : Store} (h : OneHolderEach s.registry.consumers)
    (steps : List Step) :
    OneHolderEach ((ofStore s).run steps).store.registry.consumers ∧
      ∀ name t, ((ofStore s).run steps).works.get? name = some t → OneHolderEach t.view := by
  have hsound := (sound_ofStore h).run steps
  exact ⟨hsound.store, hsound.view⟩

/-- Two hosts swap their ids in one unit of work while another registers a host under one of
them. -/
theorem oneHolderEach_run_swap :
    let host (id uuid hypervisorId : String) : Consumer :=
      ⟨some id, uuid, uuid, "admin", .hypervisor, some ⟨hypervisorId, none⟩, [], .empty, none⟩
    let s : Store :=
      ⟨⟨.empty, Transaction.overwritten .empty [host "1" "x" "a", host "2" "y" "b"], .empty⟩, .none,
        .none, ⟨⟨fun _ => "3", 0⟩, ⟨fun _ => "z", 0⟩⟩, .given⟩
    let steps : List Step :=
      [.start "swap", .start "late", .create "late" (host "" "z" "b"),
        .updateAttributes "swap" [host "1" "x" "b", host "2" "y" "a"], .commit "swap",
        .create "late" (host "" "z" "c"), .commit "late"]
    OneHolderEach s.registry.consumers ∧
      OneHolderEach ((ofStore s).run steps).store.registry.consumers ∧
      ∀ name t, ((ofStore s).run steps).works.get? name = some t → OneHolderEach t.view := by
  intro host s steps
  have hcheck : Transaction.checkIdentities s.listing .empty [host "1" "x" "a", host "2" "y" "b"] =
      .ok () := by decide +kernel
  have h : OneHolderEach s.registry.consumers :=
    Transaction.oneHolderEach_overwritten (fun _ _ _ _ _ _ hi => by simp at hi) hcheck
  exact ⟨h, oneHolderEach_run h steps⟩

end World

end HostRoster
