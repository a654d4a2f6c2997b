import HostRoster.Proofs.Run.Traffic

/-!
# Serializability

Runs that overlap are serializable in the order of their commits. Each conclusion of a run keeps the
store and the answers the same as if the runs that wrote had been made one after the other.
-/

namespace HostRoster

namespace Run

/-- One more run comes after the others. -/
theorem serially_concat (s : Store) (l : List Run) (r : Run) :
    serially s (l ++ [r]) =
      ((serially s l).1 ++ [(r.alone (serially s l).2).1], (r.alone (serially s l).2).2) := by
  induction l generalizing s with
  | nil => rfl
  | cons q rest ih => simp only [List.cons_append, serially, ih]

end Run

namespace Traffic

/-- Where the runs have led so far, compared with the runs that wrote, one after the other. -/
structure Serial (s : Store) (w : Traffic) : Prop where
  /-- Consumers are stored under their own ids. -/
  filed : FiledById w.store.registry.consumers
  /-- What is stored was there before or drawn by a run that wrote. -/
  accounted : Accounted s.registry.consumers w.writers w.store.registry.consumers
  /-- What open runs see was there before or drawn as well, and may be relied on. -/
  opened : ∀ name r t, w.opened.get? name = some (r, t) →
    t.Unwritten w.store ∧ Accounted s.registry.consumers w.writers t.view
  /-- The answers are those of the serial order. -/
  answers : (Run.serially s (w.writers.map (·.run))).1 = w.writers.map (·.answer)
  /-- So are the contents of the store. -/
  registry : (Run.serially s (w.writers.map (·.run))).2.registry = w.store.registry
  /-- The same writes are refused. -/
  faults : (Run.serially s (w.writers.map (·.run))).2.faults = w.store.faults

/-- Before anything happens nothing differs from the serial order. -/
theorem serial_ofStore {s : Store} (h : FiledById s.registry.consumers) : (ofStore s).Serial s where
  filed := h
  accounted i c hi := ⟨Or.inl (Dict.contains_iff.mpr ⟨c, hi⟩), Or.inl ⟨i, c, hi, rfl⟩⟩
  opened name r t ht := by simp [ofStore] at ht
  answers := rfl
  registry := rfl
  faults := rfl

/-- The concluded runs after one more. -/
theorem writers_concat (w : Traffic) (f : Finished) (s : Store) (d : Dict (Run × Transaction)) :
    (⟨s, d, w.log ++ [f]⟩ : Traffic).writers = w.writers ++ if f.wrote then [f] else [] := by
  rw [writers, List.filter_append]
  cases h : f.wrote <;> simp [writers, h]

/-- A run that is opened has no place in it yet. -/
theorem Serial.start {s : Store} {w : Traffic} (h : w.Serial s) (name : String) (r : Run) :
    (w.step (.start name r)).Serial s where
  filed := h.filed
  accounted := h.accounted
  opened n q t ht := by
    rcases Dict.eq_or_get?_of_insert ht with ⟨_, he⟩ | hold
    · cases he
      exact ⟨Store.unwritten_start h.filed, h.accounted⟩
    · exact h.opened n q t hold
  answers := h.answers
  registry := h.registry
  faults := h.faults

/-- A run that leaves no trace has no place in the serial order. -/
theorem Serial.finish_idle {s s' : Store} {w : Traffic} {f : Finished} (h : w.Serial s)
    (hwrote : f.wrote = false) (hregistry : s'.registry = w.store.registry)
    (hfaults : s'.faults = w.store.faults) (name : String) :
    (⟨s', w.opened.erase name, w.log ++ [f]⟩ : Traffic).Serial s := by
  have hwriters : (⟨s', w.opened.erase name, w.log ++ [f]⟩ : Traffic).writers = w.writers := by
    rw [writers_concat, hwrote]
    simp
  refine ⟨?_, ?_, fun n q t ht => ?_, ?_, ?_, ?_⟩
  · rw [hregistry]
    exact h.filed
  · rw [hwriters, hregistry]
    exact h.accounted
  · obtain ⟨hunwritten, haccounted⟩ := h.opened n q t (Dict.get?_of_erase ht)
    rw [hwriters]
    exact ⟨hunwritten.of_eq hregistry hfaults, haccounted⟩
  · rw [hwriters]
    exact h.answers
  · rw [hwriters, h.registry, hregistry]
  · rw [hwriters, h.faults, hfaults]

/-- A run that writes comes last in the serial order. -/
theorem Serial.finish_writer {s : Store} {w : Traffic} {r : Run} {t : Transaction} {k : String}
    {ds : List Consumer} {name : String} (h : w.Serial s)
    (hopen : w.opened.get? name = some (r, t)) (hwrites : r.Writes w.store t k ds)
    (hwrote : (r.finish w.store t).wrote = true)
    (hfaults : (r.concluded w.store t).2.faults = w.store.faults)
    (hfresh : Fresh s.registry.consumers (w.writers ++ [r.finish w.store t])) :
    (⟨(r.concluded w.store t).2, w.opened.erase name, w.log ++ [r.finish w.store t]⟩ :
      Traffic).Serial s := by
  obtain ⟨hunwritten, hview⟩ := h.opened name r t hopen
  have hids : ∀ i, (r.finish w.store t).DrewId i → w.store.registry.consumers.get? i = none :=
    fun i hi => hfresh.not_contains h.accounted hi
  obtain ⟨halone, haloneRegistry, haloneFaults⟩ := hwrites.alone hunwritten h.registry h.faults
    h.filed hids (hfresh.reserved hview k) (hfresh.reserved h.accounted k)
  have hwriters : (⟨(r.concluded w.store t).2, w.opened.erase name,
      w.log ++ [r.finish w.store t]⟩ : Traffic).writers = w.writers ++ [r.finish w.store t] := by
    rw [writers_concat, hwrote, if_pos rfl]
  have hserial := Run.serially_concat s (w.writers.map (·.run)) r
  refine ⟨hwrites.filed hunwritten h.filed, ?_, fun n q t' ht' => ?_, ?_, ?_, ?_⟩
  · rw [hwriters, hwrites.registry]
    exact hwrites.accounted hunwritten h.accounted hview
  · obtain ⟨hunwritten', hview'⟩ := h.opened n q t' (Dict.get?_of_erase ht')
    rw [hwriters]
    exact ⟨hwrites.unwritten hunwritten hwrites.registry hfaults hids hunwritten',
      hview'.mono fun f hf => List.mem_append_left _ hf⟩
  · rw [hwriters, List.map_append, List.map_append, List.map_singleton, List.map_singleton]
    have hlast : (r.finish w.store t).run = r := rfl
    rw [hlast, hserial, h.answers, halone]
    rfl
  · rw [hwriters, List.map_append, List.map_singleton]
    have hlast : (r.finish w.store t).run = r := rfl
    rw [hlast, hserial, haloneRegistry]
  · rw [hwriters, List.map_append, List.map_singleton]
    have hlast : (r.finish w.store t).run = r := rfl
    rw [hlast, hserial, haloneFaults, h.faults, hfaults]

/-- An event adds to the runs that wrote, and takes none away. -/
theorem writers_step (w : Traffic) (e : Event) : ∃ l, (w.step e).writers = w.writers ++ l := by
  cases e with
  | start name r => exact ⟨[], (List.append_nil _).symm⟩
  | finish name =>
    rw [step]
    cases w.opened.get? name with
    | none => exact ⟨[], (List.append_nil _).symm⟩
    | some q => exact ⟨_, writers_concat w _ _ _⟩

theorem writers_run (w : Traffic) (events : List Event) :
    ∃ l, (w.run events).writers = w.writers ++ l := by
  induction events generalizing w with
  | nil => exact ⟨[], (List.append_nil _).symm⟩
  | cons e rest ih =>
    obtain ⟨l, hl⟩ := w.writers_step e
    obtain ⟨l', hl'⟩ := ih (w.step e)
    exact ⟨l ++ l', by rw [← List.append_assoc, ← hl]; exact hl'⟩

/-- An event that concludes no run that wrote leaves no trace. -/
theorem Serial.registry_step {s : Store} {w : Traffic} (h : w.Serial s) {e : Event}
    (hidle : (w.step e).writers = w.writers) :
    (w.step e).store.registry = w.store.registry := by
  cases e with
  | start name r => rfl
  | finish name =>
    cases hopen : w.opened.get? name with
    | none => simp only [step, hopen]
    | some q =>
      obtain ⟨r, t⟩ := q
      obtain ⟨_, ⟨_, hregistry⟩ | ⟨hwrote, _⟩⟩ := r.finish_cases (h.opened name r t hopen).1
      · simp only [step, hopen]
        exact hregistry
      · simp only [step, hopen, writers_concat, hwrote, if_true] at hidle
        simp at hidle

/-- Every event keeps the serial order, as long as what runs have drawn is new. -/
theorem Serial.step {s : Store} {w : Traffic} (h : w.Serial s) {e : Event}
    (hfresh : Fresh s.registry.consumers (w.step e).writers) : (w.step e).Serial s := by
  cases e with
  | start name r => exact h.start name r
  | finish name =>
    cases hopen : w.opened.get? name with
    | none => simpa only [Traffic.step, hopen] using h
    | some q =>
      obtain ⟨r, t⟩ := q
      simp only [Traffic.step, hopen] at hfresh ⊢
      obtain ⟨hfaults, ⟨hwrote, hregistry⟩ | ⟨hwrote, k, ds, hwrites⟩⟩ :=
        r.finish_cases (h.opened name r t hopen).1
      · exact h.finish_idle hwrote hregistry hfaults name
      · rw [writers_concat, hwrote, if_pos rfl] at hfresh
        exact h.finish_writer hopen hwrites hwrote hfaults hfresh

theorem Serial.run {s : Store} {w : Traffic} (h : w.Serial s) {events : List Event}
    (hfresh : Fresh s.registry.consumers (w.run events).writers) : (w.run events).Serial s := by
  induction events generalizing w with
  | nil => exact h
  | cons e rest ih =>
    obtain ⟨l, hl⟩ := (w.step e).writers_run rest
    have hstep : Fresh s.registry.consumers (w.step e).writers := by
      have hfresh : Fresh s.registry.consumers ((w.step e).run rest).writers := hfresh
      rw [hl] at hfresh
      exact hfresh.init
    exact ih (h.step hstep) hfresh

/-- Concurrent runs are serializable in the order of their commits: exactly the runs that commit
something they had written, made one after the other, give the same answers and leave the same
contents of the store. No other conclusion of a run leaves a trace. -/
theorem serializable {s : Store} (hfiled : FiledById s.registry.consumers) (events : List Event)
    (hfresh : Fresh s.registry.consumers ((ofStore s).run events).writers) :
    let w := (ofStore s).run events
    let serial := Run.serially s (w.writers.map (·.run))
    serial.1 = w.writers.map (·.answer) ∧ serial.2.registry = w.store.registry ∧
      ∀ e, (w.step e).writers = w.writers → (w.step e).store.registry = w.store.registry := by
  intro w serial
  have h := (serial_ofStore hfiled).run hfresh
  exact ⟨h.answers, h.registry, fun _ => h.registry_step⟩

/-- Two runs for one owner, of which the later conclusion loses, and one for another owner. -/
theorem serializable_overlap :
    let now : Timestamp := ⟨⟨2024, 1, 1⟩, ⟨0, 0, 0, 0⟩, by decide, by decide⟩
    let reconcile (owner host text : String) : Run :=
      ⟨.reconcile ⟨owner, true, none, .admin "root", ⟨[.withId host]⟩⟩, .byGrants, now,
        ⟨⟨fun _ => text, 0⟩, ⟨fun _ => text, 0⟩⟩⟩
    let s : Store :=
      ⟨(Registry.empty.addOwner (.named "a")).addOwner (.named "b"), .none, .none,
        ⟨⟨fun _ => "", 0⟩, ⟨fun _ => "", 0⟩⟩, .given⟩
    let events : List Event :=
      [.start "x" (reconcile "a" "h" "1"), .start "y" (reconcile "a" "i" "2"),
        .start "z" (reconcile "b" "h" "3"), .finish "x", .finish "z", .finish "y"]
    let w := (ofStore s).run events
    Fresh s.registry.consumers w.writers ∧ w.writers.map (·.answer.isOk) = [true, true] ∧
      (Run.serially s (w.writers.map (·.run))).1 = w.writers.map (·.answer) ∧
      (Run.serially s (w.writers.map (·.run))).2.registry = w.store.registry := by
  intro now reconcile s events w
  have htexts : w.writers.map (fun f =>
      (f.run.supplies.ids.handedOut f.left.ids, f.run.supplies.uuids.handedOut f.left.uuids)) =
      [(["1"], ["1"]), (["3"], ["3"])] := by decide +kernel
  have hapart : w.writers.Pairwise fun f g =>
      (∀ i ∈ f.run.supplies.ids.handedOut f.left.ids,
        i ∉ g.run.supplies.ids.handedOut g.left.ids) ∧
      ∀ u ∈ f.run.supplies.uuids.handedOut f.left.uuids,
        u ∉ g.run.supplies.uuids.handedOut g.left.uuids := by
    have h : [(["1"], ["1"]), (["3"], ["3"])].Pairwise fun a b : List String × List String =>
        (∀ i ∈ a.1, i ∉ b.1) ∧ ∀ u ∈ a.2, u ∉ b.2 := by decide
    rw [← htexts, List.pairwise_map] at h
    exact h
  have hempty : s.registry.consumers = .empty := rfl
  have hfiled : FiledById s.registry.consumers := fun i c hi => by simp [hempty] at hi
  have hfresh : Fresh s.registry.consumers w.writers := by
    rw [hempty]
    refine ⟨fun f _ i _ => Dict.contains_empty i, fun f _ i c hi => ?_,
      hapart.imp fun h i hi hi' => ?_, hapart.imp fun h u hu hu' => ?_⟩
    · simp at hi
    · exact h.1 i (Supply.mem_handedOut.mpr hi) (Supply.mem_handedOut.mpr hi')
    · exact h.2 u (Supply.mem_handedOut.mpr hu) (Supply.mem_handedOut.mpr hu')
  refine ⟨hfresh, by decide +kernel, ?_⟩
  clear_value s events
  have h := serializable hfiled events hfresh
  exact ⟨h.1, h.2.1⟩

end Traffic

end HostRoster
