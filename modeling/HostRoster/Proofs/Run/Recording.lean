import HostRoster.Proofs.Reflection
import HostRoster.Proofs.Run.Attempt

/-!
# What a run reports

The entries of a report have keys that differ in more than spelling, so every entry keeps the state
that is recorded for it, and the lists of the outcome are the states of the entries in the order of
the report.
-/

namespace HostRoster

namespace Tally

/-- States are kept with keys in lower case. -/
def keyed (states : List (String × HostState)) : KeyedList HostState :=
  states.map fun e => (Text.lower e.1, e.2)

/-- A state is recorded under the host key in lower case, unless there is one. -/
theorem states_record (t : Tally) (hostKey : String) (s : HostState) :
    (t.record hostKey s).states =
      if Text.lower hostKey ∈ t.states.names then t.states
      else t.states ++ [(Text.lower hostKey, s)] := by
  rw [record, state?]
  cases hold : t.states.find? (Text.lower hostKey) with
  | none => rw [if_neg (KeyedList.find?_eq_none_iff.mp hold)]
  | some old => rw [if_pos (KeyedList.mem_names_of_find? hold)]

/-- States of hosts with different keys are all recorded, in order. -/
theorem recordAll_eq (t : Tally) {states : List (String × HostState)}
    (hstates : Unlike (states.map Prod.fst))
    (hnew : ∀ e ∈ states, Text.lower e.1 ∉ t.states.names) :
    t.recordAll states = { t with states := t.states ++ keyed states } := by
  induction states generalizing t with
  | nil => simp [recordAll, keyed]
  | cons e rest ih =>
    rw [List.map_cons] at hstates
    obtain ⟨hapart, hrest⟩ := List.pairwise_cons.mp hstates
    have hfirst : t.record e.1 e.2 = { t with states := t.states ++ [(Text.lower e.1, e.2)] } := by
      have hfind : t.state? e.1 = none :=
        KeyedList.find?_eq_none_iff.mpr (hnew e List.mem_cons_self)
      rw [record, hfind]
    have hlater : ∀ e' ∈ rest,
        Text.lower e'.1 ∉ KeyedList.names (t.states ++ [(Text.lower e.1, e.2)]) := by
      intro e' he' hmem
      rw [KeyedList.names_append, List.mem_append] at hmem
      rcases hmem with hold | hsame
      · exact hnew e' (List.mem_cons_of_mem _ he') hold
      · have hne := hapart e'.1 (List.mem_map_of_mem he')
        exact hne (List.mem_singleton.mp hsame).symm
    have hsplit : t.recordAll (e :: rest) = (t.record e.1 e.2).recordAll rest := rfl
    rw [hsplit, hfirst, ih _ hrest hlater]
    simp [keyed]

/-- The list of registered hosts is left out only where there is nothing to list. -/
theorem created_getD_outcome {t : Tally}
    (h : t.createMissing = false → t.states.contents.filterMap HostState.created? = []) :
    t.outcome.created.getD [] = t.states.contents.filterMap HostState.created? := by
  simp only [outcome]
  cases hwanted : t.createMissing with
  | true => rfl
  | false =>
    rw [h hwanted]
    split <;> rfl

section migrations

variable (t : Tally) (l : List (String × Migration))

/-- Guests that moved are recorded in their order. -/
theorem foldl_recordMigration :
    l.foldl (fun t m => t.recordMigration m.2) t =
      { t with migrated := t.migrated ++ l.map Prod.snd } := by
  induction l generalizing t with
  | nil => simp
  | cons m rest ih =>
    rw [List.foldl_cons, ih]
    simp [recordMigration]

@[simp] theorem recordMigrations_states : (t.recordMigrations l).states = t.states := by
  rw [recordMigrations, foldl_recordMigration]

@[simp] theorem recordMigrations_createMissing :
    (t.recordMigrations l).createMissing = t.createMissing := by
  rw [recordMigrations, foldl_recordMigration]

/-- Only guests on hosts that were written have moved. -/
@[simp] theorem recordMigrations_migrated :
    (t.recordMigrations l).migrated =
      t.migrated ++ (l.filter fun m => t.succeeded m.1).map Prod.snd := by
  rw [recordMigrations, foldl_recordMigration]

end migrations

end Tally

namespace Planner

/-- How an entry comes to the state that is recorded for it. -/
structure Recorded (p : Planner) (σ : Session) (es : List HostEntry) (e : HostEntry)
    (state : String × HostState) (m : Mutation) : Prop where
  /-- There is a plan for the entry. -/
  plan : m ∈ (p.plans σ es).1
  /-- It follows a decision about the entry. -/
  planned : ∃ d, d.Justified (σ.work.knownHosts p.owner.key es) e ∧
    p.Planned e σ.supplies.uuids (p.plans σ es).2 d m
  /-- It has yielded the state. -/
  yields : m.Yields (p.carried σ es).registered state

variable {p : Planner} {σ : Session} {es : List HostEntry}

/-- Every plan yields a state. -/
theorem forall₂_yields (p : Planner) (hσ : σ.outages = .none) (es : List HostEntry) :
    List.Forall₂ (Mutation.Yields (p.carried σ es).registered) (p.plans σ es).1
      (p.carried σ es).states :=
  (p.planned σ es).forall₂_carry hσ fun _ hm => ne_skip_of_mem hm

/-- Every entry comes to a state. -/
theorem forall₂_recorded (p : Planner) (hσ : σ.outages = .none) (es : List HostEntry) :
    List.Forall₂ (fun e state => ∃ m, p.Recorded σ es e state m) es (p.carried σ es).states := by
  have hplans := p.forall₂_planEntries (σ.work.knownHosts p.owner.key es) σ.supplies.uuids es
  refine (Lists.forall₂_trans hplans (p.forall₂_yields hσ es)).imp fun e state h => ?_
  obtain ⟨m, hm, hplanned, hyield⟩ := h
  exact ⟨m, hm, hplanned, hyield⟩

/-- What is planned for an entry, and the state that the plan comes to. -/
inductive Fate (p : Planner) (σ : Session) (es : List HostEntry) (e : HostEntry) :
    String × HostState → Mutation → Prop where
  /-- The known host that is meant is changed. -/
  | updated (c : Consumer) (hmeant : e.meant? (σ.work.knownHosts p.owner.key es) = some c) :
    Fate p σ es e (e.hostKey, .updated (p.changedHost e c).summary)
      (.update e.hostKey (p.changedHost e c) (p.hostChanges e c))
  /-- No known host is meant, and a new one is registered under an id. -/
  | created (uuid i : String) (hwanted : p.createMissing = true)
    (hmeant : e.meant? (σ.work.knownHosts p.owner.key es) = none)
    (hc : { p.newHost e uuid with id := some i } ∈ (p.carried σ es).registered) :
    Fate p σ es e (e.hostKey, .created (p.newHost e uuid).summary)
      (.create e.hostKey (p.newHost e uuid))
  /-- A new host is rejected when it is to be registered. -/
  | rejected (uuid cause : String) :
    Fate p σ es e (e.hostKey, (Refusal.notCreated e.name cause).state e.hostKey)
      (.create e.hostKey (p.newHost e uuid))
  /-- The entry is refused before anything is written. -/
  | refused (r : Refusal) (hr : r.Concerns e) :
    Fate p σ es e (e.hostKey, r.state e.hostKey) (r.mutation e.hostKey)

section recorded

variable {e : HostEntry} {state : String × HostState} {m : Mutation}

/-- What is recorded for an entry is its fate. -/
theorem Recorded.fate (h : p.Recorded σ es e state m) : p.Fate σ es e state m := by
  obtain ⟨d, hd, hplan⟩ := h.planned
  have hyields := h.yields
  cases hplan with
  | update c =>
    cases hyields
    exact .updated c hd.1
  | create uuid hwanted _ _ =>
    cases hyields with
    | created i hc => exact .created uuid i hwanted hd hc
    | refused cause => exact .rejected uuid cause
  | refused _ r _ hr =>
    cases hyields
    exact .refused r hr

end recorded

/-- The states have the host keys of the entries. -/
theorem keys_carried (p : Planner) (σ : Session) (es : List HostEntry) :
    (p.carried σ es).states.map Prod.fst = es.map HostEntry.hostKey :=
  ((p.planned σ es).keys_carry fun _ hm => ne_skip_of_mem hm).trans
    (p.map_hostKey_planEntries _ _ es)

/-- So they have keys that differ in more than spelling. -/
theorem unlike_carried (hes : CleanEntries es) : Unlike ((p.carried σ es).states.map Prod.fst) := by
  rw [keys_carried]
  exact hes.unlike_hostKeys

/-- The states that are recorded are those of the entries, each under a key of its own. -/
theorem recordAll_carried (hes : CleanEntries es) (createMissing : Bool) :
    (Tally.start createMissing).recordAll (p.carried σ es).states =
      ⟨createMissing, Tally.keyed (p.carried σ es).states, []⟩ := by
  rw [Tally.recordAll_eq _ (unlike_carried hes)
    fun e _ => by simp [Tally.start, KeyedList.names]]
  rfl

/-- So a host has been written if its state says so. -/
theorem succeeded_recordAll_carried (hes : CleanEntries es) (createMissing : Bool)
    {state : String × HostState} (hstate : state ∈ (p.carried σ es).states) :
    ((Tally.start createMissing).recordAll (p.carried σ es).states).succeeded state.1 =
      state.2.isSuccess := by
  have hnodup : (KeyedList.names (Tally.keyed (p.carried σ es).states)).Nodup := by
    have hunlike := unlike_carried (p := p) (σ := σ) hes
    rw [Unlike, List.pairwise_map] at hunlike
    rwa [KeyedList.names, Tally.keyed, List.map_map, List.Nodup, List.pairwise_map]
  have hfound : KeyedList.find? (Text.lower state.1) (Tally.keyed (p.carried σ es).states) =
      some state.2 :=
    (KeyedList.find?_eq_some_iff hnodup).mpr (List.mem_map.mpr ⟨state, hstate, rfl⟩)
  rw [recordAll_carried hes, Tally.succeeded, Tally.state?, hfound, Option.any_some]

end Planner

namespace HostState

/-- The summary of a host that was written. -/
def summary? : HostState → Option Summary
  | .created s => some s
  | .updated s => some s
  | .failed _ _ => none

/-- The hosts that were written are those that were registered and those that were changed. -/
theorem perm_summaries (states : List HostState) :
    (states.filterMap created? ++ states.filterMap updated?).Perm (states.filterMap summary?) := by
  induction states with
  | nil => exact .refl _
  | cons state rest ih =>
    cases state with
    | created s => exact ih.cons s
    | updated s => exact List.perm_middle.trans (ih.cons s)
    | failed kind message => exact ih

end HostState

namespace Planner

variable {p : Planner} {σ : Session} {es : List HostEntry}

/-- The states of the entries, in the order of the report. -/
def outcomes (p : Planner) (σ : Session) (es : List HostEntry) : List HostState :=
  (p.carried σ es).states.map Prod.snd

/-- The hosts that are recorded as registered are the consumers that were. -/
theorem filterMap_created?_carry (σ : Session) (ms : List Mutation) :
    (σ.carry ms).states.filterMap (fun e => e.2.created?) =
      (σ.carry ms).registered.map Consumer.summary := by
  induction ms generalizing σ with
  | nil => rfl
  | cons m rest ih =>
    cases m with
    | create hostKey c =>
      rcases hrun : (Act.create c).run.run σ with ⟨e | created, τ⟩
      · rw [Session.carry_create_of_error hrun]
        exact ih τ
      · rw [Session.carry_create_of_ok hrun]
        exact congrArg (created.summary :: ·) (ih τ)
    | update hostKey c changes => exact ih σ
    | skip hostKey => exact ih σ
    | failed hostKey message kind => exact ih σ

/-- The hosts listed as created are those that were registered. -/
theorem filterMap_created?_eq (p : Planner) (σ : Session) (es : List HostEntry) :
    (p.outcomes σ es).filterMap HostState.created? =
      (p.carried σ es).registered.map Consumer.summary := by
  rw [outcomes, List.filterMap_map]
  exact filterMap_created?_carry _ _

/-- A consumer that is changed is recorded as such. -/
theorem updated_of_changed (hσ : σ.outages = .none) {c : Consumer} {guests : Bool}
    (hc : c ∈ changedConsumers guests (p.plans σ es).1) : .updated c.summary ∈ p.outcomes σ es := by
  obtain ⟨m, hm, hchanges⟩ := mem_changedConsumers.mp hc
  obtain ⟨state, hstate, hyields⟩ := Lists.exists_right (p.forall₂_yields hσ es) hm
  refine List.mem_map.mpr ⟨state, hstate, ?_⟩
  cases hyields <;> cases hchanges
  rfl

/-- Nothing is registered unless that is wanted. -/
theorem filterMap_created?_outcomes (hσ : σ.outages = .none) (h : p.createMissing = false) :
    (p.outcomes σ es).filterMap HostState.created? = [] := by
  rw [List.filterMap_eq_nil_iff]
  intro state hstate
  obtain ⟨entry, hentry, rfl⟩ := List.mem_map.mp hstate
  obtain ⟨e, _, m, hm⟩ := Lists.exists_left (p.forall₂_recorded hσ es) hentry
  cases hm.fate with
  | created uuid i hwanted _ _ =>
    rw [h] at hwanted
    cases hwanted
  | updated c _ => rfl
  | rejected uuid cause => rfl
  | refused r _ => rfl

/-- The lists of the outcome are read off the states of the entries. -/
theorem outcome_tally (hσ : σ.outages = .none) (hes : CleanEntries es) :
    (p.tally σ es).outcome.created.getD [] = (p.outcomes σ es).filterMap HostState.created? ∧
      (p.tally σ es).outcome.updated = (p.outcomes σ es).filterMap HostState.updated? ∧
      (p.tally σ es).outcome.failedCreate =
        (p.outcomes σ es).filterMap (HostState.failed? .create) ∧
      (p.tally σ es).outcome.failedUpdate =
        (p.outcomes σ es).filterMap (HostState.failed? .update) := by
  have hrecorded := recordAll_carried (p := p) (σ := σ) hes p.createMissing
  have hmissing : (p.tally σ es).createMissing = p.createMissing := by
    rw [tally, Tally.recordMigrations_createMissing, hrecorded]
  have hcontents : (p.tally σ es).states.contents = p.outcomes σ es := by
    rw [tally, Tally.recordMigrations_states, hrecorded]
    simp [KeyedList.contents, Tally.keyed, outcomes]
  rw [← hcontents]
  refine ⟨Tally.created_getD_outcome fun hunwanted => ?_, rfl, rfl, rfl⟩
  rw [hcontents]
  exact filterMap_created?_outcomes hσ (hmissing.symm.trans hunwanted)

end Planner

end HostRoster
