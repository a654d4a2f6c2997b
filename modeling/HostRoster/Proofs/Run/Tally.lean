import HostRoster.Proofs.Run.Account
import Mathlib.Data.Finset.Card

/-!
# The first state of every host

States may be recorded for one host again and again, with its key in different spellings. The first
one stays: it is what is found for the host, and it is listed in the outcome, in the order in which
hosts first came to a state.

A tally keeps keys and states together. A ledger that keeps the keys in order beside a dictionary,
from which the states are taken when the outcome is made, shows the same.
-/

namespace HostRoster

/-- The key under which the state of a host is kept. -/
abbrev stateKey (e : String × HostState) : String := Text.lower e.1

/-- The first state of each host, in the order in which hosts are first mentioned. -/
def firstStates (calls : List (String × HostState)) : List HostState :=
  (Lists.firstOfEach stateKey calls).map Prod.snd

namespace Tally

section record

variable (t : Tally) (hostKey : String) (s : HostState)

@[simp] theorem createMissing_record : (t.record hostKey s).createMissing = t.createMissing := by
  rw [record]
  split <;> rfl

@[simp] theorem migrated_record : (t.record hostKey s).migrated = t.migrated := by
  rw [record]
  split <;> rfl

/-- A state that is recorded under a key is found under it unless another one is there. -/
theorem find?_record (k : String) :
    (t.record hostKey s).states.find? k =
      (t.states.find? k).or (if Text.lower hostKey = k then some s else none) := by
  rw [record, state?]
  cases hold : t.states.find? (Text.lower hostKey) with
  | none => exact KeyedList.find?_append _ _
  | some old =>
    by_cases hk : Text.lower hostKey = k
    · rw [← hk, hold, Option.some_or]
    · rw [if_neg hk, Option.or_none]

/-- A key that is there keeps its place, and a new one goes to the end. -/
theorem names_record :
    (t.record hostKey s).states.names =
      if Text.lower hostKey ∈ t.states.names then t.states.names
      else t.states.names ++ [Text.lower hostKey] := by
  rw [states_record]
  split
  · rfl
  · exact KeyedList.names_append _ _

/-- No host is listed twice. -/
theorem nodup_names_record (h : t.states.names.Nodup) :
    (t.record hostKey s).states.names.Nodup := by
  rw [names_record]
  split
  · exact h
  · next hnew =>
    rw [← List.concat_eq_append]
    exact h.concat hnew

end record

/-- The last state is recorded after all others. -/
theorem recordAll_concat (t : Tally) (calls : List (String × HostState)) (c : String × HostState) :
    t.recordAll (calls ++ [c]) = (t.recordAll calls).record c.1 c.2 := by
  rw [recordAll, List.foldl_append]
  rfl

section recordAll

variable (createMissing : Bool) (calls : List (String × HostState))

@[simp] theorem createMissing_recordAll (t : Tally) :
    (t.recordAll calls).createMissing = t.createMissing := by
  induction calls using List.reverseRecOn with
  | nil => rfl
  | append_singleton calls c ih => rw [recordAll_concat, createMissing_record, ih]

/-- The first state under a key is found. -/
theorem find?_recordAll (k : String) :
    ((start createMissing).recordAll calls).states.find? k =
      (calls.find? fun c => stateKey c == k).map Prod.snd := by
  induction calls using List.reverseRecOn with
  | nil => rfl
  | append_singleton calls c ih =>
    rw [recordAll_concat, find?_record, ih, List.find?_append, Option.map_or, List.find?_singleton]
    by_cases hk : Text.lower c.1 = k <;> simp [hk]

/-- The keys are those of the calls, each where it is mentioned first. -/
theorem names_recordAll :
    ((start createMissing).recordAll calls).states.names = (calls.map stateKey).eraseDups := by
  induction calls using List.reverseRecOn with
  | nil => rfl
  | append_singleton calls c ih =>
    rw [recordAll_concat, names_record, ih, List.map_append, List.eraseDups_append]
    by_cases hk : stateKey c ∈ calls.map stateKey
    · rw [if_pos (List.mem_eraseDups.mpr hk)]
      simp [List.cons_removeAll, hk]
    · rw [if_neg (mt List.mem_eraseDups.mp hk)]
      simp [List.cons_removeAll, List.eraseDups_cons, hk]

/-- However often states are recorded, no host is listed twice. -/
theorem nodup_names_recordAll : ((start createMissing).recordAll calls).states.names.Nodup := by
  induction calls using List.reverseRecOn with
  | nil => exact .nil
  | append_singleton calls c ih =>
    rw [recordAll_concat]
    exact nodup_names_record _ _ _ ih

/-- The states are the first ones of the hosts. -/
theorem contents_recordAll :
    ((start createMissing).recordAll calls).states.contents = firstStates calls := by
  rw [KeyedList.contents_eq_filterMap (nodup_names_recordAll _ _), names_recordAll, firstStates,
    Lists.firstOfEach, List.map_filterMap]
  exact List.filterMap_congr fun k _ => find?_recordAll createMissing calls k

/-- As many states are kept as there are keys. -/
theorem size_recordAll :
    ((start createMissing).recordAll calls).size = (calls.map stateKey).toFinset.card := by
  have hkeys : (calls.map stateKey).toFinset = (calls.map stateKey).eraseDups.toFinset := by
    ext k
    simp only [List.mem_toFinset, List.mem_eraseDups]
  rw [hkeys, ← names_recordAll createMissing,
    List.toFinset_card_of_nodup (nodup_names_recordAll _ _), size, KeyedList.names,
    List.length_map]

/-- A host has no state yet exactly if no call was about it. -/
theorem isNone_state?_recordAll (hostKey : String) :
    (((start createMissing).recordAll calls).state? hostKey).isNone = true ↔
      ∀ c ∈ calls, Text.lower c.1 ≠ Text.lower hostKey := by
  rw [state?, find?_recordAll, Option.isNone_map, Option.isNone_iff_eq_none, List.find?_eq_none]
  simp only [beq_iff_eq, ne_eq]

end recordAll

end Tally

/-- What has been recorded of a run, with the keys beside the states. -/
structure Ledger where
  /-- Whether hosts that are not registered are to be registered. -/
  createMissing : Bool
  /-- The keys of the hosts in lower case, in the order of recording. -/
  order : List String
  /-- The states by these keys. -/
  states : Dict HostState
  /-- The guests that moved. -/
  migrated : List Migration

/-- The lists of an outcome with one more state, which goes to the end of its own list. -/
def Outcome.push (o : Outcome) : HostState → Outcome
  | .created s => { o with created := o.created.map (· ++ [s]) }
  | .updated s => { o with updated := o.updated ++ [s] }
  | .failed .create message => { o with failedCreate := o.failedCreate ++ [message] }
  | .failed .update message => { o with failedUpdate := o.failedUpdate ++ [message] }

/-- The outcome that lists all of some states. -/
def Outcome.ofStates (states : List HostState) (migrated : List Migration) : Outcome :=
  ⟨some (states.filterMap HostState.created?), states.filterMap HostState.updated?,
    states.filterMap (HostState.failed? .create), states.filterMap (HostState.failed? .update),
    migrated⟩

/-- One more state goes to the end of its list. -/
theorem Outcome.push_ofStates (states : List HostState) (migrated : List Migration)
    (s : HostState) : (ofStates states migrated).push s = ofStates (states ++ [s]) migrated := by
  simp only [ofStates, List.filterMap_append]
  cases s with
  | created summary => simp [push, HostState.created?, HostState.updated?, HostState.failed?]
  | updated summary => simp [push, HostState.created?, HostState.updated?, HostState.failed?]
  | failed kind message =>
    cases kind <;> simp [push, HostState.created?, HostState.updated?, HostState.failed?]

namespace Ledger

/-- Nothing recorded. -/
def start (createMissing : Bool) : Ledger := ⟨createMissing, [], .empty, []⟩

/-- Records a state for a host that has none, and tells whether it had none. -/
def record (l : Ledger) (hostKey : String) (s : HostState) : Bool × Ledger :=
  let key := Text.lower hostKey
  if l.states.contains key then (false, l)
  else (true, { l with order := l.order ++ [key], states := l.states.insert key s })

/-- Records states one after the other. -/
def recordAll (l : Ledger) (calls : List (String × HostState)) : Ledger :=
  calls.foldl (fun l c => (l.record c.1 c.2).2) l

/-- The state recorded for a host. -/
def state? (l : Ledger) (hostKey : String) : Option HostState :=
  l.states.get? (Text.lower hostKey)

/-- The number of hosts with a state. -/
def size (l : Ledger) : Nat := l.order.length

/-- Takes the states under keys out of a dictionary, one after the other, and puts them into the
lists of an outcome. A key that is missing from the dictionary is passed over. -/
def drain (o : Outcome) (states : Dict HostState) : List String → Outcome
  | [] => o
  | k :: rest => drain ((states.get? k).elim o o.push) (states.erase k) rest

/-- The result. -/
def finish (l : Ledger) : Outcome :=
  let o := drain ⟨some [], [], [], [], l.migrated⟩ l.states l.order
  if l.createMissing || !o.updated.isEmpty then o else { o with created := none }

/-- A ledger holds what a tally holds. -/
structure InStep (l : Ledger) (t : Tally) : Prop where
  /-- Both want the same hosts registered. -/
  createMissing : l.createMissing = t.createMissing
  /-- The keys are in the same order. -/
  order : l.order = t.states.names
  /-- No key repeats. -/
  nodup : t.states.names.Nodup
  /-- Under each key is the same state. -/
  states : ∀ k, l.states.get? k = t.states.find? k
  /-- The same guests moved. -/
  migrated : l.migrated = t.migrated

/-- A ledger shows what a tally shows. -/
structure Shows (l : Ledger) (t : Tally) : Prop where
  /-- It tells the same of a state that is recorded. -/
  told : ∀ hostKey s, (l.record hostKey s).1 = (t.tell hostKey s).1
  /-- It has the same states. -/
  states : ∀ hostKey, l.state? hostKey = t.state? hostKey
  /-- It has as many. -/
  size : l.size = t.size
  /-- It comes to the same result. -/
  outcome : l.finish = t.outcome

/-- No state is passed over: all keys are different, so each still has its state when it comes. -/
theorem drain_names (kept : KeyedList HostState) (listed : List HostState)
    (migrated : List Migration) {d : Dict HostState} (hnodup : kept.names.Nodup)
    (hd : ∀ k ∈ kept.names, d.get? k = kept.find? k) :
    drain (.ofStates listed migrated) d kept.names =
      .ofStates (listed ++ kept.contents) migrated := by
  induction kept generalizing listed d with
  | nil => exact congrArg (Outcome.ofStates · migrated) (List.append_nil listed).symm
  | cons e rest ih =>
    obtain ⟨hnew, hrest⟩ := List.nodup_cons.mp hnodup
    have hfirst : d.get? e.1 = some e.2 := by
      rw [hd e.1 List.mem_cons_self, KeyedList.find?, if_pos rfl]
    have hothers : ∀ k ∈ KeyedList.names rest, (d.erase e.1).get? k = KeyedList.find? k rest := by
      intro k hk
      have hne : e.1 ≠ k := fun hek => hnew (hek ▸ hk)
      rw [Dict.get?_erase, if_neg hne, hd k (List.mem_cons_of_mem _ hk), KeyedList.find?,
        if_neg hne]
    have hstep : drain (.ofStates listed migrated) d (KeyedList.names (e :: rest)) =
        drain (.ofStates (listed ++ [e.2]) migrated) (d.erase e.1) (KeyedList.names rest) := by
      rw [← Outcome.push_ofStates, KeyedList.names, List.map_cons, drain, hfirst,
        Option.elim_some, KeyedList.names]
    rw [hstep, ih _ hrest hothers, List.append_assoc]
    rfl

namespace InStep

variable {l : Ledger} {t : Tally}

/-- At the start a ledger and a tally are in step. -/
theorem start (createMissing : Bool) : (Ledger.start createMissing).InStep (.start createMissing) :=
  ⟨rfl, rfl, .nil, fun _ => rfl, rfl⟩

/-- Both tell the same of a host. -/
theorem told (h : l.InStep t) (hostKey : String) (s : HostState) :
    (l.record hostKey s).1 = (t.tell hostKey s).1 := by
  rw [record, Tally.tell, Tally.state?, Dict.contains, h.states]
  cases t.states.find? (Text.lower hostKey) <;> rfl

/-- Recording a state in both leaves them in step. -/
theorem record (h : l.InStep t) (hostKey : String) (s : HostState) :
    (l.record hostKey s).2.InStep (t.record hostKey s) := by
  have hcontains : l.states.contains (Text.lower hostKey) = (t.state? hostKey).isSome := by
    rw [Dict.contains, h.states, Tally.state?]
  cases hold : t.state? hostKey with
  | some old =>
    rw [hold, Option.isSome_some] at hcontains
    simp only [Ledger.record, Tally.record, hcontains, hold, if_true]
    exact h
  | none =>
    rw [hold, Option.isSome_none] at hcontains
    have hnew : Text.lower hostKey ∉ t.states.names := KeyedList.find?_eq_none_iff.mp hold
    refine ⟨?_, ?_, t.nodup_names_record hostKey s h.nodup, fun k => ?_, ?_⟩
    · simp [Ledger.record, hcontains, h.createMissing]
    · simp [Ledger.record, hcontains, h.order, Tally.names_record, hnew]
    · rw [Tally.find?_record, ← h.states]
      simp only [Ledger.record, hcontains, Bool.false_eq_true, if_false, Dict.get?_insert]
      by_cases hk : Text.lower hostKey = k
      · rw [if_pos hk, if_pos hk, h.states, ← hk, KeyedList.find?_eq_none_iff.mpr hnew,
          Option.none_or]
      · rw [if_neg hk, if_neg hk, Option.or_none]
    · simp [Ledger.record, hcontains, h.migrated]

/-- They stay in step, whatever is recorded. -/
theorem recordAll (h : l.InStep t) (calls : List (String × HostState)) :
    (l.recordAll calls).InStep (t.recordAll calls) := by
  induction calls generalizing l t with
  | nil => exact h
  | cons c rest ih => exact ih (h.record c.1 c.2)

/-- They come to the same outcome. -/
theorem finish (h : l.InStep t) : l.finish = t.outcome := by
  have hdrain : drain ⟨some [], [], [], [], l.migrated⟩ l.states l.order =
      .ofStates t.states.contents t.migrated := by
    rw [h.order, h.migrated]
    exact drain_names t.states [] t.migrated h.nodup fun k _ => h.states k
  simp only [Ledger.finish, hdrain, h.createMissing, Tally.outcome]
  split
  · next hlisted => exact congrArg (Outcome.mk · _ _ _ _) (if_pos hlisted).symm
  · next hunlisted => exact congrArg (Outcome.mk · _ _ _ _) (if_neg hunlisted).symm

/-- A ledger in step shows what the tally does. -/
theorem shows (h : l.InStep t) : l.Shows t where
  told := h.told
  states hostKey := h.states _
  size := by rw [Ledger.size, h.order, KeyedList.names, List.length_map, Tally.size]
  outcome := h.finish

end InStep

end Ledger

/-- The tally of calls. -/
abbrev Tally.ofCalls (createMissing : Bool) (calls : List (String × HostState)) : Tally :=
  (start createMissing).recordAll calls

/-- The ledger of calls. -/
abbrev Ledger.ofCalls (createMissing : Bool) (calls : List (String × HostState)) : Ledger :=
  (start createMissing).recordAll calls

/-- What is kept of calls that record a state for a host each. -/
structure KeepsFirsts (createMissing : Bool) (calls : List (String × HostState)) : Prop where
  /-- A call is told that it is the first one exactly if no earlier one was about its host. -/
  told : ∀ before c after, calls = before ++ c :: after →
    (((Tally.ofCalls createMissing before).tell c.1 c.2).1 = true ↔
      ∀ d ∈ before, Text.lower d.1 ≠ Text.lower c.1)
  /-- There are as many states as keys in lower case. -/
  size : (Tally.ofCalls createMissing calls).size = (calls.map stateKey).toFinset.card
  /-- A host has the state of the first call about it. -/
  states : ∀ hostKey, (Tally.ofCalls createMissing calls).state? hostKey =
    (calls.find? fun c => Text.lower c.1 == Text.lower hostKey).map Prod.snd
  /-- The first states are listed, each in its own list and in the order of the hosts. -/
  lists : (Tally.ofCalls createMissing calls).outcome.Lists (firstStates calls)
  /-- The list of registered hosts is left out if none were wanted and none were changed. -/
  absent : (Tally.ofCalls createMissing calls).outcome.created = none ↔
    createMissing = false ∧ (Tally.ofCalls createMissing calls).outcome.updated = []
  /-- Every host is listed. -/
  total : (Tally.ofCalls createMissing calls).outcome.total =
    (Tally.ofCalls createMissing calls).size
  /-- A ledger shows the same after every call. -/
  ledger : ∀ before after, calls = before ++ after →
    (Ledger.ofCalls createMissing before).Shows (Tally.ofCalls createMissing before)

/-- Of the states that are recorded for a host the first one stays, and none is lost, provided that
no host is registered where none is wanted. -/
theorem Tally.keeps_firsts (createMissing : Bool) (calls : List (String × HostState))
    (hcalls : createMissing = false → ∀ c ∈ calls, c.2.created? = none) :
    KeepsFirsts createMissing calls := by
  have hcontents := contents_recordAll createMissing calls
  have hlists : (ofCalls createMissing calls).outcome.Lists (firstStates calls) := by
    rw [← hcontents]
    refine ⟨created_getD_outcome fun hunwanted => ?_, rfl, rfl, rfl⟩
    rw [createMissing_recordAll] at hunwanted
    rw [hcontents, List.filterMap_eq_nil_iff]
    intro s hs
    obtain ⟨c, hc, rfl⟩ := List.mem_map.mp hs
    exact hcalls hunwanted c (Lists.mem_of_mem_firstOfEach hc)
  refine
    { told := fun before c _ _ => isNone_state?_recordAll createMissing before c.1
      size := size_recordAll createMissing calls
      states := fun _ => find?_recordAll createMissing calls _
      lists := hlists
      absent := ?_
      total := ?_
      ledger := fun before _ _ => ((Ledger.InStep.start createMissing).recordAll before).shows }
  · have hmissing : (ofCalls createMissing calls).createMissing = createMissing :=
      createMissing_recordAll calls (start createMissing)
    simp only [outcome, hmissing]
    cases createMissing <;> simp
  · rw [hlists.total, ← hcontents, KeyedList.contents, List.length_map, size]

/-- The second call about a host is not kept, in whatever letters it has the key, and its message is
in none of the lists. -/
theorem Tally.keeps_firsts_respelled :
    let summary : Summary := ⟨"u", "host", "o"⟩
    let calls : List (String × HostState) :=
      [("Host_1", .updated summary), ("HOST_1", .failed .update "late"),
        ("b", .failed .create "denied"), ("host_1", .updated summary)]
    (false = false → ∀ c ∈ calls, c.2.created? = none) ∧ KeepsFirsts false calls ∧
      (ofCalls false calls).outcome = ⟨some [], [summary], ["denied"], [], []⟩ :=
  ⟨by decide, keeps_firsts false _ (by decide), by decide +kernel⟩

end HostRoster
