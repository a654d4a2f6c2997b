import HostRoster.Persist
import HostRoster.Proofs.Plan
import HostRoster.Proofs.Store.Calls

/-!
# What carrying out plans leaves behind

The plans of a run are carried out in one pass that registers the new consumers, after which the
changed ones are written in at most two batches. The pass is told by what it records, by the
consumers it has registered, and by the session it leaves; the batches can be read off the plans.
-/

namespace HostRoster

/-- The state of a host that is refused. -/
def Refusal.state (r : Refusal) (hostKey : String) : HostState :=
  .failed r.kind (r.message hostKey)

/-- The changed consumers of plans whose guests do or do not change. -/
def changedConsumers (guests : Bool) (ms : List Mutation) : List Consumer :=
  (ms.filterMap Mutation.changes?).filterMap fun p => if p.2 = guests then some p.1 else none

/-- A batch has the consumers that mutations change with or without their guests. -/
theorem mem_changedConsumers {guests : Bool} {ms : List Mutation} {c : Consumer} :
    c ∈ changedConsumers guests ms ↔ ∃ m ∈ ms, m.changes? = some (c, guests) := by
  simp only [changedConsumers, List.mem_filterMap]
  constructor
  · rintro ⟨⟨d, g⟩, ⟨m, hm, hc⟩, hd⟩
    split at hd
    · next hg =>
      cases hd
      exact ⟨m, hm, hg ▸ hc⟩
    · cases hd
  · rintro ⟨m, hm, hc⟩
    exact ⟨(c, guests), ⟨m, hm, hc⟩, if_pos rfl⟩

/-- The batches of plans. -/
def Batches.of (ms : List Mutation) : Batches :=
  ⟨changedConsumers false ms, changedConsumers true ms⟩

/-- What a pass over plans leaves behind. -/
structure Carried where
  /-- The states of the hosts, by their keys as they were reported. -/
  states : List (String × HostState)
  /-- The consumers that were registered. -/
  registered : List Consumer
  /-- The unit of work after them. -/
  session : Session

namespace Carried

/-- What is left behind if a host comes to a state first. -/
def record (d : Carried) (hostKey : String) (s : HostState) : Carried :=
  { d with states := (hostKey, s) :: d.states }

/-- What is left behind if a consumer is registered first. -/
def register (d : Carried) (hostKey : String) (c : Consumer) : Carried :=
  { d with
    states := (hostKey, .created c.summary) :: d.states
    registered := c :: d.registered }

end Carried

/-- The pass over plans that registers new consumers. -/
def Session.carry (σ : Session) : List Mutation → Carried
  | [] => ⟨[], [], σ⟩
  | .create hostKey c :: rest =>
    match (Act.create c).run.run σ with
    | (.ok created, σ) => (σ.carry rest).register hostKey created
    | (.error e, σ) =>
      (σ.carry rest).record hostKey ((Refusal.notCreated c.name e.message).state hostKey)
  | .update hostKey c _ :: rest => (σ.carry rest).record hostKey (.updated c.summary)
  | .skip _ :: rest => σ.carry rest
  | .failed hostKey message kind :: rest =>
    (σ.carry rest).record hostKey (.failed kind message)

section equations

variable {σ τ : Session} {hostKey : String} {c : Consumer} {rest : List Mutation}

/-- A host that cannot be registered is recorded as failed, and the pass goes on. -/
theorem Session.carry_create_of_error {e : StoreError}
    (h : (Act.create c).run.run σ = (.error e, τ)) :
    σ.carry (.create hostKey c :: rest) =
      (τ.carry rest).record hostKey ((Refusal.notCreated c.name e.message).state hostKey) := by
  rw [carry, h]

/-- A host that is registered is recorded, and the pass goes on with it written. -/
theorem Session.carry_create_of_ok {created : Consumer}
    (h : (Act.create c).run.run σ = (.ok created, τ)) :
    σ.carry (.create hostKey c :: rest) = (τ.carry rest).register hostKey created := by
  rw [carry, h]

end equations

/-- What a pass over plans leaves of a session in which no call is out of order. -/
structure Session.Carries (σ : Session) (ms : List Mutation) (d : Carried) : Prop where
  /-- Nothing is written but the consumers that are registered. -/
  work : d.session.work = σ.work.written d.registered
  /-- No uuid is drawn. -/
  uuids : d.session.supplies.uuids = σ.supplies.uuids
  /-- Ids are drawn from the supply. -/
  ids : σ.supplies.ids.Leads d.session.supplies.ids
  /-- Calls are still in order. -/
  outages : d.session.outages = .none
  /-- Each registered consumer was planned and has an id that was drawn for it. -/
  registered : ∀ c ∈ d.registered, ∃ m ∈ ms, ∃ planned, m.registers? = some planned ∧
    ∃ i, σ.supplies.ids.HandedOut d.session.supplies.ids i ∧ c = { planned with id := some i }
  /-- Single holders are left to each owner that has them. -/
  oneHolder : ∀ k, OneHolder σ.work.view k → OneHolder d.session.work.view k
  /-- No uuid is repeated if none was before. -/
  distinct : DistinctUuids σ.work.view → DistinctUuids d.session.work.view
  /-- No id is drawn for two of them. -/
  drawn : (d.registered.map Consumer.id).Sublist
    ((σ.supplies.ids.handedOut d.session.supplies.ids).map some)

namespace Session

variable {σ τ : Session} {ms : List Mutation} {d : Carried}

/-- Recording a state writes nothing. -/
theorem Carries.record (h : σ.Carries ms d) (hostKey : String) (s : HostState) :
    σ.Carries ms (d.record hostKey s) :=
  ⟨h.work, h.uuids, h.ids, h.outages, h.registered, h.oneHolder, h.distinct, h.drawn⟩

/-- A plan that writes nothing leaves the pass to the rest. -/
theorem Carries.cons (h : τ.Carries ms d) (m : Mutation) (hwork : τ.work = σ.work)
    (hsupplies : τ.supplies = σ.supplies) : σ.Carries (m :: ms) d where
  work := hwork ▸ h.work
  uuids := hsupplies ▸ h.uuids
  ids := hsupplies ▸ h.ids
  outages := h.outages
  registered c hc := by
    obtain ⟨m', hm', hrest⟩ := h.registered c hc
    exact ⟨m', List.mem_cons_of_mem _ hm', hsupplies ▸ hrest⟩
  oneHolder := hwork ▸ h.oneHolder
  distinct := hwork ▸ h.distinct
  drawn := hsupplies ▸ h.drawn

/-- A consumer that is registered under the next id comes before the rest. -/
theorem Carries.register {c planned : Consumer} {m : Mutation} (h : τ.Carries ms d)
    (hm : m.registers? = some planned) (hc : c = { planned with id := some σ.supplies.ids.next })
    (hnew : σ.work.checkNew planned = .ok ()) (haccepts : σ.work.Accepts [c])
    (hwork : τ.work = σ.work.written [c])
    (huuids : τ.supplies.uuids = σ.supplies.uuids) (hids : τ.supplies.ids = σ.supplies.ids.rest)
    (hostKey : String) : σ.Carries (m :: ms) (d.register hostKey c) where
  work := by
    have hafter := h.work
    rw [hwork, ← Transaction.written_append] at hafter
    exact hafter
  uuids := h.uuids.trans huuids
  ids := σ.supplies.ids.leads_rest.trans (hids ▸ h.ids)
  outages := h.outages
  registered := by
    intro c' hc'
    rcases List.mem_cons.mp hc' with rfl | hc'
    · exact ⟨m, List.mem_cons_self, planned, hm, _,
        σ.supplies.ids.handedOut_next.mono (.refl _) (hids ▸ h.ids), hc⟩
    · obtain ⟨m', hm', planned', hp', i, hi, hid⟩ := h.registered c' hc'
      rw [hids] at hi
      exact ⟨m', List.mem_cons_of_mem _ hm', planned', hp', i,
        hi.mono σ.supplies.ids.leads_rest (.refl _), hid⟩
  oneHolder k hone := by
    refine h.oneHolder k ?_
    rw [hwork]
    exact Transaction.oneHolder_overwritten hone haccepts.identities
  distinct huuids := by
    refine h.distinct ?_
    rw [hwork, hc]
    exact Transaction.distinctUuids_overwritten_new huuids hnew _
  drawn := by
    have hrest := h.drawn
    rw [hids] at hrest
    have hfirst : c.id = some σ.supplies.ids.next := by rw [hc]
    rw [Supply.handedOut_eq_cons (hids ▸ h.ids), List.map_cons, Carried.register, List.map_cons,
      hfirst]
    exact hrest.cons_cons _

/-- A pass writes what it registers, whatever the mutations are. -/
theorem carries (σ : Session) (hσ : σ.outages = .none) (ms : List Mutation) :
    σ.Carries ms (σ.carry ms) := by
  induction ms generalizing σ with
  | nil => exact ⟨rfl, rfl, .refl _, hσ, fun c hc => by simp [carry] at hc, fun _ hone => hone,
      id, List.nil_sublist _⟩
  | cons m rest ih =>
    cases m with
    | create hostKey c =>
      obtain ⟨t, u, s, o⟩ := σ
      obtain rfl : o = .none := hσ
      rcases Act.create_cases t u s c with ⟨e, _, hrun⟩ | ⟨hcreate, haccepts, hrun⟩
      · rw [carry_create_of_error hrun]
        have hrest := ih ⟨t, { u with creates := u.creates + 1 }, s, .none⟩ rfl
        refine Carries.record (Carries.cons hrest _ ?_ ?_) _ _ <;> rfl
      · rw [carry_create_of_ok hrun]
        have hnew : t.checkNew c = .ok () := (Transaction.create_eq_ok_iff.mp hcreate).1
        refine Carries.register (ih _ ?_) rfl rfl hnew haccepts ?_ ?_ ?_ hostKey <;> rfl
    | update hostKey c changes => exact ((ih σ hσ).cons _ rfl rfl).record _ _
    | skip hostKey => exact (ih σ hσ).cons _ rfl rfl
    | failed hostKey message kind => exact ((ih σ hσ).cons _ rfl rfl).record _ _

end Session

/-- A pass over plans that register nothing leaves the session alone. -/
theorem Session.session_carry {σ : Session} {ms : List Mutation}
    (h : ∀ m ∈ ms, m.registers? = none) : (σ.carry ms).session = σ := by
  induction ms with
  | nil => rfl
  | cons m rest ih =>
    have hrest := ih fun m hm => h m (List.mem_cons_of_mem _ hm)
    cases m with
    | create hostKey c => exact absurd (h _ List.mem_cons_self) (by simp [Mutation.registers?])
    | update hostKey c changes => exact hrest
    | skip hostKey => exact hrest
    | failed hostKey message kind => exact hrest

/-- What a pass that has registered some consumers records for a plan. -/
inductive Mutation.Yields (registered : List Consumer) : Mutation → String × HostState → Prop where
  /-- A new consumer is registered under an id. -/
  | created {hostKey : String} {c : Consumer} (i : String)
    (hc : { c with id := some i } ∈ registered) :
    Yields registered (.create hostKey c) (hostKey, .created c.summary)
  /-- A new consumer is rejected. -/
  | refused {hostKey : String} {c : Consumer} (cause : String) :
    Yields registered (.create hostKey c)
      (hostKey, (Refusal.notCreated c.name cause).state hostKey)
  /-- A consumer is changed. -/
  | updated {hostKey : String} {c : Consumer} {changes : Changes} :
    Yields registered (.update hostKey c changes) (hostKey, .updated c.summary)
  /-- The host has failed before. -/
  | failed {hostKey message : String} {kind : FailureKind} :
    Yields registered (.failed hostKey message kind) (hostKey, .failed kind message)

/-- What a mutation yields it still yields with more registered. -/
theorem Mutation.Yields.mono {l l' : List Consumer} {m : Mutation} {state : String × HostState}
    (h : m.Yields l state) (hl : l ⊆ l') : m.Yields l' state := by
  cases h with
  | created i hc => exact .created i (hl hc)
  | refused cause => exact .refused cause
  | updated => exact .updated
  | failed => exact .failed

/-- Every plan that is carried out yields a state. -/
theorem Session.forall₂_carry (σ : Session) (hσ : σ.outages = .none) {ms : List Mutation}
    (hms : ∀ m ∈ ms, ∀ hostKey, m ≠ .skip hostKey) :
    List.Forall₂ (Mutation.Yields (σ.carry ms).registered) ms (σ.carry ms).states := by
  induction ms generalizing σ with
  | nil => exact .nil
  | cons m rest ih =>
    have hrest : ∀ m ∈ rest, ∀ hostKey, m ≠ .skip hostKey := fun m hm =>
      hms m (List.mem_cons_of_mem _ hm)
    cases m with
    | create hostKey c =>
      obtain ⟨t, u, s, o⟩ := σ
      obtain rfl : o = .none := hσ
      rcases Act.create_cases t u s c with ⟨e, _, hrun⟩ | ⟨_, _, hrun⟩
      · rw [carry_create_of_error hrun]
        exact .cons (.refused _) (ih _ rfl hrest)
      · rw [carry_create_of_ok hrun]
        refine .cons (.created s.ids.next List.mem_cons_self) ?_
        exact (ih _ rfl hrest).imp fun _ _ h => h.mono (List.subset_cons_self _ _)
    | update hostKey c changes => exact .cons .updated (ih σ hσ hrest)
    | skip hostKey => exact absurd rfl (hms _ List.mem_cons_self hostKey)
    | failed hostKey message kind => exact .cons .failed (ih σ hσ hrest)

/-- The states are those of the hosts that the plans are about, in order. -/
theorem Session.keys_carry (σ : Session) {ms : List Mutation}
    (hms : ∀ m ∈ ms, ∀ hostKey, m ≠ .skip hostKey) :
    (σ.carry ms).states.map Prod.fst = ms.map Mutation.hostKey := by
  induction ms generalizing σ with
  | nil => rfl
  | cons m rest ih =>
    have hrest : ∀ m ∈ rest, ∀ hostKey, m ≠ .skip hostKey := fun m hm =>
      hms m (List.mem_cons_of_mem _ hm)
    cases m with
    | create hostKey c =>
      rcases hrun : (Act.create c).run.run σ with ⟨e | created, τ⟩
      · rw [carry_create_of_error hrun]
        exact congrArg (hostKey :: ·) (ih τ hrest)
      · rw [carry_create_of_ok hrun]
        exact congrArg (hostKey :: ·) (ih τ hrest)
    | update hostKey c changes => exact congrArg (hostKey :: ·) (ih σ hrest)
    | skip hostKey => exact absurd rfl (hms _ List.mem_cons_self hostKey)
    | failed hostKey message kind => exact congrArg (hostKey :: ·) (ih σ hrest)

/-- Records states, the first one of each host. -/
def Tally.recordAll (t : Tally) (states : List (String × HostState)) : Tally :=
  states.foldl (fun t e => t.record e.1 e.2) t

/-- The batches with the changed consumers of plans added. -/
def Batches.append (b : Batches) (ms : List Mutation) : Batches :=
  ⟨b.attributes ++ changedConsumers false ms, b.memberships ++ changedConsumers true ms⟩

namespace Batches

@[simp] theorem append_nil (b : Batches) : b.append [] = b := by
  simp [append, changedConsumers]

/-- A changed consumer is added to the batch for it. -/
theorem append_update (b : Batches) (hostKey : String) (c : Consumer) (changes : Changes)
    (ms : List Mutation) :
    b.append (.update hostKey c changes :: ms) = (b.add c changes).append ms := by
  unfold append add changedConsumers
  cases h : changes.guestsChanged <;> simp [Mutation.changes?, h]

/-- Other mutations add nothing. -/
theorem append_of_changes?_eq_none (b : Batches) {m : Mutation} (h : m.changes? = none)
    (ms : List Mutation) : b.append (m :: ms) = b.append ms := by
  simp [append, changedConsumers, h]

theorem empty_append (ms : List Mutation) : empty.append ms = .of ms := rfl

/-- The unit of work with the attributes written, if there are any. -/
def writeAttributes (b : Batches) (t : Transaction) : Except StoreError Transaction :=
  if b.attributes.isEmpty then .ok t else t.updateAttributes b.attributes

/-- The unit of work with the other consumers written, if there are any. -/
def writeMemberships (b : Batches) (t : Transaction) : Except StoreError Transaction :=
  if b.memberships.isEmpty then .ok t else t.updateMemberships b.memberships

/-- What writing the batches comes to, and the unit of work that is left. -/
def writeTo (b : Batches) (t : Transaction) : Except StoreError Unit × Transaction :=
  match b.writeAttributes t with
  | .error e => (.error e, t)
  | .ok t₁ =>
    match b.writeMemberships t₁ with
    | .error e => (.error e, t₁)
    | .ok t₂ => (.ok (), t₂)

/-- The counts after the calls that write the batches; there is none for an empty batch. -/
def count (b : Batches) (t : Transaction) (u : Usage) : Usage :=
  let u := if b.attributes.isEmpty then u else { u with attributeUpdates := u.attributeUpdates + 1 }
  match b.writeAttributes t with
  | .error _ => u
  | .ok _ =>
    if b.memberships.isEmpty then u else { u with membershipUpdates := u.membershipUpdates + 1 }

/-- Attributes that are written are laid over the view with the guests there. -/
theorem eq_of_writeAttributes {b : Batches} {t t₁ : Transaction}
    (h : b.writeAttributes t = .ok t₁) :
    t₁ = t.written (b.attributes.map (Transaction.keepingGuests t.view)) := by
  unfold writeAttributes at h
  split at h
  · next hempty =>
    cases h
    rw [List.isEmpty_iff.mp hempty, List.map_nil, Transaction.written_nil]
  · exact (Transaction.updateAttributes_eq_ok_iff.mp h).2

/-- The other consumers are laid over the view as they are. -/
theorem eq_of_writeMemberships {b : Batches} {t t₁ : Transaction}
    (h : b.writeMemberships t = .ok t₁) : t₁ = t.written b.memberships := by
  unfold writeMemberships at h
  split at h
  · next hempty =>
    cases h
    rw [List.isEmpty_iff.mp hempty, Transaction.written_nil]
  · exact (Transaction.updateMemberships_eq_ok_iff.mp h).2

/-- What writing the batches in a session comes to, and the session that is left. -/
def flushIn (b : Batches) (σ : Session) : Except StoreError Unit × Session :=
  ((b.writeTo σ.work).1,
    { σ with work := (b.writeTo σ.work).2, usage := b.count σ.work σ.usage })

/-- Batches are written to the unit of work, the attributes first. -/
theorem run_flush (b : Batches) {σ : Session} (hσ : σ.outages = .none) :
    b.flush.run.run σ = b.flushIn σ := by
  obtain ⟨t, u, s, o⟩ := σ
  obtain rfl : o = .none := hσ
  unfold flushIn
  rw [flush]
  unfold writeTo count writeAttributes writeMemberships
  cases b.attributes.isEmpty with
  | true =>
    cases b.memberships.isEmpty with
    | true => rfl
    | false =>
      simp only [Bool.false_eq_true, if_true, if_false, Act.run_updateMemberships]
      rcases t.updateMemberships b.memberships with e | t' <;> rfl
  | false =>
    simp only [Bool.false_eq_true, if_false]
    rw [Effect.run_bind, Act.run_updateAttributes]
    rcases t.updateAttributes b.attributes with e | t₁
    · rfl
    · cases b.memberships.isEmpty with
      | true => rfl
      | false =>
        simp only [Bool.false_eq_true, if_false, Act.run_updateMemberships]
        rcases t₁.updateMemberships b.memberships with e | t₂ <;> rfl

end Batches

namespace Tally

/-- Registering a host records what it comes to. -/
theorem run_create (t : Tally) (hostKey : String) (c : Consumer) (σ : Session) :
    (t.create hostKey c).run σ =
      match (Act.create c).run.run σ with
      | (.ok created, σ) => (t.record hostKey (.created created.summary), σ)
      | (.error e, σ) =>
        (t.record hostKey ((Refusal.notCreated c.name e.message).state hostKey), σ) := by
  rw [create, StateT.run_bind]
  rcases (Act.create c).run.run σ with ⟨e | created, σ'⟩ <;> rfl

/-- The pass over plans records the states in order and collects the batches. -/
theorem run_carryOut (t : Tally) (b : Batches) (ms : List Mutation) (σ : Session) :
    (t.carryOut b ms).run σ =
      ((t.recordAll (σ.carry ms).states, b.append ms), (σ.carry ms).session) := by
  induction ms generalizing t b σ with
  | nil =>
    rw [Batches.append_nil]
    rfl
  | cons m rest ih =>
    cases m with
    | create hostKey c =>
      have h : (t.carryOut b (.create hostKey c :: rest)).run σ =
          (((t.create hostKey c).run σ).1.carryOut b rest).run ((t.create hostKey c).run σ).2 :=
        rfl
      rw [h, ih, run_create, Batches.append_of_changes?_eq_none b rfl, Session.carry]
      rcases (Act.create c).run.run σ with ⟨e | created, σ'⟩ <;> rfl
    | update hostKey c changes =>
      rw [carryOut, ih, Batches.append_update, Session.carry]
      rfl
    | skip hostKey => rw [carryOut, ih, Batches.append_of_changes?_eq_none b rfl, Session.carry]
    | failed hostKey message kind =>
      rw [carryOut, ih, Batches.append_of_changes?_eq_none b rfl, Session.carry]
      rfl

/-- Plans are carried out by the pass and the batches. -/
theorem run_apply (t : Tally) (ms : List Mutation) (σ : Session) :
    (t.apply ms).run σ =
      ((t.recordAll (σ.carry ms).states, ((Batches.of ms).flush.run.run (σ.carry ms).session).1),
        ((Batches.of ms).flush.run.run (σ.carry ms).session).2) := by
  have h : (t.apply ms).run σ =
      ((((t.carryOut .empty ms).run σ).1.1,
        (((t.carryOut .empty ms).run σ).1.2.flush.run.run ((t.carryOut .empty ms).run σ).2).1),
        (((t.carryOut .empty ms).run σ).1.2.flush.run.run ((t.carryOut .empty ms).run σ).2).2) :=
    rfl
  rw [h, run_carryOut, Batches.empty_append]

end Tally

end HostRoster
