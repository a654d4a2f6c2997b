import HostRoster.Proofs.Run.Filing

/-!
# What a principal may do

A run is refused unless its principal may update the owner, registers nothing unless it may create,
and reconciles no report with an owner whose guests must not be attached. So for an owner on whom
the principal has less than full access there are features of the consumers that its runs keep. They
are kept by one run, hence by any sequence of runs.
-/

namespace HostRoster

/-- A feature of an owner's consumers, under their ids, is the same in two dictionaries. -/
def SameFeature {β : Type} (k : String) (f : Consumer → β) (d e : Dict Consumer) : Prop :=
  ∀ i, ((ownedPart d k).get? i).map f = ((ownedPart e k).get? i).map f

section features

variable {β : Type} {k : String} {f : Consumer → β} {d e : Dict Consumer}

theorem SameFeature.refl (k : String) (f : Consumer → β) (d : Dict Consumer) :
    SameFeature k f d d := fun _ => rfl

theorem SameFeature.symm (h : SameFeature k f d e) : SameFeature k f e d := fun i => (h i).symm

theorem SameFeature.trans {d' : Dict Consumer} (h : SameFeature k f d e)
    (h' : SameFeature k f e d') : SameFeature k f d d' := fun i => (h i).trans (h' i)

/-- Where the whole record is the same, the owner's part is. -/
theorem SameFeature.part (h : SameFeature k id d e) : ownedPart d k = ownedPart e k := by
  refine Dict.eq_of_get?_eq fun i => ?_
  simpa only [Option.map_id_fun, id] using h i

/-- Whichever the feature is, the ids are the same. -/
theorem SameFeature.get?_eq_none (h : SameFeature k f d e) {i : String}
    (hi : (ownedPart e k).get? i = none) : (ownedPart d k).get? i = none := by
  have hsame := h i
  rw [hi, Option.map_none, Option.map_eq_none_iff] at hsame
  exact hsame

/-- A feature is kept by a batch in which each consumer of the owner replaces one that has it, and
no other consumer replaces one of the owner. -/
theorem sameFeature_overwritten {ds : List Consumer}
    (hmine : ∀ c ∈ ds, c.ownerKey = k → ∀ i, c.id = some i →
      ∃ c', (ownedPart d k).get? i = some c' ∧ f c' = f c)
    (hothers : ∀ c ∈ ds, c.ownerKey ≠ k → ∀ i, c.id = some i → (ownedPart d k).get? i = none) :
    SameFeature k f d (Transaction.overwritten d ds) := by
  intro i
  rw [get?_ownedPart (Transaction.overwritten d ds), Transaction.get?_overwritten]
  cases hb : (Transaction.byId ds).get? i with
  | none => rw [Option.none_or, ← get?_ownedPart]
  | some c =>
    obtain ⟨hc, hid⟩ := Transaction.mem_of_get?_byId hb
    rw [Option.some_or]
    by_cases ho : c.ownerKey = k
    · obtain ⟨c', hc', hf⟩ := hmine c hc ho i hid
      rw [hc', Option.filter_some_pos (by simpa using ho), Option.map_some, Option.map_some, hf]
    · rw [hothers c hc ho i hid, Option.filter_some_neg (by simpa using ho)]

end features

namespace Errand

/-- Who sends the errand. -/
def principal : Errand → Principal
  | .reconcile r => r.principal
  | .heartbeat h => h.principal

variable {e : Errand} (authorizer : Authorizer) (now : Timestamp) {σ : Session}

/-- What an errand leaves that is not refused. -/
inductive Carries (authorizer : Authorizer) (now : Timestamp) (σ : Session) (o : Owner) :
    Errand → Session → Prop where
  /-- A report was reconciled with the hosts of an owner whose guests may be attached. -/
  | reconciled (r : Request) (hbind : o.autobindDisabled = false) :
    Carries authorizer now σ o (.reconcile r)
      ((r.planner authorizer now o).flushed σ r.report.entries).2
  /-- Hosts were heard of. -/
  | heard (h : Heartbeat) :
    Carries authorizer now σ o (.heartbeat h)
      ((σ.work.heartbeats o.key h.reporter now).flushIn σ).2

/-- An errand leaves the unit of work alone, or its principal may update the owner. -/
theorem after_cases (hσ : σ.outages = .none) :
    (e.after authorizer now σ).work = σ.work ∨
      ∃ o, σ.work.owner? e.ownerKey = some o ∧ authorizer e.principal o .update = true ∧
        Carries authorizer now σ o e (e.after authorizer now σ) := by
  obtain ⟨t, u, s, _⟩ := σ
  obtain rfl := hσ
  cases e with
  | reconcile r =>
    rw [after, attempt, Session.run_map, Request.run_attempt]
    cases ho : t.owner? r.ownerKey with
    | none => exact Or.inl rfl
    | some o =>
      cases hrefuse : r.refusal? authorizer o with
      | some cause => exact Or.inl (by simp only [hrefuse])
      | none =>
        obtain ⟨hauth, hbind⟩ := (r.refusal?_eq_none_iff authorizer).mp hrefuse
        refine Or.inr ⟨o, ho, hauth, ?_⟩
        simp only [hrefuse, run_reconcileEntries]
        exact .reconciled r hbind
  | heartbeat h =>
    rw [after, attempt, Session.run_map, Heartbeat.run_attempt]
    cases ho : t.owner? h.ownerKey with
    | none => exact Or.inl rfl
    | some o =>
      cases hauth : authorizer h.principal o .update with
      | false => exact Or.inl (by simp only [hauth, Bool.false_eq_true, if_false])
      | true =>
        refine Or.inr ⟨o, ho, hauth, ?_⟩
        simp only [hauth, if_true]
        exact .heard h

end Errand

namespace Authorizer

/-- Grants allow changes with the level for them or the one above. -/
theorem byGrants_update_iff {p : Principal} {o : Owner} :
    byGrants p o .update = true ↔
      p.accessTo o.key = some .update ∨ p.accessTo o.key = some .create := by
  unfold byGrants
  cases p.accessTo o.key with
  | none => simp
  | some a => cases a <;> simp [Access.allows, Access.rank]

/-- They allow registering with the highest level only. -/
theorem byGrants_create_iff {p : Principal} {o : Owner} :
    byGrants p o .create = true ↔ p.accessTo o.key = some .create := by
  unfold byGrants
  cases p.accessTo o.key with
  | none => simp
  | some a => cases a <;> simp [Access.allows, Access.rank]

end Authorizer

/-- There is a reason why a principal cannot change a feature of an owner's consumers. -/
inductive Principal.CannotChange {β : Type} (p : Principal) (owners : Dict Owner) (k : String)
    (f : Consumer → β) : Prop where
  /-- It may do nothing but read. -/
  | denied (h : p.accessTo k = none ∨ p.accessTo k = some .read)
  /-- It may register nothing, and the feature is told by the uuid. -/
  | unregistered (h : p.accessTo k ≠ some .create) (hf : ∀ c d, c.uuid = d.uuid → f c = f d)
  /-- Guests must not be attached, and the feature is not the time of the last check-in. -/
  | unattached (o : Owner) (ho : owners.get? k = some o) (hbind : o.autobindDisabled = true)
    (hf : ∀ c now, f (Consumer.heardOf now c) = f c)

section runs

variable {β : Type} {p : Principal} {k : String} {f : Consumer → β}

/-- Where nothing may be registered, an errand draws no id. -/
theorem Errand.Carries.ids {e : Errand} {now : Timestamp} {σ τ : Session} {o : Owner}
    (h : Carries .byGrants now σ o e τ) (hcreate : e.principal.accessTo o.key ≠ some .create) :
    τ.supplies.ids = σ.supplies.ids := by
  cases h with
  | reconciled r hbind =>
    refine Planner.ids_flushed_of_denied fun hwanted => ?_
    have hwanted : r.createMissing = true := hwanted
    have hauth : Authorizer.byGrants r.principal o .create = false := by
      rw [Bool.eq_false_iff, Ne, Authorizer.byGrants_create_iff]
      exact hcreate
    simp [Request.planner, Request.denial?, hwanted, hauth]
  | heard h => rfl

/-- Where no id is drawn, a feature that is told by the uuid is kept. -/
theorem Session.Keeps.sameFeature_of_uuid {σ τ : Session} (h : σ.Keeps k τ)
    (hnone : τ.supplies.ids = σ.supplies.ids) (hf : ∀ c d, c.uuid = d.uuid → f c = f d) :
    SameFeature k f σ.work.view τ.work.view := by
  obtain ⟨ds, hwork, hds⟩ := h.work
  rw [hwork]
  refine sameFeature_overwritten (fun d hd _ i hi => ?_) fun d hd ho => ?_
  · obtain ⟨_, j, hj, hmay⟩ := hds d hd
    obtain rfl : i = j := Option.some.inj (hi.symm.trans hj)
    rcases hmay with ⟨hdrawn, _⟩ | ⟨c, hc, huuid⟩
    · rw [hnone] at hdrawn
      exact absurd hdrawn (Supply.not_handedOut_self _ i)
    · exact ⟨c, hc, hf c d huuid⟩
  · exact absurd (hds d hd).1 ho

/-- A run for another owner keeps every feature, if the ids that it draws are not in use here. -/
theorem Session.Keeps.sameFeature_of_ne {σ τ : Session} {k' : String} (h : σ.Keeps k' τ)
    (hne : k' ≠ k) (hids : ∀ i, σ.supplies.ids.HandedOut τ.supplies.ids i →
      (ownedPart σ.work.view k).get? i = none) :
    SameFeature k f σ.work.view τ.work.view := by
  obtain ⟨ds, hwork, hds⟩ := h.work
  rw [hwork]
  refine sameFeature_overwritten (fun d hd ho => ?_) fun d hd _ i hi => ?_
  · exact absurd ((hds d hd).1.symm.trans ho) hne
  · obtain ⟨_, j, hj, hmay⟩ := hds d hd
    obtain rfl : i = j := Option.some.inj (hi.symm.trans hj)
    rcases hmay with ⟨hdrawn, _⟩ | ⟨c, hc, _⟩
    · exact hids i hdrawn
    · obtain ⟨hseen, ho⟩ := get?_ownedPart_eq_some_iff.mp hc
      rw [get?_ownedPart, hseen]
      exact Option.filter_some_neg (by simpa [ho] using hne)

/-- A heartbeat keeps every feature but the time of the last check-in. -/
theorem Transaction.sameFeature_heartbeats {t : Transaction} (hfiled : FiledById t.view)
    (reporter : String) {now : Timestamp} (hf : ∀ c, f (Consumer.heardOf now c) = f c) :
    SameFeature k f t.view ((t.heartbeats k reporter now).writeTo t).2.view := by
  obtain ⟨ds, hwork, hds⟩ := work_heartbeats hfiled k reporter now
  rw [hwork]
  refine sameFeature_overwritten (fun d hd _ i hi => ?_) fun d hd ho => ?_
  · obtain ⟨j, c, hc, rfl⟩ := hds d hd
    have hid : c.id = some j := hfiled (get?_ownedPart_eq_some_iff.mp hc).1
    obtain rfl : j = i := Option.some.inj (hid.symm.trans hi)
    exact ⟨c, hc, (hf c).symm⟩
  · obtain ⟨j, c, hc, rfl⟩ := hds d hd
    exact absurd (get?_ownedPart_eq_some_iff.mp hc).2 ho

/-- An errand keeps the features that its principal cannot change. -/
theorem Errand.sameFeature_after {e : Errand} {now : Timestamp} {σ : Session}
    (hσ : σ.outages = .none) (hfiled : FiledById σ.work.view) (howners : FiledByKey σ.work.owners)
    (hids : ∀ i, σ.supplies.ids.HandedOut (e.after .byGrants now σ).supplies.ids i →
      (ownedPart σ.work.view k).get? i = none)
    (h : e.principal.CannotChange σ.work.owners k f) :
    SameFeature k f σ.work.view (e.after .byGrants now σ).work.view := by
  have hkey : ∀ o, σ.work.owner? e.ownerKey = some o → o.key = e.ownerKey :=
    fun o ho => howners ho
  have hkeeps := e.keeps_after .byGrants now hσ hfiled hkey
  by_cases hk : e.ownerKey = k
  · subst hk
    rcases e.after_cases .byGrants now hσ with hsame | ⟨o, ho, hauth, hcarries⟩
    · rw [hsame]
      exact .refl _ _ _
    · have hokey : o.key = e.ownerKey := hkey o ho
      rw [Authorizer.byGrants_update_iff, hokey] at hauth
      cases h with
      | denied h => rcases h with h | h <;> simp [h] at hauth
      | unregistered h hf => exact hkeeps.sameFeature_of_uuid (hcarries.ids (hokey ▸ h)) hf
      | unattached o' ho' hbind hf =>
        rw [← hokey]
        -- What the errand leaves is named for the cases on what it carries out.
        clear hkeeps hids
        generalize e.after .byGrants now σ = τ at hcarries ⊢
        cases hcarries with
        | reconciled r hfree =>
          obtain rfl : o' = o := Option.some.inj (ho'.symm.trans ho)
          simp [hfree] at hbind
        | heard h => exact Transaction.sameFeature_heartbeats hfiled h.reporter fun c => hf c now
  · exact hkeeps.sameFeature_of_ne hk hids

end runs

/-- The consumers apart from the times of their last check-ins. -/
def Consumer.unheard (c : Consumer) : Consumer := { c with lastCheckin := none }

/-- What calls of a principal may have changed in a store. -/
structure Principal.Confined (p : Principal) (s s' : Store) : Prop where
  /-- Consumers are as they were where it holds no grant but to read. -/
  unchanged : ∀ k, p.accessTo k = none ∨ p.accessTo k = some .read →
    ownedPart s'.registry.consumers k = ownedPart s.registry.consumers k
  /-- The same ids and uuids are there where it may update but not create. -/
  registered : ∀ k, p.accessTo k = some .update →
    SameFeature k Consumer.uuid s'.registry.consumers s.registry.consumers
  /-- Only times of last check-ins differ where guests must not be attached. -/
  unattached : ∀ k o, s.registry.owners.get? k = some o → o.autobindDisabled = true →
    SameFeature k Consumer.unheard s'.registry.consumers s.registry.consumers

namespace Store

/-- The store after calls that are made one after another, each at its time and under the grants of
the principal who makes it. -/
def runAll (s : Store) : List (Timestamp × Errand) → Store
  | [] => s
  | (now, e) :: rest => (s.runFor ⟨.byGrants, now, .none, none⟩ e).2.runAll rest

variable {β : Type} {s : Store} {k : String} {f : Consumer → β}

/-- A run draws ids from the supply of the store. -/
theorem leads_runFor (hs : s.registry.Filed) (now : Timestamp) (e : Errand) :
    s.supplies.ids.Leads (s.runFor ⟨.byGrants, now, .none, none⟩ e).2.supplies.ids := by
  rw [supplies_runFor s rfl rfl]
  exact (e.keeps_after .byGrants now (σ := .start s .none) rfl hs.consumers
    fun _ ho => hs.owners ho).ids

theorem leads_runAll (hs : s.registry.Filed) (calls : List (Timestamp × Errand)) :
    s.supplies.ids.Leads (s.runAll calls).supplies.ids := by
  induction calls generalizing s with
  | nil => exact .refl _
  | cons call rest ih =>
    exact (leads_runFor hs call.1 call.2).trans (ih (filed_runFor hs _ _))

/-- A call keeps the features that its principal cannot change, if the ids that it draws are not in
use with the owner. -/
theorem sameFeature_runFor (hs : s.registry.Filed) (now : Timestamp) {e : Errand}
    (hids : ∀ i,
      s.supplies.ids.HandedOut (s.runFor ⟨.byGrants, now, .none, none⟩ e).2.supplies.ids i →
        (ownedPart s.registry.consumers k).get? i = none)
    (h : e.principal.CannotChange s.registry.owners k f) :
    SameFeature k f (s.runFor ⟨.byGrants, now, .none, none⟩ e).2.registry.consumers
      s.registry.consumers := by
  rw [supplies_runFor s rfl rfl] at hids
  rw [consumers_runFor s rfl rfl]
  cases (s.runFor ⟨.byGrants, now, .none, none⟩ e).1 with
  | error cause => exact .refl _ _ _
  | ok answer =>
    exact (Errand.sameFeature_after (σ := .start s .none) rfl hs.consumers hs.owners hids h).symm

/-- So does a sequence of calls, if the ids that it draws were not in use before. -/
theorem sameFeature_runAll {p : Principal} (hs : s.registry.Filed)
    {calls : List (Timestamp × Errand)} (hp : ∀ call ∈ calls, call.2.principal = p)
    (hids : ∀ i, s.supplies.ids.HandedOut (s.runAll calls).supplies.ids i →
      (ownedPart s.registry.consumers k).get? i = none)
    (h : p.CannotChange s.registry.owners k f) :
    SameFeature k f (s.runAll calls).registry.consumers s.registry.consumers := by
  induction calls generalizing s with
  | nil => exact .refl _ _ _
  | cons call rest ih =>
    obtain ⟨now, e⟩ := call
    have hfiled : (s.runFor ⟨.byGrants, now, .none, none⟩ e).2.registry.Filed :=
      filed_runFor hs _ _
    have howners : (s.runFor ⟨.byGrants, now, .none, none⟩ e).2.registry.owners =
        s.registry.owners := owners_runFor s rfl rfl e
    have hleads := leads_runFor hs now e
    have hrest := leads_runAll hfiled rest
    obtain rfl : e.principal = p := hp _ List.mem_cons_self
    have hfirst := sameFeature_runFor hs now (fun i hi => hids i (hi.mono (.refl _) hrest)) h
    -- No consumer of the owner has come meanwhile, so later ids are not in use with it either.
    refine (ih hfiled (fun call hc => hp call (List.mem_cons_of_mem _ hc)) (fun i hi => ?_)
      (howners ▸ h)).trans hfirst
    exact hfirst.get?_eq_none (hids i (hi.mono hleads (.refl _)))

/-- However many calls a principal makes, and whatever they are, it changes no more than it was
granted. -/
theorem runAll_confined {p : Principal} (hs : s.registry.Filed)
    {calls : List (Timestamp × Errand)} (hp : ∀ call ∈ calls, call.2.principal = p)
    (hids : ∀ i, s.supplies.ids.HandedOut (s.runAll calls).supplies.ids i →
      s.registry.consumers.get? i = none) :
    p.Confined s (s.runAll calls) := by
  have hunused (k : String) : ∀ i, s.supplies.ids.HandedOut (s.runAll calls).supplies.ids i →
      (ownedPart s.registry.consumers k).get? i = none := by
    intro i hi
    rw [get?_ownedPart, hids i hi]
    rfl
  refine ⟨fun k h => ?_, fun k h => ?_, fun k o ho hbind => ?_⟩
  · exact (sameFeature_runAll hs hp (hunused k) (.denied h)).part
  · refine sameFeature_runAll hs hp (hunused k) (.unregistered ?_ fun c d huuid => huuid)
    rw [h]
    decide
  · exact sameFeature_runAll hs hp (hunused k) (.unattached o ho hbind fun c now => rfl)

/-- A user may read one owner, update a second one, and create with two more, of whom the guests of
one must not be attached. One host is registered with the fourth owner, one of the second is changed
and one of the third is heard of; all else is refused. -/
theorem runAll_confined_four_owners :
    let now : Timestamp := ⟨⟨2024, 1, 1⟩, ⟨0, 0, 0, 0⟩, by decide, by decide⟩
    let user : Principal :=
      ((((Principal.user "joe").grant "a" .read).grant "b" .update).grant "c" .create).grant "d"
        .create
    let host (id owner : String) : Consumer :=
      ⟨some id, "u" ++ id, "n", owner, .hypervisor, some ⟨"h", some "q"⟩, [], .empty, none⟩
    let s : Store :=
      ⟨{ (((Registry.empty.addOwner (.named "a")).addOwner (.named "b")).addOwner
            ⟨"c", "c", true⟩).addOwner (.named "d") with
          consumers := Transaction.overwritten .empty [host "1" "a", host "2" "b", host "3" "c"] },
        .none, .none, ⟨⟨fun _ => "4", 0⟩, ⟨fun _ => "u4", 0⟩⟩, .given⟩
    let report (owner : String) : Errand :=
      .reconcile
        ⟨owner, true, none, user, ⟨[(ReportedHost.withId "h").withGuests ["g"], .withId "i"]⟩⟩
    let calls : List (Timestamp × Errand) :=
      [(now, report "a"), (now, report "b"), (now, .heartbeat ⟨"c", "q", user⟩), (now, report "c"),
        (now, .reconcile ⟨"d", true, none, user, ⟨[.withId "h"]⟩⟩)]
    (s.runAll calls).registry.consumers.keys = ["1", "2", "3", "4"] ∧
      (s.runAll calls).registry.consumers.values.map (·.guests) = [[], ["g"], [], []] ∧
      user.Confined s (s.runAll calls) := by
  intro now user host s report calls
  have hkeys : (s.runAll calls).registry.consumers.keys = ["1", "2", "3", "4"] := by decide +kernel
  have hguests : (s.runAll calls).registry.consumers.values.map (·.guests) =
      [[], ["g"], [], []] := by decide +kernel
  have hids : ∀ i ∈ s.supplies.ids.handedOut (s.runAll calls).supplies.ids,
      s.registry.consumers.get? i = none := by decide +kernel
  have howners : FiledByKey s.registry.owners :=
    filedByKey_insert (filedByKey_insert (filedByKey_insert (filedByKey_insert filedByKey_empty _)
      _) _) _
  have hempty : FiledById .empty := fun _ _ h => by simp at h
  have hconsumers : FiledById s.registry.consumers := filedById_overwritten hempty _
  have hcalls : ∀ call ∈ calls, call.2.principal = user := by decide +kernel
  clear_value s calls
  refine ⟨hkeys, hguests, runAll_confined ⟨howners, hconsumers⟩ hcalls fun i hi => ?_⟩
  exact hids i (Supply.mem_handedOut.mpr hi)

end Store

end HostRoster
