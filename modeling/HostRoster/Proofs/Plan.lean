import HostRoster.Plan
import HostRoster.Proofs.Lists
import HostRoster.Proofs.Matching

/-!
# Plans for entries

The plan for an entry is given by its decision and, where a host is to be registered, by the uuid
that is next. Plans write consumers of the owner only: new ones under uuids that were handed out for
them, and changed ones that were matched.
-/

namespace HostRoster

namespace Supply

/-- The later place of the two in one sequence of texts. -/
structure Leads (s s' : Supply) : Prop where
  /-- The sequence is the same. -/
  text : s'.text = s.text
  /-- The second place is not before the first. -/
  used_le : s.used ≤ s'.used

/-- A text was handed out between two places. -/
def HandedOut (s s' : Supply) (x : String) : Prop :=
  ∃ n, s.used ≤ n ∧ n < s'.used ∧ s.text n = x

/-- The texts handed out between two places, in order. -/
def handedOut (s s' : Supply) : List String :=
  (List.range' s.used (s'.used - s.used)).map s.text

/-- The texts in the list of those handed out are the ones that were. -/
theorem mem_handedOut {s s' : Supply} {x : String} : x ∈ s.handedOut s' ↔ s.HandedOut s' x := by
  rw [handedOut, List.mem_map]
  refine exists_congr fun n => ?_
  rw [List.mem_range'_1]
  constructor
  · rintro ⟨⟨hle, hlt⟩, hx⟩
    exact ⟨hle, by omega, hx⟩
  · rintro ⟨hle, hlt, hx⟩
    exact ⟨⟨hle, by omega⟩, hx⟩

theorem Leads.refl (s : Supply) : s.Leads s := ⟨rfl, Nat.le_refl _⟩

/-- What is drawn in two steps is drawn. -/
theorem Leads.trans {s s' s'' : Supply} (h : s.Leads s') (h' : s'.Leads s'') : s.Leads s'' :=
  ⟨h'.text.trans h.text, Nat.le_trans h.used_le h'.used_le⟩

/-- Drawing one text leads to the rest of the supply. -/
theorem leads_rest (s : Supply) : s.Leads s.rest := ⟨rfl, Nat.le_succ _⟩

/-- That text was handed out. -/
theorem handedOut_next (s : Supply) : s.HandedOut s.rest s.next :=
  ⟨s.used, Nat.le_refl _, Nat.lt_succ_self _, rfl⟩

/-- A supply that nothing was drawn from has handed out nothing. -/
theorem not_handedOut_self (s : Supply) (x : String) : ¬ s.HandedOut s x := by
  rintro ⟨n, hle, hlt, _⟩
  omega

/-- Of the texts handed out, the next one comes first. -/
theorem handedOut_eq_cons {s s' : Supply} (h : s.rest.Leads s') :
    s.handedOut s' = s.next :: s.rest.handedOut s' := by
  have hle : s.used + 1 ≤ s'.used := h.used_le
  have hcount : s'.used - s.used = (s'.used - (s.used + 1)) + 1 := by omega
  rw [handedOut, hcount, List.range'_succ, List.map_cons]
  rfl

/-- What was handed out in between was handed out in all. -/
theorem HandedOut.mono {a b c d : Supply} {x : String} (h : b.HandedOut c x) (hab : a.Leads b)
    (hcd : c.Leads d) : a.HandedOut d x := by
  obtain ⟨n, hn, hlt, rfl⟩ := h
  exact ⟨n, Nat.le_trans hab.used_le hn, Nat.lt_of_lt_of_le hlt hcd.used_le,
    (congrFun hab.text n).symm⟩

end Supply

namespace Mutation

/-- The consumer that is to be registered. -/
def registers? : Mutation → Option Consumer
  | .create _ c => some c
  | _ => none

/-- The consumer that is to be written, and whether its guests change. -/
def changes? : Mutation → Option (Consumer × Bool)
  | .update _ c changes => some (c, changes.guestsChanged)
  | _ => none

/-- The consumer that is to be registered or written. -/
def writes? : Mutation → Option Consumer
  | .create _ c => some c
  | .update _ c _ => some c
  | _ => none

/-- A mutation that changes a consumer writes it. -/
theorem writes?_of_changes? {m : Mutation} {c : Consumer} {guests : Bool}
    (h : m.changes? = some (c, guests)) : m.writes? = some c := by
  cases m with
  | update hostKey d changes =>
    cases h
    rfl
  | create | skip | failed => cases h

theorem writes?_of_registers? {m : Mutation} {c : Consumer} (h : m.registers? = some c) :
    m.writes? = some c := by
  cases m with
  | create hostKey d =>
    cases h
    rfl
  | update | skip | failed => cases h

end Mutation

/-- What a refusal says of the host is true of the entry. -/
def Refusal.Concerns (r : Refusal) (e : HostEntry) : Prop :=
  match r with
  | .idInUse hypervisorId _ => hypervisorId = e.hypervisorId
  | .notCreated name _ => name = e.name
  | _ => True

namespace Planner

variable {p : Planner} {e : HostEntry}

/-- The consumer that is registered for an entry. -/
def newHost (p : Planner) (e : HostEntry) (uuid : String) : Consumer where
  id := none
  uuid := uuid
  name := e.name
  ownerKey := p.owner.key
  kind := .hypervisor
  identity := some (.ofReported e.hypervisorId p.reporter)
  guests := e.guests
  facts := e.facts.getD .empty
  lastCheckin := some p.now

/-- A registered consumer as it is changed by an entry. -/
def changedHost (p : Planner) (e : HostEntry) (c : Consumer) : Consumer :=
  { c with
    identity := (e.newIdentity? c p.reporter).or c.identity
    facts := e.facts.getD c.facts
    guests := (replaceGuests c.guests e.guests).1
    lastCheckin := some p.now }

/-- What an entry changes of a registered consumer. -/
def hostChanges (p : Planner) (e : HostEntry) (c : Consumer) : Changes where
  identity := e.newIdentity? c p.reporter
  facts := e.facts.getD c.facts != c.facts
  guests := (replaceGuests c.guests e.guests).2

/-- The plan for a matched host is to make it what is reported. -/
theorem planUpdate_eq (p : Planner) (e : HostEntry) (c : Consumer) :
    p.planUpdate e c = .update e.hostKey (p.changedHost e c) (p.hostChanges e c) := rfl

/-- What is planned for a host that is to be registered: the new consumer if its name does, or a
refusal. -/
theorem planCreate_cases (p : Planner) (e : HostEntry) (v : Supply) :
    (checkName e.name = .ok () ∧
        p.planCreate e v = (.create e.hostKey (p.newHost e v.next), v.rest)) ∨
      ((∃ cause, (p.planCreate e v).1 = (Refusal.notCreated e.name cause).mutation e.hostKey) ∧
        ((p.planCreate e v).2 = v ∨ (p.planCreate e v).2 = v.rest)) := by
  unfold planCreate
  cases p.createDenied with
  | some cause => exact Or.inr ⟨⟨_, rfl⟩, Or.inl rfl⟩
  | none =>
    unfold Consumer.make
    cases checkName e.name with
    | error cause => exact Or.inr ⟨⟨_, rfl⟩, Or.inr rfl⟩
    | ok _ => exact Or.inl ⟨rfl, rfl⟩

/-- What the plan for an entry says of its decision. -/
inductive Planned (p : Planner) (e : HostEntry) (v v' : Supply) : Decision → Mutation → Prop where
  /-- A matched consumer is changed. -/
  | update (c : Consumer) :
    Planned p e v v' (.existing c) (.update e.hostKey (p.changedHost e c) (p.hostChanges e c))
  /-- A missing host is registered under the next uuid, if that is wanted and its name does. -/
  | create (uuid : String) (hwanted : p.createMissing = true) (huuid : v.HandedOut v' uuid)
    (hname : checkName e.name = .ok ()) :
    Planned p e v v' .missing (.create e.hostKey (p.newHost e uuid))
  /-- The entry is refused. -/
  | refused (d : Decision) (r : Refusal) (hd : ∀ c, d ≠ .existing c) (hr : r.Concerns e) :
    Planned p e v v' d (.failed e.hostKey (r.message e.hostKey) r.kind)

/-- A plan stays one when the supply is drawn from before and after it. -/
theorem Planned.mono {a b c d : Supply} {dec : Decision} {m : Mutation} (h : p.Planned e b c dec m)
    (hab : a.Leads b) (hcd : c.Leads d) : p.Planned e a d dec m := by
  cases h with
  | update c => exact .update c
  | create uuid hwanted huuid hname => exact .create uuid hwanted (huuid.mono hab hcd) hname
  | refused _ r hd hr => exact .refused _ r hd hr

/-- The plan is for the host of the entry. -/
theorem Planned.hostKey_eq {v v' : Supply} {d : Decision} {m : Mutation}
    (h : p.Planned e v v' d m) : m.hostKey = e.hostKey := by
  cases h <;> rfl

/-- No entry is passed over in silence. -/
theorem Planned.ne_skip {v v' : Supply} {d : Decision} {m : Mutation} (h : p.Planned e v v' d m)
    (hostKey : String) : m ≠ .skip hostKey := by
  rintro rfl
  cases h

/-- Every decision is planned for, and at most one uuid is drawn. -/
theorem planned_plan (p : Planner) (e : HostEntry) (v : Supply) (d : Decision) :
    p.Planned e v (p.plan e v d).2 d (p.plan e v d).1 ∧ v.Leads (p.plan e v d).2 := by
  cases d with
  | existing c => exact ⟨.update c, .refl v⟩
  | alreadyClaimed claimant =>
    exact ⟨.refused _ (.alreadyReported claimant) (fun _ hc => by cases hc) trivial, .refl v⟩
  | identityTaken holder =>
    exact ⟨.refused _ (.idInUse e.hypervisorId holder) (fun _ hc => by cases hc) rfl, .refl v⟩
  | missing =>
    rw [plan]
    split
    · next hwanted =>
      rcases p.planCreate_cases e v with ⟨hname, h⟩ | ⟨⟨cause, hm⟩, hv⟩
      · rw [h]
        exact ⟨.create _ hwanted v.handedOut_next hname, v.leads_rest⟩
      · rw [hm]
        refine ⟨.refused _ (.notCreated e.name cause) (fun _ hc => by cases hc) rfl, ?_⟩
        rcases hv with hv | hv <;> rw [hv]
        · exact .refl v
        · exact v.leads_rest
    · exact ⟨.refused _ (.notFound p.owner.key) (fun _ hc => by cases hc) trivial, .refl v⟩

/-- Every entry is planned by its decision, under a uuid from the texts handed out in all. -/
theorem forall₂_planAll (p : Planner) (v : Supply) (l : List (HostEntry × Decision)) :
    List.Forall₂ (fun ed m => p.Planned ed.1 v (p.planAll v l).2 ed.2 m) l (p.planAll v l).1 ∧
      v.Leads (p.planAll v l).2 := by
  induction l generalizing v with
  | nil => exact ⟨.nil, .refl v⟩
  | cons ed rest ih =>
    obtain ⟨hplan, hlead⟩ := p.planned_plan ed.1 v ed.2
    obtain ⟨hrest, hleads⟩ := ih (p.plan ed.1 v ed.2).2
    refine ⟨.cons (hplan.mono (.refl v) hleads) (hrest.imp fun _ _ h => ?_), hlead.trans hleads⟩
    exact h.mono hlead (.refl _)

section entries

variable {known : KnownHosts} {v : Supply} {es : List HostEntry}

/-- The plans for entries follow their decisions one by one. -/
theorem forall₂_planEntries (p : Planner) (known : KnownHosts) (v : Supply) (es : List HostEntry) :
    List.Forall₂
      (fun e m => ∃ d, d.Justified known e ∧ p.Planned e v (p.planEntries known v es).2 d m)
      es (p.planEntries known v es).1 :=
  Lists.forall₂_of_zip (forall₂_decisions known .empty es) (p.forall₂_planAll v _).1

/-- Planning for entries draws uuids from the supply and does nothing else to it. -/
theorem leads_planEntries (p : Planner) (known : KnownHosts) (v : Supply) (es : List HostEntry) :
    v.Leads (p.planEntries known v es).2 :=
  (p.forall₂_planAll v _).2

/-- The plans are about the hosts of the entries. -/
theorem map_hostKey_planEntries (p : Planner) (known : KnownHosts) (v : Supply)
    (es : List HostEntry) :
    (p.planEntries known v es).1.map Mutation.hostKey = es.map HostEntry.hostKey := by
  refine (Lists.map_eq_map ((p.forall₂_planEntries known v es).imp ?_)).symm
  rintro e m ⟨d, _, hplan⟩
  exact hplan.hostKey_eq.symm

/-- Every plan comes to something. -/
theorem ne_skip_of_mem {m : Mutation} (hm : m ∈ (p.planEntries known v es).1) (hostKey : String) :
    m ≠ .skip hostKey := by
  obtain ⟨e, _, d, _, hplan⟩ := Lists.exists_left (p.forall₂_planEntries known v es) hm
  exact hplan.ne_skip hostKey

/-- New consumers are registered for entries that mean no known host and have a name that does. -/
theorem of_registers? {m : Mutation} {c : Consumer} (hm : m ∈ (p.planEntries known v es).1)
    (hc : m.registers? = some c) :
    ∃ e ∈ es, e.meant? known = none ∧ checkName e.name = .ok () ∧ ∃ uuid,
      v.HandedOut (p.planEntries known v es).2 uuid ∧ c = p.newHost e uuid := by
  obtain ⟨e, he, d, hd, hplan⟩ := Lists.exists_left (p.forall₂_planEntries known v es) hm
  cases hplan with
  | update c => cases hc
  | refused _ r _ _ => cases hc
  | create uuid _ huuid hname =>
    cases hc
    exact ⟨e, he, hd, hname, uuid, huuid, rfl⟩

/-- Changed consumers are known hosts that entries mean under ids that nothing else holds. -/
theorem of_changes? {m : Mutation} {c' : Consumer} {guests : Bool}
    (hm : m ∈ (p.planEntries known v es).1) (hc : m.changes? = some (c', guests)) :
    ∃ e ∈ es, ∃ c, e.meant? known = some c ∧ e.IdFree known c ∧ c' = p.changedHost e c ∧
      guests = (p.hostChanges e c).guestsChanged := by
  obtain ⟨e, he, d, hd, hplan⟩ := Lists.exists_left (p.forall₂_planEntries known v es) hm
  cases hplan with
  | create uuid _ _ _ => cases hc
  | refused _ r _ _ => cases hc
  | update c =>
    cases hc
    exact ⟨e, he, c, hd.1, hd.2, rfl, rfl⟩

end entries

/-- Where registering is denied, no plan registers anything. -/
theorem registers?_eq_none_of_denied {p : Planner}
    (hdenied : p.createMissing = true → p.createDenied ≠ none) (v : Supply)
    (l : List (HostEntry × Decision)) : ∀ m ∈ (p.planAll v l).1, m.registers? = none := by
  have hplan (e : HostEntry) (v : Supply) (d : Decision) : (p.plan e v d).1.registers? = none := by
    cases d with
    | existing c => rfl
    | alreadyClaimed claimant => rfl
    | identityTaken holder => rfl
    | missing =>
      by_cases hwanted : p.createMissing = true
      · obtain ⟨cause, hcause⟩ := Option.ne_none_iff_exists'.mp (hdenied hwanted)
        rw [plan, if_pos hwanted, planCreate, hcause]
        rfl
      · rw [plan, if_neg hwanted]
        rfl
  induction l generalizing v with
  | nil => exact fun m hm => (by cases hm)
  | cons ed rest ih =>
    intro m hm
    rcases List.mem_cons.mp hm with rfl | hm
    · exact hplan ed.1 v ed.2
    · exact ih _ m hm

end Planner

end HostRoster
