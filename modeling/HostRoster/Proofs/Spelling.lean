import HostRoster.Proofs.Plan
import HostRoster.Proofs.Report
import HostRoster.Run

/-!
# Ids in other spellings

Two reports that differ in the spelling of host ids have entries that differ in their host keys, as
long as every host has a name of its own. Host keys matter to nothing but the wording of refusals:
the same consumers are meant, the same plans are made, and the same hosts are refused.
-/

namespace HostRoster

/-- Two host keys that differ in spelling only. -/
def SameLetters (k k' : String) : Prop := Text.lower k = Text.lower k'

/-- Ids with one canonical form are both left out, or are host keys that differ in spelling. -/
theorem rel_trimmed? {s s' : String} (h : canonical s = canonical s') :
    Option.Rel SameLetters (trimmed? s) (trimmed? s') := by
  have hblank : Text.isBlank s = Text.isBlank s' := by
    rw [← isBlank_canonical, h, isBlank_canonical]
  rw [trimmed?_eq, trimmed?_eq, hblank]
  split
  · exact .none
  · exact .some h

/-- Two hosts of reports that differ in the spelling of the id. -/
structure ReportedHost.Respelled (h h' : ReportedHost) : Prop where
  /-- The ids have one canonical form, or there are none. -/
  id : h.rawId?.map canonical = h'.rawId?.map canonical
  /-- The names are the same. -/
  name : h.name = h'.name
  /-- The guests are the same. -/
  guests : h.guests = h'.guests
  /-- What is known of the hosts is the same. -/
  facts : h.facts = h'.facts

/-- Two reports that differ in the spelling of the ids of hosts. -/
def Report.Respelled (r r' : Report) : Prop :=
  List.Forall₂ ReportedHost.Respelled r.hosts r'.hosts

/-- A host with a name of its own. -/
def ReportedHost.IsNamed (h : ReportedHost) : Prop :=
  ∃ name, h.name = some name ∧ Text.isBlank name = false

/-- Two entries that differ in the spelling of the host key. -/
structure HostEntry.Respelled (e e' : HostEntry) : Prop where
  /-- The host keys have the same letters. -/
  hostKey : SameLetters e.hostKey e'.hostKey
  /-- The canonical ids are the same. -/
  hypervisorId : e.hypervisorId = e'.hypervisorId
  /-- The names are the same. -/
  name : e.name = e'.name
  /-- The guests are the same. -/
  guests : e.guests = e'.guests
  /-- What is known of the hosts is the same. -/
  facts : e.facts = e'.facts

/-- Host keys of respelt hosts have the same letters. -/
theorem ReportedHost.Respelled.rel_hostKey {h h' : ReportedHost} (hr : h.Respelled h') :
    Option.Rel SameLetters (h.rawId?.bind trimmed?) (h'.rawId?.bind trimmed?) := by
  have hid := hr.id
  generalize h.rawId? = raw, h'.rawId? = raw' at hid ⊢
  cases raw with
  | none =>
    obtain rfl : raw' = none := Option.map_eq_none_iff.mp hid.symm
    exact .none
  | some raw =>
    obtain ⟨raw', rfl, hcanonical⟩ := Option.map_eq_some_iff.mp hid.symm
    rw [Option.bind_some, Option.bind_some]
    exact rel_trimmed? hcanonical.symm

/-- Such hosts are both left out, or come to entries that differ in the spelling of the host key. -/
theorem ReportedHost.Respelled.rel_ofHost? {h h' : ReportedHost} (hr : h.Respelled h')
    (hnamed : h.IsNamed) :
    Option.Rel HostEntry.Respelled (HostEntry.ofHost? h) (HostEntry.ofHost? h') := by
  obtain ⟨name, hname, hblank⟩ := hnamed
  have hclean {key : String} {h : ReportedHost} (hkey : h.rawId?.bind trimmed? = some key) :
      canonical key = Text.lower key := by
    obtain ⟨raw, _, hraw⟩ := Option.bind_eq_some_iff.mp hkey
    rw [canonical, (HostEntry.trimmed?_eq_some hraw).2]
  have hkeys := hr.rel_hostKey
  unfold HostEntry.ofHost?
  generalize hkey : h.rawId?.bind trimmed? = key, hkey' : h'.rawId?.bind trimmed? = key'
    at hkeys ⊢
  cases hkeys with
  | none => exact .none
  | some hspelling =>
    refine .some ⟨hspelling, ?_, ?_, ?_, hr.facts⟩
    · exact (hclean hkey).trans (hspelling.trans (hclean hkey').symm)
    · simp only [← hr.name, hname, Option.bind_some, trimmed?_eq, hblank, Bool.false_eq_true,
        if_false, Option.getD_some]
    · simp only [hr.guests]

/-- The entries of such reports correspond one by one. -/
theorem Report.Respelled.entries {r r' : Report} (hr : r.Respelled r')
    (hnamed : ∀ h ∈ r.hosts, h.IsNamed) :
    List.Forall₂ HostEntry.Respelled r.entries r'.entries := by
  have hmade : List.Forall₂ HostEntry.Respelled (r.hosts.filterMap HostEntry.ofHost?)
      (r'.hosts.filterMap HostEntry.ofHost?) :=
    List.rel_filterMap (fun h h' hh => hh.2.2.rel_ofHost? (hnamed h hh.1)) (Lists.forall₂_mem hr)
  have halike : KeyedList.Alike HostEntry.Respelled
      ((r.hosts.filterMap HostEntry.ofHost?).map fun e => (e.hypervisorId, e))
      ((r'.hosts.filterMap HostEntry.ofHost?).map fun e => (e.hypervisorId, e)) :=
    List.rel_map (fun _ _ he => ⟨he.hypervisorId, he⟩) hmade
  exact List.rel_map (fun _ _ he => he.2) (KeyedList.alike_ofPairs halike)

section entries

variable {e e' : HostEntry} {es es' : List HostEntry}

namespace HostEntry.Respelled

/-- Such entries have everything else in common. -/
theorem eq_withKey (h : e.Respelled e') : e' = { e with hostKey := e'.hostKey } := by
  obtain ⟨_, hid, hname, hguests, hfacts⟩ := h
  rw [hid, hname, hguests, hfacts]

/-- The uuid of the machine does not depend on the spelling of the host key. -/
theorem systemUuid?_eq (h : e.Respelled e') : e.systemUuid? = e'.systemUuid? := by
  rw [h.eq_withKey]
  rfl

/-- Nor does the known host that is meant. -/
theorem meant?_eq (h : e.Respelled e') (known : KnownHosts) : e.meant? known = e'.meant? known := by
  rw [h.eq_withKey]
  rfl

/-- Nor does what the host becomes. -/
theorem changedHost_eq (h : e.Respelled e') (p : Planner) (c : Consumer) :
    p.changedHost e c = p.changedHost e' c := by
  rw [h.eq_withKey]
  rfl

/-- Nor do the changes that are told. -/
theorem hostChanges_eq (h : e.Respelled e') (p : Planner) (c : Consumer) :
    p.hostChanges e c = p.hostChanges e' c := by
  rw [h.eq_withKey]
  rfl

end HostEntry.Respelled

section reported

variable (h : List.Forall₂ HostEntry.Respelled es es')
include h

/-- Respelt entries report the same ids. -/
theorem reportedIds_eq_of_respelled : reportedIds es = reportedIds es' := by
  rw [reportedIds, reportedIds, Lists.map_eq_map (h.imp fun _ _ he => he.hypervisorId)]

/-- They report the same machines. -/
theorem reportedSystemUuids_eq_of_respelled : reportedSystemUuids es = reportedSystemUuids es' := by
  rw [reportedSystemUuids, reportedSystemUuids,
    Lists.filterMap_eq_filterMap (h.imp fun _ _ he => he.systemUuid?_eq)]

/-- They report the same guests. -/
theorem reportedGuests_eq_of_respelled : reportedGuests es = reportedGuests es' := by
  rw [reportedGuests, reportedGuests, List.flatMap_def, List.flatMap_def,
    Lists.map_eq_map (h.imp fun _ _ he => he.guests)]

end reported

end entries

/-- Two decisions that differ in the spelling of the claimant. -/
inductive Decision.Respelled : Decision → Decision → Prop where
  /-- A registered host. -/
  | existing (c : Consumer) : Respelled (.existing c) (.existing c)
  /-- A host that is not registered. -/
  | missing : Respelled .missing .missing
  /-- A host that an earlier entry meant. -/
  | alreadyClaimed {k k' : String} (h : SameLetters k k') :
    Respelled (.alreadyClaimed k) (.alreadyClaimed k')
  /-- A host whose id another consumer holds. -/
  | identityTaken (holder : String) : Respelled (.identityTaken holder) (.identityTaken holder)

/-- Claims of the same consumers by host keys that differ in spelling. -/
def Claims.Respelled (claims claims' : Claims) : Prop :=
  ∀ uuid, Option.Rel SameLetters (claims.get? uuid) (claims'.get? uuid)

theorem Claims.respelled_empty : Claims.Respelled .empty .empty := fun _ => .none

/-- Claims under host keys with the same letters stay alike. -/
theorem Claims.Respelled.insert {claims claims' : Claims} (h : Claims.Respelled claims claims')
    {k k' : String} (hk : SameLetters k k') (uuid : String) :
    Claims.Respelled (Dict.insert claims uuid k) (Dict.insert claims' uuid k') := by
  intro u
  rw [Dict.get?_insert, Dict.get?_insert]
  split
  · exact .some hk
  · exact h u

section decisions

variable {e e' : HostEntry} {claims claims' : Claims} {known : KnownHosts}

/-- Respelt entries are decided alike, and leave claims that are alike. -/
theorem HostEntry.Respelled.resolve (h : e.Respelled e')
    (hclaims : Claims.Respelled claims claims') :
    Decision.Respelled (e.resolve known claims).1 (e'.resolve known claims').1 ∧
      Claims.Respelled (e.resolve known claims).2 (e'.resolve known claims').2 := by
  unfold HostEntry.resolve
  rw [h.meant?_eq known, h.hypervisorId]
  cases e'.meant? known with
  | none => exact ⟨.missing, hclaims⟩
  | some c =>
    have hc := hclaims c.uuid
    dsimp only
    generalize claims.get? c.uuid = k, claims'.get? c.uuid = k' at hc ⊢
    cases hc with
    | some hk => exact ⟨.alreadyClaimed hk, hclaims⟩
    | none =>
      dsimp only
      split
      · exact ⟨.identityTaken _, hclaims⟩
      · exact ⟨.existing c, hclaims.insert h.hostKey c.uuid⟩

/-- Corresponding entries are decided in the same way. -/
theorem respelled_decisions {es es' : List HostEntry} (h : List.Forall₂ HostEntry.Respelled es es')
    (hclaims : Claims.Respelled claims claims') :
    List.Forall₂ Decision.Respelled (decisions known claims es) (decisions known claims' es') := by
  induction h generalizing claims claims' with
  | nil => exact .nil
  | cons he _ ih =>
    obtain ⟨hd, hclaims⟩ := he.resolve hclaims
    exact .cons hd (ih hclaims)

end decisions

/-- Two refusals that differ in the spelling of the claimant. -/
inductive Refusal.Respelled : Refusal → Refusal → Prop where
  /-- An earlier entry means the same consumer. -/
  | alreadyReported {k k' : String} (h : SameLetters k k') :
    Respelled (.alreadyReported k) (.alreadyReported k')
  /-- The refusals are the same. -/
  | same (r : Refusal) : Respelled r r

/-- Entries of two reports about one host. -/
structure Counterparts (es es' : List HostEntry) (e e' : HostEntry) : Prop where
  /-- The one is an entry of the first report. -/
  left : e ∈ es
  /-- The other is an entry of the second report. -/
  right : e' ∈ es'
  /-- They differ in the spelling of the host key. -/
  respelled : e.Respelled e'

/-- Two mutations for one host that differ in the spelling of host keys. -/
inductive Mutation.Respelled (es es' : List HostEntry) : Mutation → Mutation → Prop where
  /-- The same consumer is registered. -/
  | create {e e' : HostEntry} (h : Counterparts es es' e e') (c : Consumer) :
    Respelled es es' (.create e.hostKey c) (.create e'.hostKey c)
  /-- The same consumer is changed. -/
  | update {e e' : HostEntry} (h : Counterparts es es' e e') (c : Consumer) (changes : Changes) :
    Respelled es es' (.update e.hostKey c changes) (.update e'.hostKey c changes)
  /-- The host is refused. -/
  | refused {e e' : HostEntry} (h : Counterparts es es' e e') {r r' : Refusal}
    (hr : r.Respelled r') : Respelled es es' (r.mutation e.hostKey) (r'.mutation e'.hostKey)

namespace Planner

variable {p : Planner} {es es' : List HostEntry} {e e' : HostEntry} {v : Supply}

/-- New hosts are planned alike, under the same uuid. -/
theorem respelled_planCreate (h : Counterparts es es' e e') :
    Mutation.Respelled es es' (p.planCreate e v).1 (p.planCreate e' v).1 ∧
      (p.planCreate e v).2 = (p.planCreate e' v).2 := by
  have he := h.respelled
  unfold planCreate
  rw [he.name, he.hypervisorId, he.guests, he.facts]
  cases p.createDenied with
  | some cause => exact ⟨.refused h (.same _), rfl⟩
  | none =>
    dsimp only
    split
    · exact ⟨.refused h (.same _), rfl⟩
    · exact ⟨.create h _, rfl⟩

theorem respelled_plan (h : Counterparts es es' e e') {d d' : Decision} (hd : d.Respelled d') :
    Mutation.Respelled es es' (p.plan e v d).1 (p.plan e' v d').1 ∧
      (p.plan e v d).2 = (p.plan e' v d').2 := by
  cases hd with
  | existing c =>
    rw [plan, plan, planUpdate_eq, planUpdate_eq, h.respelled.changedHost_eq,
      h.respelled.hostChanges_eq]
    exact ⟨.update h _ _, rfl⟩
  | alreadyClaimed hk => exact ⟨.refused h (.alreadyReported hk), rfl⟩
  | identityTaken holder =>
    rw [plan, plan, h.respelled.hypervisorId]
    exact ⟨.refused h (.same _), rfl⟩
  | missing =>
    rw [plan, plan]
    split
    · exact respelled_planCreate h
    · exact ⟨.refused h (.same _), rfl⟩

theorem respelled_planAll {l l' : List (HostEntry × Decision)}
    (h : List.Forall₂ (fun ed ed' => Counterparts es es' ed.1 ed'.1 ∧ ed.2.Respelled ed'.2) l l') :
    List.Forall₂ (Mutation.Respelled es es') (p.planAll v l).1 (p.planAll v l').1 ∧
      (p.planAll v l).2 = (p.planAll v l').2 := by
  induction h generalizing v with
  | nil => exact ⟨.nil, rfl⟩
  | cons hed _ ih =>
    obtain ⟨hm, hv⟩ := respelled_plan (p := p) (v := v) hed.1 hed.2
    obtain ⟨hms, hw⟩ := ih (v := (p.plan _ v _).2)
    simp only [planAll, ← hv]
    exact ⟨.cons hm hms, hw⟩

/-- Corresponding entries have plans that differ in the spelling of host keys. -/
theorem respelled_planEntries (known : KnownHosts)
    (h : List.Forall₂ HostEntry.Respelled es es') :
    List.Forall₂ (Mutation.Respelled es es') (p.planEntries known v es).1
        (p.planEntries known v es').1 ∧
      (p.planEntries known v es).2 = (p.planEntries known v es').2 := by
  have hentries : List.Forall₂ (Counterparts es es') es es' :=
    (Lists.forall₂_mem h).imp fun _ _ he => ⟨he.1, he.2.1, he.2.2⟩
  exact respelled_planAll
    (Lists.forall₂_zip_zip hentries (respelled_decisions h Claims.respelled_empty))

end Planner

end HostRoster
