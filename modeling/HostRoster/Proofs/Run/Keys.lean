import HostRoster.Proofs.Run.Recording

/-!
# One key for a host

A host gets its key when the entries of a report are made: the canonical form of the reported id.
The later parts of a run make the key anew, each from what it has at hand. The look-up of known
hosts and the identity of a consumer take the canonical form of the key itself, and what is recorded
of the host goes by the host key in lower case. As canonical forms are stable, and a text may be
trimmed before or after it is put into lower case, they all come to the key of the entry.
-/

namespace HostRoster

/-- The parts of a run that are about an entry go by its id as the one key. -/
structure HostEntry.OneKey (e : HostEntry) : Prop where
  /-- Among known hosts, what is indexed under the key is looked up. -/
  matched : ∀ known : KnownHosts, known.withHypervisorId? e.hypervisorId =
    (known.byHypervisorId.get? e.hypervisorId).bind known.get?
  /-- An identity that is made from the id has the key. -/
  identity : ∀ reporter, Identity.ofReported e.hypervisorId reporter = ⟨e.hypervisorId, reporter⟩
  /-- Whatever the decision, a consumer that is planned for the entry has the key, and once it is
  known the entry finds it. -/
  planned : ∀ (p : Planner) (v : Supply) (d : Decision) (c : Consumer),
    (p.plan e v d).1.writes? = some c → c.hypervisorId? = some e.hypervisorId ∧
      ∀ known : KnownHosts, (known.insert c).withHypervisorId? e.hypervisorId = some c
  /-- The state that is found for the host is the one under the key. -/
  found : ∀ t : Tally, t.state? e.hostKey = t.states.find? e.hypervisorId
  /-- A state for the host is recorded under the key, unless there is one. -/
  recorded : ∀ (t : Tally) (s : HostState), (t.record e.hostKey s).states =
    if e.hypervisorId ∈ t.states.names then t.states else t.states ++ [(e.hypervisorId, s)]

/-- The hosts of a report go by one key each. -/
structure Report.OneKeyEach (r : Report) : Prop where
  /-- The host key of an entry is a reported id, trimmed, and its id is the canonical form. -/
  reported : ∀ e ∈ r.entries, ∃ h ∈ r.hosts, ∃ raw, h.rawId? = some raw ∧
    e.hostKey = Text.trim raw ∧ e.hypervisorId = canonical raw
  /-- A reported id with a canonical form that is not empty has its entry under this form. -/
  entered : ∀ h ∈ r.hosts, ∀ raw, h.rawId? = some raw → canonical raw ≠ "" →
    ∃ e ∈ r.entries, e.hypervisorId = canonical raw
  /-- No two entries have one key. -/
  distinct : r.entries.Pairwise fun e e' => e.hypervisorId ≠ e'.hypervisorId
  /-- The parts of a run that are about an entry go by its key. -/
  entries : ∀ e ∈ r.entries, e.OneKey
  /-- When the plans have been carried out, in whatever session, the states are kept under the keys
  of the entries, in their order. -/
  kept : ∀ (p : Planner) (known : KnownHosts) (v : Supply) (wanted : Bool) (σ : Session),
    (((Tally.start wanted).apply (p.planEntries known v r.entries).1).run σ).1.1.states.names =
      r.entries.map HostEntry.hypervisorId

namespace HostEntry.Clean

variable {e : HostEntry}

/-- What a plan writes has the canonical id of its entry. -/
theorem hypervisorId?_of_plan (he : e.Clean) {p : Planner} {v : Supply} {d : Decision}
    {c : Consumer} (hc : (p.plan e v d).1.writes? = some c) :
    c.hypervisorId? = some e.hypervisorId := by
  have hplan := (p.planned_plan e v d).1
  generalize (p.plan e v d).1 = m, (p.plan e v d).2 = v' at hplan hc
  cases hplan with
  | update c₀ =>
    cases hc
    rw [Consumer.hypervisorId?, Planner.identity_changedHost he, Option.map_some]
  | create uuid _ _ _ =>
    cases hc
    rw [Consumer.hypervisorId?, Planner.identity_newHost he, Option.map_some]
  | refused _ r _ _ => cases hc

/-- A clean entry has one key all over the run. -/
theorem oneKey (he : e.Clean) : e.OneKey where
  matched known := by rw [KnownHosts.withHypervisorId?, he.canonical_hypervisorId]
  identity reporter := by rw [Identity.ofReported, he.canonical_hypervisorId]
  planned p v d c hc := by
    have hid := he.hypervisorId?_of_plan hc
    refine ⟨hid, fun known => KnownHosts.withHypervisorId?_insert ?_⟩
    rw [he.canonical_hypervisorId, hid]
  found t := by rw [Tally.state?, he.lower_hostKey]
  recorded t s := by rw [t.states_record, he.lower_hostKey]

end HostEntry.Clean

/-- What is recorded of clean entries is kept under their ids. -/
theorem CleanEntries.names_apply {es : List HostEntry} (hes : CleanEntries es) (p : Planner)
    (known : KnownHosts) (v : Supply) (wanted : Bool) (σ : Session) :
    (((Tally.start wanted).apply (p.planEntries known v es).1).run σ).1.1.states.names =
      es.map HostEntry.hypervisorId := by
  have hkeys : (σ.carry (p.planEntries known v es).1).states.map Prod.fst =
      es.map HostEntry.hostKey :=
    (σ.keys_carry fun _ hm => Planner.ne_skip_of_mem hm).trans
      (p.map_hostKey_planEntries known v es)
  have hrecorded := (Tally.start wanted).recordAll_eq (hkeys ▸ hes.unlike_hostKeys)
    fun _ _ => List.not_mem_nil
  rw [Tally.run_apply, hrecorded, ← hes.map_lower_hostKey, ← hkeys]
  simp [Tally.start, Tally.keyed, KeyedList.names]

/-- So every entry of every report has. -/
theorem Report.oneKeyEach (r : Report) : r.OneKeyEach where
  reported e he := by
    obtain ⟨h, hh, hentry⟩ := exists_of_mem_entries he
    exact ⟨h, hh, HostEntry.keys_of_ofHost? hentry⟩
  entered h hh raw hraw hne := by
    have hblank : Text.isBlank raw = false :=
      eq_false_of_ne_true (mt canonical_eq_empty_iff.mpr hne)
    obtain ⟨e, he⟩ := HostEntry.exists_ofHost? hraw hblank
    obtain ⟨raw', hraw', _, hid⟩ := HostEntry.keys_of_ofHost? he
    obtain rfl : raw = raw' := Option.some.inj (hraw.symm.trans hraw')
    have hmem : e.hypervisorId ∈ r.entries.map HostEntry.hypervisorId := by
      rw [r.ids_entries, List.mem_eraseDups]
      exact List.mem_map_of_mem (List.mem_filterMap.mpr ⟨h, hh, he⟩)
    rw [← hid]
    exact List.mem_map.mp hmem
  distinct := r.pairwise_entries
  entries _ he := (clean_of_mem_entries he).oneKey
  kept := r.cleanEntries.names_apply

/-- The canonical form of an id is its own canonical form, it is empty exactly if the id is white
space throughout, and it does not matter whether an id is first trimmed or first put into lower
case. So the hosts of a report go by one key each. -/
theorem canonical_is_one_key :
    (∀ s : String, canonical (canonical s) = canonical s ∧
      (canonical s = "" ↔ ∀ c ∈ s.toList, Text.isSpace c = true) ∧
      Text.lower (Text.trim s) = Text.trim (Text.lower s)) ∧
    ∀ r : Report, r.OneKeyEach := by
  refine ⟨fun s => ⟨canonical_canonical s, ?_, (Text.trim_lower s).symm⟩, Report.oneKeyEach⟩
  rw [canonical_eq_empty_iff, Text.isBlank, List.all_eq_true]

/-- Both words of an id end in a final sigma, although white space follows them, and what is
recorded of a host whose one letter becomes two is found under both. -/
theorem canonical_is_one_key_sigma :
    let r : Report := ⟨[.withId "\u3000ΟΔΟΣ ΑΣ\u00a0", .withId "\u2028İ"]⟩
    let e : HostEntry := ⟨"ΟΔΟΣ ΑΣ", "οδος ας", "ΟΔΟΣ ΑΣ", [], none⟩
    let d : HostEntry := ⟨"İ", "i\u0307", "İ", [], none⟩
    r.entries = [e, d] ∧ r.OneKeyEach ∧ canonical "\u3000ΟΔΟΣ ΑΣ\u00a0" = "οδος ας" ∧
      (∀ t : Tally, t.state? "ΟΔΟΣ ΑΣ" = t.states.find? "οδος ας") ∧
      ∀ t : Tally, t.state? "İ" = t.states.find? "i\u0307" := by
  intro r e d
  have hentries : r.entries = [e, d] := by decide +kernel
  have hkeys : r.OneKeyEach := canonical_is_one_key.2 r
  have he : e ∈ r.entries := hentries ▸ List.mem_cons_self
  have hd : d ∈ r.entries := hentries ▸ List.mem_cons_of_mem _ List.mem_cons_self
  exact ⟨hentries, hkeys, by decide +kernel, (hkeys.entries e he).found, (hkeys.entries d hd).found⟩

end HostRoster
