import HostRoster.Proofs.Matching
import Mathlib.Data.List.Nodup

/-!
# What matching hands out

Entries under different ids are matched in order with consumers that uuids and ids tell apart. No
consumer is handed out twice, an entry that comes too late learns which earlier one has its
consumer, and an entry is missing exactly if no consumer has its machine's uuid or its id. After all
matched consumers have taken the ids of their entries, ids still tell consumers apart, and the
missing hosts too: a consumer only moves to an id that no other one has.
-/

namespace HostRoster

open KnownHosts (Distinct Unambiguous)

variable {cs : List Consumer} {es : List HostEntry} {e : HostEntry} {c : Consumer}

/-- A consumer has the uuid of the entry's machine, in whatever spelling, or the entry's id. -/
def HostEntry.Mentions (e : HostEntry) (c : Consumer) : Prop :=
  (∃ u, e.systemUuid? = some u ∧ c.systemUuid?.map Text.lower = some (Text.lower u)) ∨
    c.hypervisorId? = some (canonical e.hypervisorId)

namespace HostEntry

/-- The consumer that an entry means is one that it mentions. -/
theorem mentions_of_meant? (hd : Distinct cs) (h : e.meant? (.ofList cs) = some c) :
    e.Mentions c := by
  rw [meant?, Option.or_eq_some_iff] at h
  rcases h with h | ⟨_, h⟩
  · obtain ⟨u, hu, hc⟩ := Option.bind_eq_some_iff.mp h
    exact Or.inl ⟨u, hu, KnownHosts.systemUuid?_of_withSystemUuid? hd hc⟩
  · exact Or.inr (KnownHosts.hypervisorId?_of_withHypervisorId? hd h)

/-- An entry means no consumer exactly if it mentions none. -/
theorem meant?_eq_none_iff (hd : Distinct cs) :
    e.meant? (.ofList cs) = none ↔ ∀ c ∈ cs, ¬ e.Mentions c := by
  constructor
  · intro hnone c hc hmentions
    rw [meant?, Option.or_eq_none_iff, Option.bind_eq_none_iff] at hnone
    rcases hmentions with ⟨u, hu, hkey⟩ | hid
    · obtain ⟨c', hc'⟩ := KnownHosts.exists_withSystemUuid? hc hkey
      rw [hnone.1 u hu] at hc'
      cases hc'
    · obtain ⟨c', hc'⟩ := KnownHosts.exists_withHypervisorId? hc hid
      rw [hnone.2] at hc'
      cases hc'
  · intro hnot
    cases hmeant : e.meant? (.ofList cs) with
    | none => rfl
    | some c => exact absurd (mentions_of_meant? hd hmeant) (hnot c (mem_of_meant? hmeant))

/-- A free id is held by the consumer itself or by none. -/
theorem IdFree.eq_of_hypervisorId? (h : Unambiguous cs) (hfree : e.IdFree (.ofList cs) c)
    (hc : c ∈ cs) {c' : Consumer} (hc' : c' ∈ cs)
    (hid : c'.hypervisorId? = some (canonical e.hypervisorId)) : c' = c :=
  h.distinct c' hc' c hc (hfree c' (h.withHypervisorId?_eq_some_iff.mpr ⟨hc', hid⟩))

/-- What is claimed already is the consumer that the entry means. -/
theorem claimed_of_resolve {known : KnownHosts} {claims : Claims} {claimant : String}
    (h : (e.resolve known claims).1 = .alreadyClaimed claimant) :
    ∃ c, e.meant? known = some c ∧ claims.get? c.uuid = some claimant := by
  unfold resolve at h
  split at h
  · cases h
  · next c hc =>
    split at h
    · next hget =>
      cases h
      exact ⟨c, hc, hget⟩
    · split at h <;> cases h

end HostEntry

/-- An entry that means nothing is missing. -/
theorem Decision.Justified.eq_missing {known : KnownHosts} {d : Decision}
    (h : d.Justified known e) (hnone : e.meant? known = none) : d = .missing := by
  cases d with
  | missing => rfl
  | existing c => cases hnone.symm.trans h.1
  | alreadyClaimed | identityTaken =>
    obtain ⟨c, hc⟩ := h
    cases hnone.symm.trans hc

/-- A claim that an entry comes up against was there before or was laid by an earlier entry. -/
theorem claimant_of_decisions {known : KnownHosts} {claims : Claims} {j : Nat} {claimant : String}
    (he : es[j]? = some e)
    (hd : (decisions known claims es)[j]? = some (.alreadyClaimed claimant)) :
    ∃ c, e.meant? known = some c ∧ (claims.get? c.uuid = some claimant ∨
      ∃ i < j, ∃ e' c', es[i]? = some e' ∧ (decisions known claims es)[i]? = some (.existing c') ∧
        c'.uuid = c.uuid ∧ e'.hostKey = claimant) := by
  induction es generalizing claims j with
  | nil => simp at he
  | cons first rest ih =>
    rw [decisions_cons] at hd ⊢
    cases j with
    | zero =>
      cases Option.some.inj he
      obtain ⟨c, hc, hget⟩ := HostEntry.claimed_of_resolve (Option.some.inj hd)
      exact ⟨c, hc, Or.inl hget⟩
    | succ j =>
      obtain ⟨c, hc, hearlier⟩ := ih he hd
      refine ⟨c, hc, ?_⟩
      rcases hearlier with hget | ⟨i, hi, e', c', he', hd', huuid, hkey⟩
      · -- The claim stands after the first entry: it stood before, or the first entry laid it.
        rcases (first.resolve_cases known claims).2 with ⟨hclaims, _⟩ | ⟨d, hfirst, _, hclaims⟩
        · exact Or.inl (hclaims ▸ hget)
        · rw [hclaims] at hget
          rcases Dict.eq_or_get?_of_insert hget with ⟨huuid, hkey⟩ | hbefore
          · exact Or.inr ⟨0, Nat.succ_pos j, first, d, rfl, congrArg some hfirst, huuid, hkey.symm⟩
          · exact Or.inl hbefore
      · exact Or.inr ⟨i + 1, Nat.succ_lt_succ hi, e', c', he', hd', huuid, hkey⟩

/-- Matched consumers with one uuid stand at one place. -/
theorem index_eq_of_existing {known : KnownHosts} {claims : Claims} {i j : Nat} {c c' : Consumer}
    (hi : (decisions known claims es)[i]? = some (.existing c))
    (hj : (decisions known claims es)[j]? = some (.existing c')) (huuid : c.uuid = c'.uuid) :
    i = j := by
  have hpairs := List.pairwise_iff_getElem.mp (pairwise_decisions known claims es)
  obtain ⟨hli, hdi⟩ := List.getElem?_eq_some_iff.mp hi
  obtain ⟨hlj, hdj⟩ := List.getElem?_eq_some_iff.mp hj
  rcases Nat.lt_trichotomy i j with hlt | heq | hlt
  · exact absurd huuid (hpairs i j hli hlj hlt c c' hdi hdj)
  · exact heq
  · exact absurd huuid.symm (hpairs j i hlj hli hlt c' c hdj hdi)

section ids

variable {l : List (HostEntry × Decision)} {i : String}

/-- The hypervisor id of a consumer once every matched one has taken the id of its entry. -/
def idAfter (decided : List (HostEntry × Decision)) (c : Consumer) : Option String :=
  match decided.find? fun ed => ed.2 = .existing c with
  | some ed => some (canonical ed.1.hypervisorId)
  | none => c.hypervisorId?

/-- The ids of the entries that are missing. -/
def missingIds (decided : List (HostEntry × Decision)) : List String :=
  decided.filterMap fun ed =>
    if ed.2 = .missing then some (canonical ed.1.hypervisorId) else none

/-- An id that is missing is that of an entry for which nothing was found. -/
theorem exists_of_mem_missingIds (h : i ∈ missingIds l) :
    ∃ e, (e, .missing) ∈ l ∧ canonical e.hypervisorId = i := by
  obtain ⟨⟨e, d⟩, hmem, hi⟩ := List.mem_filterMap.mp h
  obtain ⟨hd, hi⟩ := Option.ite_none_right_eq_some.mp hi
  exact ⟨e, hd ▸ hmem, Option.some.inj hi⟩

/-- Entries that ids tell apart are still told apart when only some are taken. -/
theorem nodup_missingIds (h : (l.map fun ed => canonical ed.1.hypervisorId).Nodup) :
    (missingIds l).Nodup := by
  refine List.pairwise_filterMap.mpr ((List.pairwise_map.mp h).imp fun hne i hi i' hi' => ?_)
  rw [← Option.some.inj (Option.ite_none_right_eq_some.mp hi).2,
    ← Option.some.inj (Option.ite_none_right_eq_some.mp hi').2]
  exact hne

/-- An id afterwards is that of an entry that was matched, or was there before. -/
theorem idAfter_cases (h : idAfter l c = some i) :
    (∃ e, (e, .existing c) ∈ l ∧ canonical e.hypervisorId = i) ∨ c.hypervisorId? = some i := by
  unfold idAfter at h
  split at h
  · next ed hfound =>
    have hd : ed.2 = .existing c := by simpa using List.find?_some hfound
    exact Or.inl ⟨ed.1, hd ▸ List.mem_of_find?_eq_some hfound, Option.some.inj h⟩
  · exact Or.inr h

end ids

section matching

variable {i : String}

/-- The entries with their decisions. -/
abbrev decided (cs : List Consumer) (es : List HostEntry) : List (HostEntry × Decision) :=
  es.zip (decisions (.ofList cs) .empty es)

/-- Every decision is justified by the known hosts. -/
theorem justified_of_mem_decided {d : Decision} (h : (e, d) ∈ decided cs es) :
    d.Justified (.ofList cs) e :=
  (List.forall₂_iff_zip.mp (forall₂_decisions (.ofList cs) .empty es)).2 h

/-- Entries and decisions at one place belong together. -/
theorem mem_decided {j : Nat} {d : Decision} (he : es[j]? = some e)
    (hd : (decisions (.ofList cs) .empty es)[j]? = some d) : (e, d) ∈ decided cs es :=
  List.mem_of_getElem? (List.getElem?_zip_eq_some.mpr ⟨he, hd⟩)

theorem map_fst_decided (cs : List Consumer) (es : List HostEntry) :
    (decided cs es).map Prod.fst = es :=
  List.map_fst_zip (Nat.le_of_eq (length_decisions _ _ es).symm)

variable (hes : (es.map fun e => canonical e.hypervisorId).Nodup)
include hes

/-- No two entries ask for one id. -/
theorem nodup_ids_decided :
    ((decided cs es).map fun ed => canonical ed.1.hypervisorId).Nodup := by
  rw [← map_fst_decided cs es, List.map_map] at hes
  exact hes

/-- The id of an entry tells which entry it is, and what was decided. -/
theorem decided_eq_of_id_eq {p q : HostEntry × Decision} (hp : p ∈ decided cs es)
    (hq : q ∈ decided cs es) (hid : canonical p.1.hypervisorId = canonical q.1.hypervisorId) :
    p = q :=
  List.inj_on_of_nodup_map (nodup_ids_decided hes) hp hq hid

/-- A matched consumer and another one do not share an id afterwards. -/
theorem eq_of_idAfter_matched (h : Unambiguous cs)
    (hmatched : (e, .existing c) ∈ decided cs es) {c' : Consumer} (hc' : c' ∈ cs)
    (hi : idAfter (decided cs es) c' = some (canonical e.hypervisorId)) : c = c' := by
  obtain ⟨hmeant, hfree⟩ := justified_of_mem_decided hmatched
  rcases idAfter_cases hi with ⟨e', hmatched', hid⟩ | hkept
  · have hpair := decided_eq_of_id_eq hes hmatched hmatched' hid.symm
    cases hpair
    rfl
  · exact (hfree.eq_of_hypervisorId? h (HostEntry.mem_of_meant? hmeant) hc' hkept).symm

/-- No two consumers have one id afterwards. -/
theorem eq_of_idAfter_eq (h : Unambiguous cs) {c' : Consumer} (hc : c ∈ cs) (hc' : c' ∈ cs)
    (hi : idAfter (decided cs es) c = some i)
    (hi' : idAfter (decided cs es) c' = some i) : c = c' := by
  rcases idAfter_cases hi with ⟨e, hmatched, rfl⟩ | hkept
  · exact eq_of_idAfter_matched hes h hmatched hc' hi'
  rcases idAfter_cases hi' with ⟨e', hmatched', rfl⟩ | hkept'
  · exact (eq_of_idAfter_matched hes h hmatched' hc hi).symm
  · exact h.eq_of_hypervisorId? hc hc' hkept hkept'

/-- No consumer has the id of a missing entry afterwards. -/
theorem idAfter_ne_missing (h : Unambiguous cs) (hc : c ∈ cs)
    (hmissing : (e, .missing) ∈ decided cs es) :
    idAfter (decided cs es) c ≠ some (canonical e.hypervisorId) := by
  intro hi
  rcases idAfter_cases hi with ⟨e', hmatched, hid⟩ | hkept
  · cases decided_eq_of_id_eq hes hmatched hmissing hid
  · exact (HostEntry.meant?_eq_none_iff h.distinct).mp (justified_of_mem_decided hmissing) c hc
      (Or.inr hkept)

/-- Ids tell consumers and missing hosts apart afterwards. -/
theorem nodup_idAfter (h : Unambiguous cs) :
    (cs.filterMap (idAfter (decided cs es)) ++ missingIds (decided cs es)).Nodup := by
  refine List.nodup_append.mpr ⟨?_, nodup_missingIds (nodup_ids_decided hes), ?_⟩
  · have hconsumers : cs.Nodup := List.Nodup.of_map _ h.uuids
    refine List.pairwise_filterMap.mpr (hconsumers.imp_of_mem fun hc hc' hne i hi i' hi' heq => ?_)
    exact hne (eq_of_idAfter_eq hes h hc hc' hi (heq ▸ hi'))
  · intro i hi j hj heq
    obtain ⟨c, hc, hafter⟩ := List.mem_filterMap.mp hi
    obtain ⟨e, hmissing, rfl⟩ := exists_of_mem_missingIds hj
    exact idAfter_ne_missing hes h hc hmissing (heq ▸ hafter)

end matching

/-- Decisions about entries, which hand out the consumers of a list. -/
structure HandsOut (cs : List Consumer) (es : List HostEntry) (ds : List Decision) : Prop where
  /-- Every entry has its decision. -/
  length_eq : ds.length = es.length
  /-- What an entry is given is a consumer of the list that it mentions. -/
  mentioned {j : Nat} {e : HostEntry} {c : Consumer} (he : es[j]? = some e)
    (hd : ds[j]? = some (.existing c)) : c ∈ cs ∧ e.Mentions c
  /-- No uuid is given twice. -/
  once {i j : Nat} {c c' : Consumer} (hi : ds[i]? = some (.existing c))
    (hj : ds[j]? = some (.existing c')) (huuid : c.uuid = c'.uuid) : i = j
  /-- An entry that comes too late is told the one earlier entry that was given the consumer that it
  means. -/
  claimant {j : Nat} {e : HostEntry} {claimant : String} (he : es[j]? = some e)
    (hd : ds[j]? = some (.alreadyClaimed claimant)) :
    ∃ c, e.meant? (.ofList cs) = some c ∧ ∃ i < j, ∃ e', es[i]? = some e' ∧
      ds[i]? = some (.existing c) ∧ e'.hostKey = claimant ∧
      ∀ i', ds[i']? = some (.existing c) → i' = i
  /-- An entry is missing exactly if it mentions no consumer of the list. -/
  missing {j : Nat} {e : HostEntry} (he : es[j]? = some e) :
    ds[j]? = some .missing ↔ ∀ c ∈ cs, ¬ e.Mentions c
  /-- Once the matched consumers have taken the ids of their entries, no two consumers or missing
  entries have one id. -/
  ids : (cs.filterMap (idAfter (es.zip ds)) ++ missingIds (es.zip ds)).Nodup

/-- Matching entries under different ids, in order, with consumers that uuids and ids tell apart
hands each consumer out at most once and keeps the ids apart. -/
theorem handsOut_decisions (h : Unambiguous cs)
    (hes : (es.map fun e => canonical e.hypervisorId).Nodup) :
    HandsOut cs es (decisions (.ofList cs) .empty es) where
  length_eq := length_decisions _ _ _
  mentioned he hd := by
    obtain ⟨hmeant, _⟩ := justified_of_mem_decided (mem_decided he hd)
    exact ⟨HostEntry.mem_of_meant? hmeant, HostEntry.mentions_of_meant? h.distinct hmeant⟩
  once := index_eq_of_existing
  claimant he hd := by
    obtain ⟨c, hc, hget | ⟨i, hi, e', c', he', hd', huuid, hkey⟩⟩ := claimant_of_decisions he hd
    · rw [Dict.get?_empty] at hget
      cases hget
    · obtain ⟨hmeant', _⟩ := justified_of_mem_decided (mem_decided he' hd')
      obtain rfl := h.distinct c' (HostEntry.mem_of_meant? hmeant') c
        (HostEntry.mem_of_meant? hc) huuid
      exact ⟨c', hc, i, hi, e', he', hd', hkey, fun i' hi' => index_eq_of_existing hi' hd' rfl⟩
  missing {j e} he := by
    rw [← HostEntry.meant?_eq_none_iff h.distinct]
    constructor
    · intro hd
      exact justified_of_mem_decided (mem_decided he hd)
    · intro hnone
      obtain ⟨hj, _⟩ := List.getElem?_eq_some_iff.mp he
      have hd := List.getElem?_eq_getElem (length_decisions (.ofList cs) .empty es ▸ hj)
      rw [hd, (justified_of_mem_decided (mem_decided he hd)).eq_missing hnone]
  ids := nodup_idAfter hes h

/-- The first consumer moves to a new id, so the second entry comes too late with the old one. The
third entry means the third consumer under the id of the second, which keeps it from being matched
until the last entry reports its own id. -/
theorem handsOut_decisions_moved :
    let host (uuid id machine : String) : Consumer :=
      ⟨some uuid, uuid, uuid, "a", .hypervisor, some ⟨id, none⟩, [],
        Dict.empty.insert systemUuidFact machine, none⟩
    let cs := [host "x" "a" "S", host "y" "b" "R", host "z" "c" "T"]
    let report : Report :=
      ⟨[(ReportedHost.withId "D").withFact systemUuidFact "s", .withId "A",
        (ReportedHost.withId "b").withFact systemUuidFact "t", .withId "w", .withId "C"]⟩
    let es := report.entries
    let ds := decisions (.ofList cs) .empty es
    Unambiguous cs ∧ (es.map fun e => canonical e.hypervisorId).Nodup ∧
      ds = [.existing (host "x" "a" "S"), .alreadyClaimed "D", .identityTaken "y", .missing,
        .existing (host "z" "c" "T")] ∧
      cs.filterMap (idAfter (es.zip ds)) = ["d", "b", "c"] ∧ missingIds (es.zip ds) = ["w"] ∧
      HandsOut cs es ds := by
  intro host cs report es ds
  have hcs : Unambiguous cs := ⟨by decide +kernel, by decide +kernel⟩
  have hes : (es.map fun e => canonical e.hypervisorId).Nodup := by decide +kernel
  exact ⟨hcs, hes, by decide +kernel, by decide +kernel, by decide +kernel,
    handsOut_decisions hcs hes⟩

end HostRoster
