import HostRoster.Matching
import HostRoster.Proofs.Known
import Mathlib.Data.List.Forall2

/-!
# Decisions about entries

An entry is decided by the consumer that it means and by the entries before it. Whatever the order
of the entries, no consumer is matched twice, and none is matched under an id that another known
host holds.
-/

namespace HostRoster

namespace HostEntry

variable {e : HostEntry} {known : KnownHosts} {claims : Claims} {c : Consumer}

/-- Nothing but the consumer itself holds the id of an entry among the known hosts. -/
def IdFree (e : HostEntry) (known : KnownHosts) (c : Consumer) : Prop :=
  ∀ holder, known.withHypervisorId? e.hypervisorId = some holder → holder.uuid = c.uuid

/-- An id is free for a consumer if the one found by it, if any, is this consumer. -/
theorem idFree_iff :
    e.IdFree known c ↔
      (known.withHypervisorId? e.hypervisorId).filter (fun holder => holder.uuid != c.uuid) =
        none := by
  rw [Option.filter_eq_none_iff]
  simp [IdFree]

/-- An entry that means no known host is missing. -/
theorem resolve_of_none (h : e.meant? known = none) :
    e.resolve known claims = (.missing, claims) := by
  rw [resolve, h]

/-- A claim on the consumer that an entry means is named. -/
theorem resolve_of_claimedBy {claimant : String}
    (h : e.meant? known = some c) (hc : claims.get? c.uuid = some claimant) :
    e.resolve known claims = (.alreadyClaimed claimant, claims) := by
  rw [resolve, h]
  simp only [hc]

/-- Another holder of the id of an entry is named. -/
theorem resolve_of_heldBy {holder : Consumer}
    (h : e.meant? known = some c) (hc : claims.get? c.uuid = none)
    (hheld : known.withHypervisorId? e.hypervisorId = some holder) (hne : holder.uuid ≠ c.uuid) :
    e.resolve known claims = (.identityTaken holder.uuid, claims) := by
  have hfilter : (some holder).filter (fun d => d.uuid != c.uuid) = some holder := by
    simpa using hne
  rw [resolve, h]
  simp only [hc, hheld, hfilter]

/-- A host that was claimed before is not given out again. -/
theorem resolve_of_claimed (h : e.meant? known = some c) (hc : claims.contains c.uuid = true) :
    ∃ claimant, e.resolve known claims = (.alreadyClaimed claimant, claims) := by
  obtain ⟨claimant, hclaimant⟩ := Dict.contains_iff.mp hc
  exact ⟨claimant, resolve_of_claimedBy h hclaimant⟩

/-- Nor is a host given out whose new id another one has. -/
theorem resolve_of_taken (h : e.meant? known = some c) (hc : claims.contains c.uuid = false)
    (hid : ¬ e.IdFree known c) :
    ∃ holder, e.resolve known claims = (.identityTaken holder, claims) := by
  have hget : claims.get? c.uuid = none := by simpa [Dict.contains] using hc
  obtain ⟨holder, hheld, hne⟩ := not_forall₂.mp hid
  exact ⟨holder.uuid, resolve_of_heldBy h hget hheld hne⟩

/-- Otherwise the entry gets the host and claims it. -/
theorem resolve_of_free (h : e.meant? known = some c) (hc : claims.contains c.uuid = false)
    (hid : e.IdFree known c) :
    e.resolve known claims = (.existing c, claims.insert c.uuid e.hostKey) := by
  have hget : claims.get? c.uuid = none := by simpa [Dict.contains] using hc
  rw [resolve, h]
  simp only [hget, idFree_iff.mp hid]

end HostEntry

/-- What the decision about an entry says of the known hosts. -/
def Decision.Justified (known : KnownHosts) (e : HostEntry) : Decision → Prop
  | .existing c => e.meant? known = some c ∧ e.IdFree known c
  | .missing => e.meant? known = none
  | _ => ∃ c, e.meant? known = some c

/-- Matched consumers have not been claimed, and the consumer is claimed from then on. -/
theorem HostEntry.resolve_cases (e : HostEntry) (known : KnownHosts) (claims : Claims) :
    (e.resolve known claims).1.Justified known e ∧
      ((e.resolve known claims).2 = claims ∧ (∀ c, (e.resolve known claims).1 ≠ .existing c) ∨
        ∃ c, (e.resolve known claims).1 = .existing c ∧ claims.contains c.uuid = false ∧
          (e.resolve known claims).2 = claims.insert c.uuid e.hostKey) := by
  cases h : e.meant? known with
  | none =>
    rw [resolve_of_none h]
    exact ⟨h, Or.inl ⟨rfl, fun _ hc => by cases hc⟩⟩
  | some c =>
    cases hc : claims.contains c.uuid with
    | true =>
      obtain ⟨claimant, hres⟩ := resolve_of_claimed h hc
      rw [hres]
      exact ⟨⟨c, h⟩, Or.inl ⟨rfl, fun _ hc => by cases hc⟩⟩
    | false =>
      by_cases hid : e.IdFree known c
      · rw [resolve_of_free h hc hid]
        exact ⟨⟨h, hid⟩, Or.inr ⟨c, rfl, hc, rfl⟩⟩
      · obtain ⟨holder, hres⟩ := resolve_of_taken h hc hid
        rw [hres]
        exact ⟨⟨c, h⟩, Or.inl ⟨rfl, fun _ hc => by cases hc⟩⟩

/-- The first entry decides before the others, which find what it has claimed. -/
theorem decisions_cons (known : KnownHosts) (claims : Claims) (e : HostEntry)
    (rest : List HostEntry) :
    decisions known claims (e :: rest) =
      (e.resolve known claims).1 :: decisions known (e.resolve known claims).2 rest := rfl

/-- Every entry gets its own decision. -/
theorem forall₂_decisions (known : KnownHosts) (claims : Claims) (es : List HostEntry) :
    List.Forall₂ (fun e d => d.Justified known e) es (decisions known claims es) := by
  induction es generalizing claims with
  | nil => exact .nil
  | cons e rest ih => exact .cons (e.resolve_cases known claims).1 (ih _)

@[simp] theorem length_decisions (known : KnownHosts) (claims : Claims) (es : List HostEntry) :
    (decisions known claims es).length = es.length :=
  (forall₂_decisions known claims es).length_eq.symm

/-- Consumers that are matched were not claimed before. -/
theorem unclaimed_of_mem_decisions {known : KnownHosts} {claims : Claims} {es : List HostEntry}
    {c : Consumer} (h : .existing c ∈ decisions known claims es) :
    claims.contains c.uuid = false := by
  induction es generalizing claims with
  | nil => simp [decisions] at h
  | cons e rest ih =>
    rw [decisions_cons, List.mem_cons] at h
    rcases (e.resolve_cases known claims).2 with ⟨hclaims, hne⟩ | ⟨d, hd, hfree, hclaims⟩
    · rcases h with h | h
      · exact absurd h.symm (hne c)
      · exact hclaims ▸ ih h
    · rcases h with h | h
      · rw [hd] at h
        cases h
        exact hfree
      · have hlater := ih h
        rw [hclaims, Dict.contains_insert, Bool.or_eq_false_iff] at hlater
        exact hlater.2

/-- No consumer is matched twice. -/
theorem pairwise_decisions (known : KnownHosts) (claims : Claims) (es : List HostEntry) :
    (decisions known claims es).Pairwise fun d d' =>
      ∀ c c', d = .existing c → d' = .existing c' → c.uuid ≠ c'.uuid := by
  induction es generalizing claims with
  | nil => exact .nil
  | cons e rest ih =>
    rw [decisions_cons]
    refine List.pairwise_cons.mpr ⟨fun d' hd' c c' hc hc' huuid => ?_, ih _⟩
    rcases (e.resolve_cases known claims).2 with ⟨_, hne⟩ | ⟨d, hd, _, hclaims⟩
    · exact hne c hc
    · rw [hd] at hc
      cases hc
      have hlater := unclaimed_of_mem_decisions (hc' ▸ hd')
      rw [hclaims, Dict.contains_insert, huuid] at hlater
      simp at hlater

/-- Entries that mean different consumers under free ids are all matched. -/
theorem decisions_eq_map_existing {known : KnownHosts} {claims : Claims} {es : List HostEntry}
    {cs : List Consumer}
    (h : List.Forall₂ (fun e c => e.meant? known = some c ∧ e.IdFree known c) es cs)
    (hclaims : ∀ c ∈ cs, claims.contains c.uuid = false)
    (hdistinct : cs.Pairwise fun c c' => c.uuid ≠ c'.uuid) :
    decisions known claims es = cs.map .existing := by
  induction h generalizing claims with
  | nil => rfl
  | @cons e c es cs hc _ ih =>
    obtain ⟨hne, hdistinct⟩ := List.pairwise_cons.mp hdistinct
    rw [decisions_cons, HostEntry.resolve_of_free hc.1 (hclaims c List.mem_cons_self) hc.2,
      List.map_cons, ih (fun c' hc' => ?_) hdistinct]
    rw [Dict.contains_insert, hclaims c' (List.mem_cons_of_mem _ hc'), Bool.or_false]
    exact decide_eq_false (hne c' hc')

/-- A consumer that an entry means is one of the known hosts. -/
theorem HostEntry.mem_of_meant? {e : HostEntry} {cs : List Consumer} {c : Consumer}
    (h : e.meant? (.ofList cs) = some c) : c ∈ cs := by
  rw [meant?, Option.or_eq_some_iff] at h
  rcases h with h | ⟨_, h⟩
  · obtain ⟨u, _, hc⟩ := Option.bind_eq_some_iff.mp h
    exact KnownHosts.mem_of_withSystemUuid? hc
  · exact KnownHosts.mem_of_withHypervisorId? h

end HostRoster
