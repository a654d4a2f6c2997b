import HostRoster.Proofs.Matching
import HostRoster.Proofs.Report

/-!
# Consumers of one machine

Two hosts that report the uuid of one machine are two consumers with that uuid, and a look-up by it
finds the consumer that was added last. The other one is then refused to its own entry, although it
has both the id and the machine's uuid that the entry reports: the entry means the last consumer,
under an id that the other one holds.
-/

namespace HostRoster

open KnownHosts (Unambiguous)

/-- The last consumer of a list that has the uuid of a machine, in whatever spelling. -/
def lastOfMachine? (cs : List Consumer) (systemUuid : String) : Option Consumer :=
  cs.findRev? fun c => c.systemUuid?.map Text.lower == some (Text.lower systemUuid)

variable {cs : List Consumer} {e : HostEntry} {c : Consumer} {u : String}

/-- Where a consumer has the uuid of a machine, some consumer is the last one. -/
theorem exists_lastOfMachine? (hc : c ∈ cs)
    (hmachine : c.systemUuid?.map Text.lower = some (Text.lower u)) :
    ∃ last ∈ cs, lastOfMachine? cs u = some last := by
  obtain ⟨last, hlast⟩ := Lists.exists_isLast
    (p := fun c => (c.systemUuid?.map Text.lower == some (Text.lower u)) = true) hc
    (beq_iff_eq.mpr hmachine)
  exact ⟨last, hlast.mem, Lists.findRev?_eq_some_iff.mpr hlast⟩

namespace HostEntry

/-- An entry with a machine means the last consumer of the machine. -/
theorem meant?_eq_some_of_lastOfMachine? (h : Unambiguous cs) (hu : e.systemUuid? = some u)
    (hlast : lastOfMachine? cs u = some c) : e.meant? (.ofList cs) = some c := by
  have hfound : (KnownHosts.ofList cs).withSystemUuid? u = some c :=
    (KnownHosts.withSystemUuid?_eq_findRev? h.distinct).trans hlast
  rw [meant?, hu, Option.bind_some, hfound, Option.some_or]

/-- What becomes of an entry whose id and whose machine's uuid one consumer has. The last consumer
of the machine is meant. If it is claimed, its claimant is named. Otherwise it is matched if it is
the one consumer that has the id, and if it is another one, the entry is refused because of the
consumer that has the id. -/
theorem resolve_agreeing (h : Unambiguous cs) {r : Report} (he : e ∈ r.entries)
    (hu : e.systemUuid? = some u) (hc : c ∈ cs) (hid : c.hypervisorId? = some e.hypervisorId)
    (hmachine : c.systemUuid?.map Text.lower = some (Text.lower u)) (claims : Claims) :
    ∃ last, lastOfMachine? cs u = some last ∧
      (e.resolve (.ofList cs) claims).1 =
        match claims.get? last.uuid with
        | some claimant => .alreadyClaimed claimant
        | none => if last = c then .existing c else .identityTaken c.uuid := by
  obtain ⟨last, hlast, hfound⟩ := exists_lastOfMachine? hc hmachine
  refine ⟨last, hfound, ?_⟩
  have hmeant := meant?_eq_some_of_lastOfMachine? h hu hfound
  have hheld : (KnownHosts.ofList cs).withHypervisorId? e.hypervisorId = some c := by
    refine h.withHypervisorId?_eq_some_iff.mpr ⟨hc, ?_⟩
    rw [(Report.clean_of_mem_entries he).canonical_hypervisorId, hid]
  cases hclaim : claims.get? last.uuid with
  | some claimant => rw [resolve_of_claimedBy hmeant hclaim]
  | none =>
    by_cases heq : last = c
    · subst heq
      have hfree : e.IdFree (.ofList cs) last := fun holder hholder =>
        congrArg Consumer.uuid (Option.some.inj (hholder.symm.trans hheld))
      have hunclaimed : claims.contains last.uuid = false := by rw [Dict.contains, hclaim]; rfl
      rw [resolve_of_free hmeant hunclaimed hfree]
      exact (if_pos rfl).symm
    · have hne : c.uuid ≠ last.uuid := fun huuid => heq (h.distinct last hlast c hc huuid.symm)
      rw [resolve_of_heldBy hmeant hclaim hheld hne]
      exact (if_neg heq).symm

/-- One of several hosts that report the uuid of one machine. -/
def twin (uuid id : String) : Consumer :=
  ⟨some uuid, uuid, uuid, "owner", .hypervisor, some ⟨id, none⟩, [],
    Dict.empty.insert systemUuidFact "S", none⟩

/-- Of two hosts of one machine the later one is matched with its entry, and the earlier one is
refused to its own. -/
theorem resolve_agreeing_twins :
    let cs := [twin "x" "a", twin "y" "b"]
    let report : Report :=
      ⟨[(ReportedHost.withId "A").withFact systemUuidFact "s",
        (ReportedHost.withId "b").withFact systemUuidFact "S"]⟩
    let e : HostEntry := ⟨"A", "a", "A", [], some (Dict.empty.insert systemUuidFact "s")⟩
    let e' : HostEntry := ⟨"b", "b", "b", [], some (Dict.empty.insert systemUuidFact "S")⟩
    Unambiguous cs ∧ report.entries = [e, e'] ∧
      (e.resolve (.ofList cs) .empty).1 = .identityTaken "x" ∧
      (e'.resolve (.ofList cs) .empty).1 = .existing (twin "y" "b") := by
  intro cs report e e'
  have hcs : Unambiguous cs := ⟨by decide +kernel, by decide +kernel⟩
  have hentries : report.entries = [e, e'] := by decide +kernel
  have he : e ∈ report.entries := by simp [hentries]
  have he' : e' ∈ report.entries := by simp [hentries]
  obtain ⟨last, hlast, hfirst⟩ :=
    resolve_agreeing (u := "s") hcs he (by decide +kernel) List.mem_cons_self rfl
      (by decide +kernel) .empty
  obtain ⟨last', hlast', hsecond⟩ :=
    resolve_agreeing (u := "S") hcs he' (by decide +kernel)
      (List.mem_cons_of_mem _ List.mem_cons_self) rfl (by decide +kernel) .empty
  have hx : lastOfMachine? cs "s" = some (twin "y" "b") := by decide +kernel
  have hy : lastOfMachine? cs "S" = some (twin "y" "b") := by decide +kernel
  cases hx.symm.trans hlast
  cases hy.symm.trans hlast'
  exact ⟨hcs, hentries, hfirst, hsecond⟩

/-- A consumer that has the id and the machine's uuid of an entry, and that nothing has claimed, may
be refused to the entry: another consumer of the machine was added later. -/
theorem exists_agreeing_refused :
    ∃ (cs : List Consumer) (r : Report) (e : HostEntry) (u : String) (c : Consumer),
      Unambiguous cs ∧ e ∈ r.entries ∧ e.systemUuid? = some u ∧ c ∈ cs ∧
        c.hypervisorId? = some e.hypervisorId ∧
        c.systemUuid?.map Text.lower = some (Text.lower u) ∧
        (e.resolve (.ofList cs) .empty).1 = .identityTaken c.uuid :=
  ⟨[twin "x" "a", twin "y" "b"], ⟨[(ReportedHost.withId "a").withFact systemUuidFact "S"]⟩,
    ⟨"a", "a", "a", [], some (Dict.empty.insert systemUuidFact "S")⟩, "S", twin "x" "a",
    ⟨by decide +kernel, by decide +kernel⟩, by decide +kernel, by decide +kernel,
    List.mem_cons_self, rfl, rfl, by decide +kernel⟩

end HostEntry

end HostRoster
