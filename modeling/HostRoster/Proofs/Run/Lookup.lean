import HostRoster.Proofs.Run.Clashes
import Mathlib.Data.List.Find

/-!
# One look-up for all entries

A run loads the hosts that any entry of the report mentions, by its hypervisor id or by the uuid of
the machine, and matches all entries with them. Nothing is missed by that: of the hosts with the id
or the uuid of an entry all are loaded, in the order of the store, so the last one of them is found
as it would be found among all hosts of the owner.
-/

namespace HostRoster

/-- Under a key that only chosen consumers have, the last of them is the last of all. -/
theorem get?_keyedUuids_filter {key : Consumer → Option String} {chosen : Consumer → Bool}
    {k : String} {cs : List Consumer} (h : ∀ c ∈ cs, key c = some k → chosen c = true) :
    (Dict.ofList (keyedUuids key (cs.filter chosen))).get? k =
      (Dict.ofList (keyedUuids key cs)).get? k := by
  have hlast : ∀ c ∈ cs.reverse,
      decide (chosen c = true ∧ (key c == some k) = true) = (key c == some k) := fun c hc => by
    cases hkey : key c == some k with
    | true => simp [h c (List.mem_reverse.mp hc) (beq_iff_eq.mp hkey)]
    | false => simp
  rw [get?_keyedUuids, get?_keyedUuids, List.findRev?_eq_find?_reverse,
    List.findRev?_eq_find?_reverse, ← List.filter_reverse, List.find?_filter,
    List.find?_congr hlast]

namespace KnownHosts

variable {chosen : Consumer → Bool} {cs : List Consumer}

theorem Distinct.filter (hd : Distinct cs) (chosen : Consumer → Bool) :
    Distinct (cs.filter chosen) :=
  fun c hc c' hc' => hd c (List.mem_of_mem_filter hc) c' (List.mem_of_mem_filter hc')

/-- A look-up by a key that only chosen hosts have finds the same among them as among all. -/
theorem index_filter (hd : Distinct cs) (key : Consumer → Option String) {k : String}
    (h : ∀ c ∈ cs, key c = some k → chosen c = true) :
    ((Dict.ofList (keyedUuids key (cs.filter chosen))).get? k).bind
        (ofList (cs.filter chosen)).get? =
      ((Dict.ofList (keyedUuids key cs)).get? k).bind (ofList cs).get? := by
  rw [← get?_keyedUuids_filter h]
  cases hfound : (Dict.ofList (keyedUuids key (cs.filter chosen))).get? k with
  | none => rfl
  | some u =>
    obtain ⟨c, hc, _, rfl⟩ := mem_keyedUuids.mp (Dict.mem_of_get?_ofList hfound)
    rw [Option.bind_some, Option.bind_some, get?_ofList (hd.filter chosen) hc,
      get?_ofList hd (List.mem_of_mem_filter hc)]

/-- Leaving out consumers with other ids does not change what is found by an id. -/
theorem withHypervisorId?_filter (hd : Distinct cs) {raw : String}
    (h : ∀ c ∈ cs, c.hypervisorId? = some (canonical raw) → chosen c = true) :
    (ofList (cs.filter chosen)).withHypervisorId? raw = (ofList cs).withHypervisorId? raw := by
  rw [withHypervisorId?_ofList, withHypervisorId?_ofList, index_filter hd _ h]

/-- Nor what is found by the uuid of a machine. -/
theorem withSystemUuid?_filter (hd : Distinct cs) {raw : String}
    (h : ∀ c ∈ cs, c.systemUuid?.map Text.lower = some (Text.lower raw) → chosen c = true) :
    (ofList (cs.filter chosen)).withSystemUuid? raw = (ofList cs).withSystemUuid? raw := by
  rw [withSystemUuid?_ofList, withSystemUuid?_ofList,
    index_filter hd (fun c => c.systemUuid?.map Text.lower) h]

end KnownHosts

/-- Two sets of known hosts in which an entry means the same consumer and its id has the same
holder. -/
structure HostEntry.SeenAlike (e : HostEntry) (known known' : KnownHosts) : Prop where
  /-- The same consumer is meant. -/
  meant : e.meant? known = e.meant? known'
  /-- The same consumer holds the id. -/
  holder : known.withHypervisorId? e.hypervisorId = known'.withHypervisorId? e.hypervisorId

/-- An entry that sees the same in both decides the same. -/
theorem HostEntry.SeenAlike.resolve_eq {e : HostEntry} {known known' : KnownHosts}
    (h : e.SeenAlike known known') (claims : Claims) :
    e.resolve known claims = e.resolve known' claims := by
  rw [resolve, resolve, h.meant, h.holder]

/-- Decisions depend on nothing else. -/
theorem decisions_congr {known known' : KnownHosts} {es : List HostEntry}
    (h : ∀ e ∈ es, e.SeenAlike known known') (claims : Claims) :
    decisions known claims es = decisions known' claims es := by
  induction es generalizing claims with
  | nil => rfl
  | cons e rest ih =>
    rw [decisions_cons, decisions_cons, (h e List.mem_cons_self).resolve_eq,
      ih fun e' he' => h e' (List.mem_cons_of_mem _ he')]

namespace Transaction

variable {t : Transaction} {k : String} {es : List HostEntry} {e : HostEntry} {c : Consumer}

/-- The hypervisors of an owner, by their ids in the store. -/
def hypervisors (t : Transaction) (ownerKey : String) : List Consumer :=
  (t.ownedBy ownerKey).filter (·.isHypervisor)

/-- The hosts that are loaded are the hypervisors that entries mention. -/
theorem mentioned_eq_filter (t : Transaction) (k : String) (es : List HostEntry) :
    t.mentioned k es =
      (t.hypervisors k).filter fun c => isWanted c (reportedIds es) (reportedSystemUuids es) := by
  rw [mentioned, hypervisors, List.filter_filter]
  exact List.filter_congr fun _ _ => Bool.and_comm _ _

/-- A consumer with a reported id is looked up. -/
theorem isWanted_of_hypervisorId? (he : e ∈ es) (h : c.hypervisorId? = some e.hypervisorId) :
    isWanted c (reportedIds es) (reportedSystemUuids es) = true := by
  have hreported : (reportedIds es).contains e.hypervisorId = true :=
    Keys.contains_ofList.mpr (List.mem_map_of_mem he)
  rw [isWanted, h, Option.any_some, hreported, Bool.true_or]

theorem isWanted_of_systemUuid? (he : e ∈ es) {u : String} (hu : e.systemUuid? = some u)
    (h : c.systemUuid?.map Text.lower = some (Text.lower u)) :
    isWanted c (reportedIds es) (reportedSystemUuids es) = true := by
  have hreported : (reportedSystemUuids es).contains (Text.lower u) = true :=
    Keys.contains_ofList.mpr (List.mem_map_of_mem (List.mem_filterMap.mpr ⟨e, he, hu⟩))
  obtain ⟨v, hv, hlower⟩ := Option.map_eq_some_iff.mp h
  rw [isWanted, hv, Option.any_some, hlower, hreported, Bool.or_true]

/-- What an entry finds among the hosts that are loaded for all entries, it finds among all hosts of
the owner. -/
theorem seenAlike_mentioned (hd : KnownHosts.Distinct (t.hypervisors k)) (he : e ∈ es)
    (hclean : e.Clean) :
    e.SeenAlike (.ofList (t.mentioned k es)) (.ofList (t.hypervisors k)) := by
  have hwanted : ∀ c ∈ t.hypervisors k, c.hypervisorId? = some (canonical e.hypervisorId) →
      isWanted c (reportedIds es) (reportedSystemUuids es) = true := by
    intro c _ hc
    rw [hclean.canonical_hypervisorId] at hc
    exact isWanted_of_hypervisorId? he hc
  rw [mentioned_eq_filter]
  have hholder := KnownHosts.withHypervisorId?_filter hd hwanted
  refine ⟨?_, hholder⟩
  rw [HostEntry.meant?, HostEntry.meant?, hholder]
  cases hu : e.systemUuid? with
  | none => rfl
  | some u =>
    rw [Option.bind_some, Option.bind_some,
      KnownHosts.withSystemUuid?_filter hd fun c _ hc => isWanted_of_systemUuid? he hu hc]

/-- One look-up for all entries is enough. As long as no two hypervisors of an owner have one uuid,
matching entries with the hosts that are loaded for them comes, entry by entry, to the same
decisions as matching them with all hypervisors of the owner, whichever hosts share hypervisor ids
or the uuids of machines. -/
theorem decisions_hostConsumers (t : Transaction) (ownerKey : String)
    (hd : KnownHosts.Distinct (t.hypervisors ownerKey)) {es : List HostEntry}
    (hes : ∀ e ∈ es, e.Clean) (claims : Claims) :
    decisions (t.hostConsumers ownerKey (reportedIds es) (reportedSystemUuids es)) claims es =
      decisions (.ofList (t.hypervisors ownerKey)) claims es :=
  decisions_congr (fun e he => seenAlike_mentioned hd he (hes e he)) claims

/-- Of four hosts two share an id and two the uuid of a machine, and one is not loaded. The first
entry means the later machine, under the id that the later one of the others holds. -/
theorem decisions_hostConsumers_shared :
    let host (i h m : String) : Consumer :=
      ⟨some i, i, h, "a", .hypervisor, some ⟨h, none⟩, [], Dict.empty.insert systemUuidFact m, none⟩
    let t : Transaction :=
      .start { Registry.empty.addOwner (.named "a") with
        consumers := .ofList ([host "1" "x" "K", host "2" "x" "L", host "3" "y" "k",
          host "4" "z" "M"].map fun c => (c.uuid, c)) } .none .given
    let report : Report :=
      ⟨[(ReportedHost.withId "X ").withFact systemUuidFact "k", .withId "w",
        (ReportedHost.withId "v").withFact systemUuidFact "K"]⟩
    let es := report.entries
    let loaded := t.hostConsumers "a" (reportedIds es) (reportedSystemUuids es)
    let all := KnownHosts.ofList (t.hypervisors "a")
    loaded.size = 3 ∧ all.size = 4 ∧
      decisions loaded .empty es = decisions all .empty es ∧
      decisions all .empty es = [.identityTaken "2", .missing, .existing (host "3" "y" "k")] := by
  intro host t report es loaded all
  have hd : KnownHosts.Distinct (t.hypervisors "a") := by
    unfold KnownHosts.Distinct
    decide +kernel
  exact ⟨by decide +kernel, by decide +kernel,
    t.decisions_hostConsumers "a" hd (fun _ he => Report.clean_of_mem_entries he) .empty,
    by decide +kernel⟩

end Transaction

end HostRoster
