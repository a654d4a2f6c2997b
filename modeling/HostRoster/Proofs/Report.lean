import HostRoster.Proofs.Identity
import HostRoster.Proofs.KeyedList
import HostRoster.Report.Entry

/-!
# Entries of a report

Whatever a report repeats, its entries have different hypervisor ids, which are canonical and are
the lower-case forms of their host keys, and the guests of an entry differ in more than spelling.
-/

namespace HostRoster

/-- Texts differ in more than spelling. -/
def Unlike (l : List String) : Prop := l.Pairwise fun g g' => Text.lower g ≠ Text.lower g'

/-- Of a blank text nothing is left. -/
theorem trimmed?_eq (s : String) :
    trimmed? s = if Text.isBlank s then none else some (Text.trim s) := by
  simp only [trimmed?, String.isEmpty_iff, Text.trim_eq_empty_iff]

namespace HostEntry

/-- An entry that was made from a host of a report. -/
structure Clean (e : HostEntry) : Prop where
  /-- The canonical id is the lower-case form of the host key. -/
  lower_hostKey : Text.lower e.hostKey = e.hypervisorId
  /-- It is canonical. -/
  canonical_hypervisorId : canonical e.hypervisorId = e.hypervisorId
  /-- It is not blank. -/
  isBlank_hypervisorId : Text.isBlank e.hypervisorId = false
  /-- Each guest is listed once. -/
  guests : Unlike e.guests
  /-- No guest is blank or has white space at its ends. -/
  trimmed : ∀ g ∈ e.guests, Text.isBlank g = false ∧ Text.trim g = g

/-- What is left of a text is trimmed and not blank. -/
theorem trimmed?_eq_some {s t : String} (h : trimmed? s = some t) :
    Text.isBlank t = false ∧ Text.trim t = t := by
  rw [trimmed?_eq] at h
  obtain ⟨hblank, ht⟩ := Option.ite_none_left_eq_some.mp h
  obtain rfl := Option.some.inj ht
  rw [Text.isBlank_trim, Text.trim_trim]
  exact ⟨eq_false_of_ne_true hblank, rfl⟩

/-- Guest ids of an entry are trimmed and not blank. -/
theorem trimmed_of_mem_guestIds {guests : Option (List (Option ReportedId))} {g : String}
    (hg : g ∈ guestIds guests) : Text.isBlank g = false ∧ Text.trim g = g := by
  obtain ⟨k, hk⟩ := KeyedList.mem_of_mem_contents_ofPairs hg
  obtain ⟨g', hg', heq⟩ := List.mem_map.mp hk
  cases heq
  obtain ⟨raw, _, hraw⟩ := List.mem_filterMap.mp hg'
  obtain ⟨text, _, htext⟩ := Option.bind_eq_some_iff.mp hraw
  exact trimmed?_eq_some htext

/-- No guest is twice in an entry. -/
theorem unlike_guestIds (guests : Option (List (Option ReportedId))) :
    Unlike (guestIds guests) := by
  refine KeyedList.pairwise_contents_ofPairs fun e he => ?_
  obtain ⟨g, _, rfl⟩ := List.mem_map.mp he
  rfl

/-- The entry that is made of a reported host is clean. -/
theorem clean_of_ofHost? {h : ReportedHost} {e : HostEntry} (he : ofHost? h = some e) :
    e.Clean := by
  obtain ⟨key, hkey, rfl⟩ := Option.map_eq_some_iff.mp he
  obtain ⟨raw, _, hraw⟩ := Option.bind_eq_some_iff.mp hkey
  obtain ⟨hblank, htrim⟩ := trimmed?_eq_some hraw
  have hlower : canonical key = Text.lower key := by rw [canonical, htrim]
  refine ⟨hlower.symm, canonical_canonical key, ?_, unlike_guestIds _,
    fun g hg => trimmed_of_mem_guestIds hg⟩
  rw [hlower, Text.isBlank_lower, hblank]

/-- The keys of an entry are made from the reported id. -/
theorem keys_of_ofHost? {h : ReportedHost} {e : HostEntry} (he : ofHost? h = some e) :
    ∃ raw, h.rawId? = some raw ∧ e.hostKey = Text.trim raw ∧ e.hypervisorId = canonical raw := by
  obtain ⟨key, hkey, rfl⟩ := Option.map_eq_some_iff.mp he
  obtain ⟨raw, hreported, hraw⟩ := Option.bind_eq_some_iff.mp hkey
  rw [trimmed?_eq] at hraw
  obtain rfl := Option.some.inj (Option.ite_none_left_eq_some.mp hraw).2
  exact ⟨raw, hreported, rfl, canonical_trim raw⟩

/-- A host with an id that is not blank comes to an entry. -/
theorem exists_ofHost? {h : ReportedHost} {raw : String} (hraw : h.rawId? = some raw)
    (hblank : Text.isBlank raw = false) : ∃ e, ofHost? h = some e := by
  rw [ofHost?, hraw, Option.bind_some, trimmed?_eq, hblank]
  exact ⟨_, rfl⟩

end HostEntry

/-- Entries that were made from the hosts of one report. -/
structure CleanEntries (es : List HostEntry) : Prop where
  /-- Each is clean. -/
  clean : ∀ e ∈ es, e.Clean
  /-- No two have one hypervisor id. -/
  distinct : es.Pairwise fun e e' => e.hypervisorId ≠ e'.hypervisorId

/-- The host keys in lower case are the ids. -/
theorem CleanEntries.map_lower_hostKey {es : List HostEntry} (hes : CleanEntries es) :
    (es.map HostEntry.hostKey).map Text.lower = es.map HostEntry.hypervisorId := by
  rw [List.map_map]
  exact List.map_congr_left fun e he => (hes.clean e he).lower_hostKey

/-- So the host keys differ in more than spelling. -/
theorem CleanEntries.unlike_hostKeys {es : List HostEntry} (hes : CleanEntries es) :
    Unlike (es.map HostEntry.hostKey) := by
  rw [Unlike, ← List.pairwise_map, hes.map_lower_hostKey, List.pairwise_map]
  exact hes.distinct

namespace Report

/-- Every entry of a report is made of one of its hosts. -/
theorem exists_of_mem_entries {r : Report} {e : HostEntry} (he : e ∈ r.entries) :
    ∃ h ∈ r.hosts, HostEntry.ofHost? h = some e := by
  obtain ⟨k, hk⟩ := KeyedList.mem_of_mem_contents_ofPairs he
  obtain ⟨e', he', heq⟩ := List.mem_map.mp hk
  cases heq
  exact List.mem_filterMap.mp he'

/-- So all entries of a report are clean. -/
theorem clean_of_mem_entries {r : Report} {e : HostEntry} (he : e ∈ r.entries) : e.Clean := by
  obtain ⟨h, _, hh⟩ := exists_of_mem_entries he
  exact HostEntry.clean_of_ofHost? hh

/-- The ids of the entries are those of the hosts that come to one, each once. -/
theorem ids_entries (r : Report) :
    r.entries.map HostEntry.hypervisorId =
      ((r.hosts.filterMap HostEntry.ofHost?).map HostEntry.hypervisorId).eraseDups := by
  rw [entries, KeyedList.contents_ofPairs_map, Lists.map_lastOfEach]

/-- No two entries have one id. -/
theorem pairwise_entries (r : Report) :
    r.entries.Pairwise fun e e' => e.hypervisorId ≠ e'.hypervisorId := by
  refine KeyedList.pairwise_contents_ofPairs fun e he => ?_
  obtain ⟨e', _, rfl⟩ := List.mem_map.mp he
  rfl

/-- The entries of a report are clean, with distinct ids. -/
theorem cleanEntries (r : Report) : CleanEntries r.entries :=
  ⟨fun _ he => clean_of_mem_entries he, r.pairwise_entries⟩

end Report

end HostRoster
