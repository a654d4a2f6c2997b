import HostRoster.Proofs.Report
import HostRoster.Proofs.Row

/-!
# What the entries of a report are

The entries are what a report says when it is read as a whole: of the hosts with an id that is not
blank, the last one for each canonical id, and of the guests of such a host, the last spelling of
each. They can also be collected one host after the other into a row, by the places of the ids, and
no place is ever missing.
-/

namespace HostRoster

namespace Report

/-- The ids in a list of guests that are there and not blank, without white space at their ends. -/
def guestsWithIds : List (Option ReportedId) → List String
  | [] => []
  | none :: rest => guestsWithIds rest
  | some ⟨none⟩ :: rest => guestsWithIds rest
  | some ⟨some id⟩ :: rest =>
    if Text.isBlank id then guestsWithIds rest else Text.trim id :: guestsWithIds rest

/-- The last spelling of each guest of a host. -/
def lastGuests : Option (List (Option ReportedId)) → List String
  | none => []
  | some guests => Lists.lastOfEach Text.lower (guestsWithIds guests)

/-- The hosts with an id that is there and not blank, each with its id. -/
def hostsWithIds : List ReportedHost → List (String × ReportedHost)
  | [] => []
  | h :: rest =>
    match h.id with
    | none => hostsWithIds rest
    | some ⟨none⟩ => hostsWithIds rest
    | some ⟨some id⟩ => if Text.isBlank id then hostsWithIds rest else (id, h) :: hostsWithIds rest

/-- What a host with an id comes to. -/
def entryOf (id : String) (h : ReportedHost) : HostEntry where
  hostKey := Text.trim id
  hypervisorId := canonical id
  name :=
    match h.name with
    | none => Text.trim id
    | some name => if Text.isBlank name then Text.trim id else Text.trim name
  guests := lastGuests h.guests
  facts := h.facts

/-- What the last host for each canonical id comes to. -/
def lastHosts (r : Report) : List HostEntry :=
  (Lists.lastOfEach (fun h => canonical h.1) (hostsWithIds r.hosts)).map fun h => entryOf h.1 h.2

/-- The guests that are kept are those with ids. -/
theorem filterMap_guests (guests : List (Option ReportedId)) :
    (guests.filterMap fun g => (g.bind (·.text)).bind trimmed?) = guestsWithIds guests := by
  induction guests with
  | nil => rfl
  | cons g rest ih =>
    match g with
    | none => exact ih
    | some ⟨none⟩ => exact ih
    | some ⟨some id⟩ =>
      rw [List.filterMap_cons, Option.bind_some, Option.bind_some, trimmed?_eq, guestsWithIds, ih]
      cases Text.isBlank id <;> rfl

/-- The guest ids of an entry are the last spellings of all guests with ids. -/
theorem guestIds_eq (guests : Option (List (Option ReportedId))) :
    HostEntry.guestIds guests = lastGuests guests := by
  rw [HostEntry.guestIds, filterMap_guests, KeyedList.contents_ofPairs_map]
  cases guests <;> rfl

theorem name_eq (h : ReportedHost) (id : String) :
    (h.name.bind trimmed?).getD (Text.trim id) = (entryOf id h).name := by
  rw [entryOf]
  cases h.name with
  | none => rfl
  | some name =>
    cases hblank : Text.isBlank name <;> simp [trimmed?_eq, hblank]

/-- A host with an id that is not blank is kept, and no other one. -/
theorem ofHost?_eq (h : ReportedHost) :
    HostEntry.ofHost? h = (h.rawId?.bind Text.nonBlank?).map fun id => entryOf id h := by
  rw [HostEntry.ofHost?]
  cases hid : h.rawId? with
  | none => rfl
  | some id =>
    rw [Option.bind_some, Option.bind_some, trimmed?_eq, Text.nonBlank?]
    cases hblank : Text.isBlank id with
    | true => rfl
    | false =>
      simp only [Bool.false_eq_true, if_false, Option.map_some, guestIds_eq, name_eq]
      rw [canonical, Text.trim_trim]
      rfl

/-- The entries of hosts are those of the hosts with ids. -/
theorem filterMap_ofHost? (hosts : List ReportedHost) :
    hosts.filterMap HostEntry.ofHost? = (hostsWithIds hosts).map fun h => entryOf h.1 h.2 := by
  induction hosts with
  | nil => rfl
  | cons h rest ih =>
    rw [List.filterMap_cons, ofHost?_eq, ReportedHost.rawId?, hostsWithIds, ih]
    match h.id with
    | none => rfl
    | some ⟨none⟩ => rfl
    | some ⟨some id⟩ => cases hblank : Text.isBlank id <;> simp [Text.nonBlank?, hblank]

end Report

/-- The guests of a host, collected one after the other. -/
def ReportedHost.guestRow? (h : ReportedHost) : Option (Row String) :=
  (h.guests.getD []).foldlM
    (fun row g =>
      match (g.bind (·.text)).bind trimmed? with
      | none => some row
      | some id => row.put? (Text.lower id) id)
    .empty

/-- The hosts of a report, collected one after the other, each with its guests. -/
def Report.hostRow? (r : Report) : Option (Row HostEntry) :=
  r.hosts.foldlM
    (fun row h =>
      match h.rawId?.bind trimmed? with
      | none => some row
      | some key =>
        h.guestRow?.bind fun guests =>
          row.put? (canonical key)
            { hostKey := key
              hypervisorId := canonical key
              name := (h.name.bind trimmed?).getD key
              guests := guests.contents
              facts := h.facts })
    .empty

/-- The places of guests lead to the guest ids of the entry. -/
theorem ReportedHost.contents_guestRow? (h : ReportedHost) :
    h.guestRow?.map (·.contents) = some (HostEntry.guestIds h.guests) := by
  rw [HostEntry.guestIds, ← Row.contents_ofPairs?, Row.ofPairs?, List.foldlM_map,
    List.foldlM_filterMap, guestRow?]
  congr 2
  funext row g
  cases (g.bind (·.text)).bind trimmed? <;> rfl

/-- The places of hosts lead to the entries of the report. -/
theorem Report.contents_hostRow? (r : Report) :
    r.hostRow?.map (·.contents) = some r.entries := by
  rw [Report.entries, ← Row.contents_ofPairs?, Row.ofPairs?, List.foldlM_map,
    List.foldlM_filterMap, Report.hostRow?]
  congr 2
  funext row h
  obtain ⟨guests, hguests, hcontents⟩ := Option.map_eq_some_iff.mp h.contents_guestRow?
  rw [HostEntry.ofHost?, hguests]
  cases h.rawId?.bind trimmed? with
  | none => rfl
  | some key => simp only [Option.bind_some, Option.map_some, hcontents]

/-- Collecting a report never misses a place. What it comes to are the last hosts for each canonical
id, whose ids are those of the hosts with an id, each once in the order of their first mention. -/
theorem Report.entries_eq_lastHosts (r : Report) :
    r.hostRow?.map (·.contents) = some r.entries ∧ r.entries = r.lastHosts ∧
      r.entries.map (·.hypervisorId) =
        ((hostsWithIds r.hosts).map fun h => canonical h.1).eraseDups := by
  have hentries : r.entries = Lists.lastOfEach HostEntry.hypervisorId
      ((hostsWithIds r.hosts).map fun h => entryOf h.1 h.2) := by
    rw [entries, KeyedList.contents_ofPairs_map, filterMap_ofHost?]
  refine ⟨r.contents_hostRow?, ?_, ?_⟩
  · rw [hentries, Lists.lastOfEach_map]
    rfl
  · rw [hentries, Lists.map_lastOfEach, List.map_map]
    rfl

example :
    (Report.mk [(ReportedHost.withId "HOST 1").withGuests ["a"], .withId "host 2", .withId " ",
      (ReportedHost.withId "host 1 ").withGuests ["b", "c", "", " B"]]).lastHosts =
      [⟨"host 1", "host 1", "host 1", ["B", "c"], none⟩,
        ⟨"host 2", "host 2", "host 2", [], none⟩] := by
  decide +kernel

end HostRoster
