import HostRoster.Proofs.Json.Agreement
import HostRoster.Report.Text
import Mathlib

/-!
# Reports read straight from the text

A report in the newer form can be read straight from the text, or from the value of the text after
its form was looked at. The records of a report are made of fields that agree on the two ways, so a
report that is read from the text is the report that its value denotes.
-/

namespace HostRoster

open Json

namespace Wire

open Decoder

/-- Reported ids are read alike from texts and from values. -/
theorem follows_reportedHypervisorId : reportedHypervisorId.Follows reportedHypervisorId :=
  ⟨rfl, .cons (.of (follows_option follows_string) ..) .nil⟩

theorem follows_reportedGuestId : reportedGuestId.Follows reportedGuestId :=
  ⟨rfl, .cons (.of (follows_option follows_string) ..) .nil⟩

theorem follows_reportedHost (source source' : Source) :
    (reportedHost source).Follows (reportedHost source') := by
  have hid := follows_reportedHypervisorId.decode source source'
  have hguests := follows_list (follows_option (follows_reportedGuestId.decode source source'))
  refine ⟨rfl, ?_⟩
  exact .cons (.of (follows_option follows_string) ..)
    (.cons (.of (follows_option hid) ..)
      (.cons (.of (follows_option hguests) ..)
        (.cons (.of (follows_option (follows_dict follows_string)) ..) .nil)))

theorem follows_report (source source' : Source) : (report source).Follows (report source') := by
  have hhost := (follows_reportedHost source source').decode source source'
  exact ⟨rfl, .cons (.of (follows_list hhost) ..) .nil⟩

end Wire

namespace Report

variable {text : String} {members : KeyedList Value} {items : List Value} {report : Report}

/-- An object is in the newer form exactly if its member for the hosts is an array of objects. -/
theorem isWrapped_iff (hnames : (KeyedList.names members).Nodup) :
    isWrapped members = true ↔
      ∃ items, (hostsMember, .array items) ∈ members ∧ ∀ v ∈ items, v.isObject = true := by
  simp only [← KeyedList.find?_eq_some_iff hnames]
  unfold isWrapped
  split
  · next items hitems =>
    rw [hitems, List.all_eq_true]
    constructor
    · exact fun hall => ⟨items, rfl, hall⟩
    · rintro ⟨_, ⟨⟩, hall⟩
      exact hall
  · next hother =>
    constructor
    · exact fun h => (by cases h)
    · rintro ⟨items, hitems, _⟩
      exact absurd hitems (hother items)

/-- The names of the object that a text denotes do not repeat. -/
theorem nodup_names_of_parse? (h : Json.parse? text = some (.object members)) :
    (KeyedList.names members).Nodup := by
  obtain ⟨l, _, rfl⟩ := parse?_eq_some_object_iff.mp h
  exact KeyedList.nodup_names_ofPairs l

/-- A text with a list of hypervisors is decoded from its value. -/
theorem parse_of_isWrapped (hvalue : Json.parse? text = some (.object members))
    (hwrapped : isWrapped members = true) :
    parse text =
      ((Wire.report .value).decode .value (Value.object members).draft).mapError .malformed := by
  unfold parse
  rw [hvalue]
  simp only [ofMembers, hwrapped, if_true]

/-- A text in the newer form that denotes a value, and from which a report can be read directly, is
accepted with that report. -/
theorem parse_of_parseWrapped (hvalue : Json.parse? text = some (.object members))
    (hhosts : (hostsMember, .array items) ∈ members)
    (hobjects : ∀ v ∈ items, v.isObject = true) (hdirect : parseWrapped text = .ok report) :
    parse text = .ok report := by
  have hwrapped := (isWrapped_iff (nodup_names_of_parse? hvalue)).mpr ⟨items, hhosts, hobjects⟩
  rw [parse_of_isWrapped hvalue hwrapped]
  -- The root of the text denotes the value, so what the one decoder reads the other one reads too.
  have hroot : (Json.read text).root.Denotes maxDepth (.object members) := by
    rw [Json.parse?, Document.value?] at hvalue
    exact denotes_of_value? (Option.ite_none_right_eq_some.mp hvalue).2
  have hreport := (Document.decode_eq_ok_iff.mp hdirect).1
  rw [(Wire.follows_report .value .text).decode .value .text hroot hreport]
  rfl

set_option maxRecDepth 8000 in
/-- Facts and unknown names that are repeated, ids given as arrays, and a guest that is `null`. -/
theorem parse_of_parseWrapped_repeated :
    let text := "\x7b\"hypervisors\":[\x7b\"up\":[],\"hypervisorId\":[\"h\"],\"up\":null," ++
      "\"guestIds\":[[],null],\"facts\":\x7b\"k\":\"1\",\"k\":\"2\"\x7d\x7d]\x7d"
    let host : ReportedHost :=
      ⟨none, some ⟨some "h"⟩, some [some ⟨none⟩, none], some (.ofList [("k", "2")])⟩
    parseWrapped text = .ok ⟨[host]⟩ ∧ parse text = .ok ⟨[host]⟩ := by
  intro text host
  have hvalue : Json.parse? text = some (.object [("hypervisors", .array [.object
      [("up", .null), ("hypervisorId", .array [.string "h"]),
        ("guestIds", .array [.array [], .null]), ("facts", .object [("k", .string "2")])]])]) := by
    cbv
  have hdirect : parseWrapped text = .ok ⟨[host]⟩ := by decide +kernel
  exact ⟨hdirect, parse_of_parseWrapped hvalue (.head _)
    (fun v hv => by rw [List.mem_singleton.mp hv]; rfl) hdirect⟩

end Report

end HostRoster
