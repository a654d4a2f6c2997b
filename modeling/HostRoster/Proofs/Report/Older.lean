import HostRoster.Proofs.Report.Direct

/-!
# Reports of the older form

A report of the older form is accepted exactly if each member is a list of guests, and the first
member that is none, with the first item in it that is no guest, is the error. An accepted report is
the same as the report of the newer form with the same hosts.
-/

namespace HostRoster.Report

open Json Answers

/-- An item that may stand in a list of guests. -/
inductive IsGuest : Value → Prop where
  /-- A guest that is left out. -/
  | null : IsGuest .null
  /-- The id of a guest. -/
  | text (id : String) : IsGuest (.string id)

/-- A value that may stand behind the name of a host. -/
inductive IsGuestList : Value → Prop where
  /-- A list that is not given. -/
  | null : IsGuestList .null
  /-- A list of guests. -/
  | array {items : List Value} (h : ∀ v ∈ items, IsGuest v) : IsGuestList (.array items)

/-- The id of a guest that is not left out. -/
def guestId? : Value → Option String
  | .string id => some id
  | _ => none

/-- The ids in a list of guests, if it is given. -/
def guestIds? : Value → Option (List String)
  | .array items => some (items.filterMap guestId?)
  | _ => none

/-- The hosts that members name, with the ids of their guests. -/
def hostsOf (members : List (String × Value)) : List (String × Option (List String)) :=
  members.map fun m => (m.1, guestIds? m.2)

/-- What is wrong with the value behind the name of a host. -/
inductive Offence (host : String) : Value → ReportError → Prop where
  /-- It is neither `null` nor an array. -/
  | notList {v : Value} (hnull : v ≠ .null) (harray : ∀ items, v ≠ .array items) :
    Offence host v (.guestsNotList host v)
  /-- It is an array, in which this is the first item that is no guest. -/
  | notText {before after : List Value} {v : Value} (hbefore : ∀ w ∈ before, IsGuest w)
    (hv : ¬IsGuest v) : Offence host (.array (before ++ v :: after)) (.guestNotText host v)

/-- What is wrong with the first member that is no list of guests. -/
inductive FirstOffence : List (String × Value) → ReportError → Prop where
  /-- The members before it are lists of guests. -/
  | intro {before after : List (String × Value)} {host : String} {v : Value} {e : ReportError}
    (hbefore : ∀ m ∈ before, IsGuestList m.2) (h : Offence host v e) :
    FirstOffence (before ++ (host, v) :: after) e

variable {host : String} {items : List Value} {members : List (String × Value)}
  {hosts : List (String × Option (List String))} {v : Value} {e : ReportError}

/-- The first item that is no guest is an offence. -/
theorem guestTexts_cons_of_not_isGuest (h : ¬IsGuest v) :
    guestTexts host (v :: items) = .error (.guestNotText host v) := by
  cases v with
  | null => exact absurd .null h
  | string id => exact absurd (.text id) h
  | _ => rfl

/-- Guests in front of other items are read first. -/
theorem guestTexts_append {before : List Value} (h : ∀ v ∈ before, IsGuest v) :
    guestTexts host (before ++ items) =
      (guestTexts host items).map (before.filterMap guestId? ++ ·) := by
  induction before with
  | nil =>
    rw [List.nil_append]
    cases guestTexts host items <;> rfl
  | cons v before ih =>
    obtain ⟨hv, hbefore⟩ := List.forall_mem_cons.mp h
    cases hv with
    | null => exact ih hbefore
    | text id =>
      rw [List.cons_append, guestTexts, ih hbefore]
      cases guestTexts host items <;> rfl

/-- Guests are taken in their order, and the empty ones are left out. -/
theorem guestTexts_of_isGuest (h : ∀ v ∈ items, IsGuest v) :
    guestTexts host items = .ok (items.filterMap guestId?) := by
  have happend : guestTexts host (items ++ []) = _ := guestTexts_append h
  rwa [List.append_nil, guestTexts, Except.map, List.append_nil] at happend

/-- A list of items is one of guests, or there is a first item that is no guest. -/
theorem isGuest_or_first (items : List Value) :
    (∀ v ∈ items, IsGuest v) ∨
      ∃ before v after, items = before ++ v :: after ∧ (∀ w ∈ before, IsGuest w) ∧ ¬IsGuest v := by
  induction items with
  | nil => exact Or.inl (by simp)
  | cons v items ih =>
    by_cases hv : IsGuest v
    · rcases ih with hall | ⟨before, w, after, rfl, hbefore, hw⟩
      · exact Or.inl (List.forall_mem_cons.mpr ⟨hv, hall⟩)
      · exact Or.inr ⟨v :: before, w, after, rfl, List.forall_mem_cons.mpr ⟨hv, hbefore⟩, hw⟩
    · exact Or.inr ⟨[], v, items, rfl, by simp, hv⟩

theorem hostOfMember_array (host : String) (items : List Value) :
    hostOfMember (host, .array items) = (guestTexts host items).map fun l => (host, some l) := rfl

/-- A member with a list of guests is a host with these guests. -/
theorem hostOfMember_of_isGuestList (h : IsGuestList v) :
    hostOfMember (host, v) = .ok (host, guestIds? v) := by
  cases h with
  | null => rfl
  | array hitems =>
    rw [hostOfMember_array, guestTexts_of_isGuest hitems]
    rfl

/-- A member with an offence is refused for it. -/
theorem hostOfMember_of_offence (h : Offence host v e) : hostOfMember (host, v) = .error e := by
  cases h with
  | notList hnull harray =>
    unfold hostOfMember
    split
    · next hv => exact absurd hv hnull
    · next hv => exact absurd hv (harray _)
    · rfl
  | notText hbefore hv =>
    rw [hostOfMember_array, guestTexts_append hbefore, guestTexts_cons_of_not_isGuest hv]
    rfl

/-- Every value is a list of guests or an offence. -/
theorem isGuestList_or_offence (host : String) (v : Value) :
    IsGuestList v ∨ ∃ e, Offence host v e := by
  cases v with
  | null => exact Or.inl .null
  | array items =>
    rcases isGuest_or_first items with hall | ⟨before, v, after, rfl, hbefore, hv⟩
    · exact Or.inl (.array hall)
    · exact Or.inr ⟨_, .notText hbefore hv⟩
  | _ => exact Or.inr ⟨_, .notList (by simp) (by simp)⟩

/-- A member is a host exactly if its value is a list of guests. -/
theorem hostOfMember_eq_ok_iff {m : String × Value} {h : String × Option (List String)} :
    hostOfMember m = .ok h ↔ IsGuestList m.2 ∧ (m.1, guestIds? m.2) = h := by
  rcases isGuestList_or_offence m.1 m.2 with hlist | ⟨e, he⟩
  · rw [hostOfMember_of_isGuestList hlist, Except.ok.injEq]
    exact ⟨fun heq => ⟨hlist, heq⟩, And.right⟩
  · have herror := hostOfMember_of_offence he
    rw [herror]
    refine ⟨fun h => (by cases h), fun ⟨hlist, _⟩ => ?_⟩
    rw [hostOfMember_of_isGuestList hlist] at herror
    cases herror

/-- It is refused exactly for the offence of its value. -/
theorem hostOfMember_eq_error_iff {m : String × Value} :
    hostOfMember m = .error e ↔ Offence m.1 m.2 e := by
  refine ⟨fun h => ?_, hostOfMember_of_offence⟩
  rcases isGuestList_or_offence m.1 m.2 with hlist | ⟨e', he⟩
  · rw [hostOfMember_of_isGuestList hlist] at h
    cases h
  · rw [hostOfMember_of_offence he] at h
    cases h
    exact he

/-- Members are hosts if each of them is a list of guests. -/
theorem mapM_hostOfMember_eq_ok_iff :
    members.mapM hostOfMember = .ok hosts ↔
      (∀ m ∈ members, IsGuestList m.2) ∧ hostsOf members = hosts := by
  simp only [mapM_eq_ok_iff, hostOfMember_eq_ok_iff]
  rw [List.forall₂_and_left, List.forall₂_map_left_iff.symm, List.forall₂_eq_eq_eq]
  rfl

/-- Otherwise the first one that is none is the error. -/
theorem mapM_hostOfMember_eq_error_iff :
    members.mapM hostOfMember = .error e ↔ FirstOffence members e := by
  simp only [mapM_eq_error_iff, hostOfMember_eq_error_iff, hostOfMember_eq_ok_iff]
  constructor
  · rintro ⟨before, m, after, rfl, hbefore, h⟩
    exact .intro (fun m hm => (hbefore m hm).choose_spec.1) h
  · rintro ⟨hbefore, h⟩
    exact ⟨_, _, _, rfl, fun m hm => ⟨_, hbefore m hm, rfl⟩, h⟩

/-- The guests of a host in the newer form. -/
def newerGuests (guests : Option (List String)) : Value :=
  .orNull (guests.map fun ids => .array (ids.map fun id => .object [("guestId", .string id)]))

/-- A host in the newer form. -/
def newerHost (h : String × Option (List String)) : Value :=
  .object [("name", .string h.1), ("hypervisorId", .object [("hypervisorId", .string h.1)]),
    ("guestIds", newerGuests h.2)]

/-- Hosts in the newer form. -/
def newerForm (hosts : List (String × Option (List String))) : Value :=
  .object [(hostsMember, .array (hosts.map newerHost))]

/-- Guests in the newer form can be read back. -/
theorem readable_newerGuests (depth : Nat) (guests : Option (List String)) :
    (newerGuests guests).Readable (depth + 2) := by
  cases guests with
  | none => exact .null
  | some ids =>
    refine .array fun v hv => ?_
    obtain ⟨id, _, rfl⟩ := List.mem_map.mp hv
    exact .object (List.pairwise_singleton _ _) (List.forall_mem_singleton.mpr (.string id))

theorem readable_newerHost (depth : Nat) (h : String × Option (List String)) :
    (newerHost h).Readable (depth + 3) := by
  have hid : (Value.object [("hypervisorId", .string h.1)]).Readable (depth + 2) :=
    .object (List.pairwise_singleton _ _) (List.forall_mem_singleton.mpr (.string h.1))
  refine .object (by simp [KeyedList.names]) (List.forall_mem_cons.mpr ⟨.string h.1, ?_⟩)
  exact List.forall_mem_cons.mpr
    ⟨hid, List.forall_mem_singleton.mpr (readable_newerGuests depth h.2)⟩

/-- The newer form can be read back from its text. -/
theorem readable_newerForm (hosts : List (String × Option (List String))) :
    (newerForm hosts).Readable maxDepth := by
  refine .object (List.pairwise_singleton _ _) (List.forall_mem_singleton.mpr ?_)
  refine .array fun v hv => ?_
  obtain ⟨h, _, rfl⟩ := List.mem_map.mp hv
  exact readable_newerHost _ h

section decoding

open Decoder

/-- Guests in the newer form are decoded to the ids they were made from. -/
theorem decode_newerGuests (guests : Option (List String)) :
    option (list (option (Wire.reportedGuestId.decode .value))) (newerGuests guests).draft =
      .ok (guests.map ReportedId.list) := by
  have hguest (id : String) : option (Wire.reportedGuestId.decode .value)
      (Value.object [("guestId", .string id)]).draft = .ok (some ⟨some id⟩) := rfl
  cases guests with
  | none => rfl
  | some ids => exact map_eq_ok_iff.mpr ⟨_, list_draft hguest ids, rfl⟩

theorem decode_newerHost (h : String × Option (List String)) :
    (Wire.reportedHost .value).decode .value (newerHost h).draft = .ok (.ofIds h.1 h.2) := by
  have hguests (state : ReportedHost) : (Wire.reportedHost .value).readMember
      (state, ["hypervisorId", "name"]) (some "guestIds", (newerGuests h.2).draft) =
        .ok ({ state with guests := h.2.map ReportedId.list },
          ["guestIds", "hypervisorId", "name"]) :=
    (RecordType.readMember_eq_ok_iff rfl).mpr
      ⟨by simp, _, map_eq_ok_iff.mpr ⟨_, decode_newerGuests h.2, rfl⟩, rfl⟩
  rw [newerHost, Value.draft, RecordType.decode, RecordType.ofMembers, bind_eq_ok_iff]
  refine ⟨(.ofIds h.1 h.2, ["guestIds", "hypervisorId", "name"]), ?_, rfl⟩
  exact bind_eq_ok_iff.mpr ⟨_, rfl, bind_eq_ok_iff.mpr ⟨_, rfl,
    bind_eq_ok_iff.mpr ⟨_, hguests _, rfl⟩⟩⟩

/-- A report in the newer form is decoded to the report of these hosts. -/
theorem decode_newerForm (hosts : List (String × Option (List String))) :
    (Wire.report .value).decode .value (newerForm hosts).draft = .ok (.ofIds hosts) := by
  have hhosts (state : Report) : (Wire.report .value).readMember (state, [])
      (some hostsMember, (Value.array (hosts.map newerHost)).draft) =
        .ok (.ofIds hosts, [hostsMember]) :=
    (RecordType.readMember_eq_ok_iff rfl).mpr
      ⟨by simp, _, map_eq_ok_iff.mpr ⟨_, list_draft decode_newerHost hosts, rfl⟩, rfl⟩
  rw [newerForm, Value.draft, RecordType.decode, RecordType.ofMembers, bind_eq_ok_iff]
  refine ⟨(.ofIds hosts, [hostsMember]), ?_, rfl⟩
  exact bind_eq_ok_iff.mpr ⟨_, hhosts _, rfl⟩

end decoding

/-- The newer form of hosts is accepted as the report of these hosts. -/
theorem parse_newerForm (hosts : List (String × Option (List String))) :
    parse (newerForm hosts).compactText = .ok (.ofIds hosts) := by
  have hwrapped : isWrapped [(hostsMember, .array (hosts.map newerHost))] = true := by
    refine (isWrapped_iff (by simp [KeyedList.names])).mpr ⟨_, List.mem_cons_self, fun v hv => ?_⟩
    obtain ⟨h, _, rfl⟩ := List.mem_map.mp hv
    rfl
  rw [parse_of_isWrapped (readable_newerForm hosts).parse?_compactText hwrapped, ← newerForm,
    decode_newerForm]
  rfl

/-- An object that is not in the newer form is read member by member. -/
theorem parse_of_not_isWrapped {text : String} (hvalue : Json.parse? text = some (.object members))
    (h : isWrapped members = false) : parse text = (members.mapM hostOfMember).map .ofIds := by
  unfold parse
  rw [hvalue]
  simp only [ofMembers, h, Bool.false_eq_true, if_false]

/-- An object with distinct names that has no array of objects for the hosts is accepted exactly if
all its members are lists of guests. It is then the report of its hosts in order, as is their newer
form; otherwise the first offence is the error. -/
theorem parse_older {text : String} (htext : IsObject text members)
    (hnames : (KeyedList.names members).Nodup)
    (hform : ¬∃ items, (hostsMember, .array items) ∈ members ∧ ∀ v ∈ items, v.isObject = true) :
    ((∃ report, parse text = .ok report) ↔ ∀ m ∈ members, IsGuestList m.2) ∧
    ((∀ m ∈ members, IsGuestList m.2) →
      parse text = .ok (.ofIds (hostsOf members)) ∧
        parse (newerForm (hostsOf members)).compactText = .ok (.ofIds (hostsOf members))) ∧
    ∀ e, parse text = .error e ↔ FirstOffence members e := by
  have hwrapped : isWrapped members = false := by
    rwa [← isWrapped_iff hnames, Bool.not_eq_true] at hform
  have hparse := parse_of_not_isWrapped (htext.parse? hnames) hwrapped
  have haccepted (hall : ∀ m ∈ members, IsGuestList m.2) :
      parse text = .ok (.ofIds (hostsOf members)) := by
    rw [hparse]
    exact map_eq_ok_iff.mpr ⟨_, mapM_hostOfMember_eq_ok_iff.mpr ⟨hall, rfl⟩, rfl⟩
  refine ⟨⟨?_, fun hall => ⟨_, haccepted hall⟩⟩,
    fun hall => ⟨haccepted hall, parse_newerForm _⟩, ?_⟩
  · rintro ⟨report, hreport⟩
    rw [hparse] at hreport
    obtain ⟨hosts, hhosts, _⟩ := map_eq_ok_iff.mp hreport
    exact (mapM_hostOfMember_eq_ok_iff.mp hhosts).1
  · intro e
    rw [hparse, map_eq_error_iff, mapM_hostOfMember_eq_error_iff]

/-- A host with the name of the member for the hosts, and a truth value among guests. -/
theorem parse_older_hypervisors :
    let named := "\x7b\"hypervisors\":[\"g\",null],\"h\":null\x7d"
    let faulty := "\x7b\"h\":null,\"i\":[\"g\",true]\x7d"
    let hosts := [("hypervisors", some ["g"]), ("h", none)]
    parse named = .ok (.ofIds hosts) ∧ parse (newerForm hosts).compactText = .ok (.ofIds hosts) ∧
      parse faulty = .error (.guestNotText "i" (.bool true)) := by
  intro named faulty hosts
  have hnamed : IsObject named [("hypervisors", .array [.string "g", .null]), ("h", .null)] :=
    ⟨[(some "hypervisors", .array [.string (some "g"), .null] true), (some "h", .null)], by cbv,
      .cons ⟨rfl, rfl⟩ (.cons ⟨rfl, rfl⟩ .nil)⟩
  have hfaulty : IsObject faulty [("h", .null), ("i", .array [.string "g", .bool true])] :=
    ⟨[(some "h", .null), (some "i", .array [.string (some "g"), .bool true] true)], by cbv,
      .cons ⟨rfl, rfl⟩ (.cons ⟨rfl, rfl⟩ .nil)⟩
  have hg : IsGuest (.string "g") := .text "g"
  have hlists : ∀ m ∈ [("hypervisors", Value.array [.string "g", .null]), ("h", .null)],
      IsGuestList m.2 := by
    refine List.forall_mem_cons.mpr ⟨.array ?_, List.forall_mem_singleton.mpr .null⟩
    exact List.forall_mem_cons.mpr ⟨hg, List.forall_mem_singleton.mpr .null⟩
  have hbool : ¬IsGuest (.bool true) := fun h => by cases h
  have hoffence : FirstOffence
      ([("h", .null)] ++ [("i", .array ([.string "g"] ++ [.bool true]))])
      (.guestNotText "i" (.bool true)) :=
    .intro (List.forall_mem_singleton.mpr .null)
      (.notText (List.forall_mem_singleton.mpr hg) hbool)
  obtain ⟨_, haccepted, _⟩ := parse_older hnamed (by decide) (by simp [hostsMember, Value.isObject])
  obtain ⟨_, _, hrejected⟩ := parse_older hfaulty (by decide) (by simp [hostsMember])
  exact ⟨(haccepted hlists).1, (haccepted hlists).2, (hrejected _).mpr hoffence⟩

end HostRoster.Report
