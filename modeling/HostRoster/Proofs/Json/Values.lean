import HostRoster.Proofs.Json.Reading
import HostRoster.Proofs.KeyedList
import HostRoster.Proofs.Lists

/-!
# Values of drafts

A draft denotes a value if its parts do. The members of an object denote members in the order of the
text, in which a name may be repeated; the value holds each name once.
-/

namespace HostRoster.Json

/-- Drafts that denote values, of at most so many levels. -/
abbrev ItemsDenote (depth : Nat) : List Draft → List Value → Prop :=
  List.Forall₂ fun d v => d.value? depth = some v

/-- Drafts with their names that denote named values, of at most so many levels. -/
abbrev MembersDenote (depth : Nat) :
    List (Option String × Draft) → List (String × Value) → Prop :=
  List.Forall₂ fun d m => d.1 = some m.1 ∧ d.2.value? depth = some m.2

variable {depth : Nat} {v : Value}

/-- The items of an array have values exactly if each of them denotes one. -/
theorem itemValues?_eq_some_iff {items : List Draft} {values : List Value} :
    itemValues? depth items = some values ↔ ItemsDenote depth items values := by
  induction items generalizing values with
  | nil =>
    rw [itemValues?, ItemsDenote, List.forall₂_nil_left_iff, Option.some.injEq]
    exact eq_comm
  | cons d items ih =>
    rw [itemValues?, ItemsDenote, List.forall₂_cons_left_iff]
    cases hd : d.value? depth with
    | none => exact ⟨fun h => (by cases h), fun ⟨_, _, h, _⟩ => (by cases h)⟩
    | some w =>
      simp only [Option.bind_eq_bind, Option.bind_some, Option.bind_eq_some_iff, Option.some.injEq]
      constructor
      · rintro ⟨rest, hrest, rfl⟩
        exact ⟨w, rest, rfl, ih.mp hrest, rfl⟩
      · rintro ⟨_, rest, rfl, hrest, rfl⟩
        exact ⟨rest, ih.mpr hrest, rfl⟩

/-- The members of an object have values exactly if each of them denotes one; of several with one
name the last one counts. -/
theorem memberValues?_eq_some_iff {drafts : List (Option String × Draft)}
    {done members : List (String × Value)} :
    memberValues? depth drafts done = some members ↔
      ∃ l, MembersDenote depth drafts l ∧
        members = l.foldl (fun done m => KeyedList.put m.1 m.2 done) done := by
  induction drafts generalizing done with
  | nil =>
    rw [memberValues?, Option.some.injEq]
    constructor
    · rintro rfl
      exact ⟨[], .nil, rfl⟩
    · rintro ⟨_, ⟨⟩, rfl⟩
      rfl
  | cons d drafts ih =>
    obtain ⟨name, d⟩ := d
    rw [memberValues?]
    cases name with
    | none => exact ⟨fun h => (by cases h), fun ⟨_, .cons h _, _⟩ => (by cases h.1)⟩
    | some name =>
      cases hd : d.value? depth with
      | none =>
        refine ⟨fun h => (by cases h), fun ⟨_, .cons h _, _⟩ => ?_⟩
        rw [hd] at h
        cases h.2
      | some w =>
        simp only [Option.bind_eq_bind, Option.bind_some]
        rw [ih]
        constructor
        · rintro ⟨l, hl, rfl⟩
          exact ⟨(name, w) :: l, .cons ⟨rfl, hd⟩ hl, rfl⟩
        · rintro ⟨_, hcons, rfl⟩
          cases hcons with
          | @cons _ m _ l hm hl =>
            obtain ⟨name', w'⟩ := m
            obtain ⟨hname, hw⟩ := hm
            cases hname
            obtain rfl := Option.some.inj (hd.symm.trans hw)
            exact ⟨l, hl, rfl⟩

/-- How a draft denotes a value of at most so many levels. -/
inductive Draft.Denotes : Nat → Draft → Value → Prop where
  /-- The literal `null`. -/
  | null {depth : Nat} : Denotes depth .null .null
  /-- A truth value. -/
  | bool {depth : Nat} (b : Bool) : Denotes depth (.bool b) (.bool b)
  /-- A number that is not too large. -/
  | number {depth : Nat} (n : Number) : Denotes depth (.number (some n)) (.number n)
  /-- A text without malformed content. -/
  | string {depth : Nat} (s : String) : Denotes depth (.string (some s)) (.string s)
  /-- A list with its closing bracket. -/
  | array {depth : Nat} {items : List Draft} {values : List Value}
    (h : ItemsDenote depth items values) : Denotes (depth + 1) (.array items true) (.array values)
  /-- Members with the closing brace behind them; a name that is repeated has its last value in its
  first place. -/
  | object {depth : Nat} {drafts : List (Option String × Draft)} {members : List (String × Value)}
    (h : MembersDenote depth drafts members) :
    Denotes (depth + 1) (.object drafts true) (.object (KeyedList.ofPairs members))

/-- The value that is found for a draft is one that it denotes. -/
theorem denotes_of_value? {d : Draft} (h : d.value? depth = some v) : d.Denotes depth v := by
  cases d with
  | broken => cases h
  | null =>
    cases h
    exact .null
  | bool b =>
    cases h
    exact .bool b
  | number n =>
    obtain ⟨n, rfl, rfl⟩ := Option.map_eq_some_iff.mp h
    exact .number n
  | string s =>
    obtain ⟨s, rfl, rfl⟩ := Option.map_eq_some_iff.mp h
    exact .string s
  | array items closed =>
    cases depth with
    | zero => cases h
    | succ n =>
      rw [Draft.value?, Option.ite_none_right_eq_some] at h
      obtain ⟨rfl, h⟩ := h
      obtain ⟨values, hvalues, rfl⟩ := Option.map_eq_some_iff.mp h
      exact .array (itemValues?_eq_some_iff.mp hvalues)
  | object drafts closed =>
    cases depth with
    | zero => cases h
    | succ n =>
      rw [Draft.value?, Option.ite_none_right_eq_some] at h
      obtain ⟨rfl, h⟩ := h
      obtain ⟨members, hmembers, rfl⟩ := Option.map_eq_some_iff.mp h
      obtain ⟨l, hl, rfl⟩ := memberValues?_eq_some_iff.mp hmembers
      exact .object hl

/-- A value that a draft denotes is found for it. -/
theorem value?_of_denotes {d : Draft} (h : d.Denotes depth v) : d.value? depth = some v := by
  cases h with
  | array h => rw [Draft.value?, if_pos rfl, itemValues?_eq_some_iff.mpr h, Option.map_some]
  | object h =>
    rw [Draft.value?, if_pos rfl, memberValues?_eq_some_iff.mpr ⟨_, h, rfl⟩, Option.map_some]
    rfl
  | _ => rfl

/-- The drafts of items are made one by one. -/
theorem itemDrafts_eq_map (values : List Value) : itemDrafts values = values.map Value.draft := by
  induction values with
  | nil => rfl
  | cons v values ih => rw [itemDrafts, ih, List.map_cons]

theorem memberDrafts_eq_map (members : List (String × Value)) :
    memberDrafts members = members.map fun m => (some m.1, m.2.draft) := by
  induction members with
  | nil => rfl
  | cons m members ih => rw [memberDrafts, ih, List.map_cons]

mutual

/-- The draft of a value has no fault. -/
theorem isWhole_draft : ∀ v : Value, v.draft.isWhole = true
  | .null | .bool _ | .number _ | .string _ => rfl
  | .array items => by
    rw [Value.draft, Draft.isWhole, allWhole_itemDrafts items]
    rfl
  | .object members => by
    rw [Value.draft, Draft.isWhole, allMembersWhole_memberDrafts members]
    rfl

theorem allWhole_itemDrafts : ∀ values : List Value, allWhole (itemDrafts values) = true
  | [] => rfl
  | v :: rest => by
    rw [itemDrafts, allWhole, isWhole_draft v, allWhole_itemDrafts rest]
    rfl

theorem allMembersWhole_memberDrafts :
    ∀ members : List (String × Value), allMembersWhole (memberDrafts members) = true
  | [] => rfl
  | (_, v) :: rest => by
    rw [memberDrafts, allMembersWhole, isWhole_draft v, allMembersWhole_memberDrafts rest]
    rfl

end

/-- A text that is an object with these members, in the order of the text. -/
def IsObject (text : String) (members : List (String × Value)) : Prop :=
  ∃ drafts, read text = ⟨.object drafts true, true⟩ ∧ MembersDenote (maxDepth - 1) drafts members

/-- A text denotes an object if it is one, each name with its last value in its first place. -/
theorem parse?_eq_some_object_iff {text : String} {members : List (String × Value)} :
    parse? text = some (.object members) ↔
      ∃ l, IsObject text l ∧ members = KeyedList.ofPairs l := by
  rw [parse?, Document.value?]
  constructor
  · intro h
    obtain ⟨halone, hroot⟩ := Option.ite_none_right_eq_some.mp h
    rcases hread : read text with ⟨root, alone⟩
    rw [hread] at halone hroot
    obtain rfl : alone = true := halone
    cases denotes_of_value? hroot with
    | object hl => exact ⟨_, ⟨_, hread, hl⟩, rfl⟩
  · rintro ⟨l, ⟨drafts, hread, hl⟩, rfl⟩
    rw [hread]
    exact value?_of_denotes (.object hl)

/-- Names that do not repeat are kept as they are. -/
theorem IsObject.parse? {text : String} {members : List (String × Value)}
    (h : IsObject text members) (hnames : (KeyedList.names members).Nodup) :
    Json.parse? text = some (.object members) :=
  parse?_eq_some_object_iff.mpr ⟨members, h, (KeyedList.ofPairs_of_nodup hnames).symm⟩

/-- A value that is read back from what is written of it: without numbers, with each name once in an
object, and of at most so many levels. -/
inductive Value.Readable : Nat → Value → Prop where
  /-- The literal `null`. -/
  | null {depth : Nat} : Readable depth .null
  /-- A truth value. -/
  | bool {depth : Nat} (b : Bool) : Readable depth (.bool b)
  /-- A text. -/
  | string {depth : Nat} (s : String) : Readable depth (.string s)
  /-- A list of such values of one level less. -/
  | array {depth : Nat} {items : List Value} (h : ∀ v ∈ items, v.Readable depth) :
    Readable (depth + 1) (.array items)
  /-- Such values of one level less, with names that do not repeat. -/
  | object {depth : Nat} {members : List (String × Value)}
    (hnames : (KeyedList.names members).Nodup) (h : ∀ m ∈ members, m.2.Readable depth) :
    Readable (depth + 1) (.object members)

namespace Value.Readable

/-- What can be read back has no numbers in it. -/
theorem numberless (h : v.Readable depth) : v.Numberless := by
  induction h with
  | null => exact .null
  | bool b => exact .bool b
  | string s => exact .string s
  | array _ ih => exact .array ih
  | object _ _ ih => exact .object ih

/-- The draft of a value that can be read back denotes this value. -/
theorem value?_draft (h : v.Readable depth) : v.draft.value? depth = some v := by
  refine value?_of_denotes ?_
  induction h with
  | null => exact .null
  | bool b => exact .bool b
  | string s => exact .string s
  | array _ ih =>
    refine .array ?_
    rw [itemDrafts_eq_map, ItemsDenote, List.forall₂_map_left_iff, List.forall₂_same]
    exact fun v hv => value?_of_denotes (ih v hv)
  | @object depth members hnames _ ih =>
    have hmembers : MembersDenote depth (memberDrafts members) members := by
      rw [memberDrafts_eq_map, MembersDenote, List.forall₂_map_left_iff, List.forall₂_same]
      exact fun m hm => ⟨rfl, value?_of_denotes (ih m hm)⟩
    have hobject := Draft.Denotes.object hmembers
    rwa [KeyedList.ofPairs_of_nodup hnames] at hobject

/-- A value that can be read back is parsed from its text on one line. -/
theorem parse?_compactText (h : v.Readable maxDepth) : parse? v.compactText = some v := by
  rw [parse?, read_compactText h.numberless, Document.value?, if_pos rfl]
  exact h.value?_draft

end Value.Readable

end HostRoster.Json
