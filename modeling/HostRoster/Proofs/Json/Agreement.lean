import HostRoster.Proofs.Answers
import HostRoster.Proofs.Json.Decoding
import HostRoster.Proofs.Json.Values

/-!
# Decoding a text and decoding its value

A value keeps less than its text: a repeated name has lost all but its last value, and what stands
behind a fault is not there at all. What a decoder accepts in the text comes out of the value all
the same. The fields of a record are not repeated where it is accepted, other names do not matter,
and of the entries of a dictionary the last one of each name counts in both.
-/

namespace HostRoster.Json

open Answers

/-- Whatever the other decoder reads from a draft that denotes a value, this one reads from the
value. -/
def Decoder.Follows {α : Type} (decode decode' : Decoder α) : Prop :=
  ∀ ⦃depth : Nat⦄ ⦃d : Draft⦄ ⦃v : Value⦄ ⦃a : α⦄, d.Denotes depth v → decode' d = .ok a →
    decode v.draft = .ok a

namespace Decoder

variable {α : Type} {item item' : Decoder α} {depth : Nat}

/-- Texts are read alike from both kinds of drafts. -/
theorem follows_string : string.Follows string := by
  intro depth d v a hv hd
  cases hv with
  | string s => exact hd
  | _ => cases hd

theorem follows_option (h : item.Follows item') : (option item).Follows (option item') := by
  intro depth d v a hv hd
  have hsome (hnull : d ≠ .null) (hnull' : v.draft ≠ .null) : option item v.draft = .ok a := by
    rw [option_of_ne_null hnull, map_eq_ok_iff] at hd
    obtain ⟨b, hb, rfl⟩ := hd
    rw [option_of_ne_null hnull', h hv hb]
    rfl
  cases hv with
  | null => exact hd
  | _ => exact hsome (by simp) (by simp [Value.draft])

/-- Items are decoded one by one. -/
theorem mapM_itemDrafts (h : item.Follows item') {items : List Draft} {values : List Value}
    (hvalues : ItemsDenote depth items values) {l : List α} (hl : items.mapM item' = .ok l) :
    (itemDrafts values).mapM item = .ok l := by
  rw [mapM_eq_ok_iff] at hl
  rw [itemDrafts_eq_map, mapM_eq_ok_iff, List.forall₂_map_left_iff]
  induction hvalues generalizing l with
  | nil =>
    cases hl
    exact .nil
  | cons hv _ ih =>
    cases hl with
    | cons hd hrest => exact .cons (h (denotes_of_value? hv) hd) (ih hrest)

theorem follows_list (h : item.Follows item') : (list item).Follows (list item') := by
  intro depth d v a hv hd
  cases hv with
  | array hvalues =>
    rw [list, bind_eq_ok_iff] at hd
    obtain ⟨l, hl, hclosed⟩ := hd
    rw [Value.draft, list, bind_eq_ok_iff]
    exact ⟨l, mapM_itemDrafts h hvalues hl, hclosed⟩
  | _ => cases hd

/-- So are the entries of a dictionary, a repeated name included. -/
theorem alike_of_mapM_entry (h : item.Follows item') {drafts : List (Option String × Draft)}
    {members : List (String × Value)} (hmembers : MembersDenote depth drafts members)
    {l : List (String × α)} (hl : drafts.mapM (entry item') = .ok l) :
    KeyedList.Alike (fun v a => item v.draft = .ok a) members l := by
  rw [mapM_eq_ok_iff] at hl
  induction hmembers generalizing l with
  | nil =>
    cases hl
    exact .nil
  | @cons d m drafts members hm _ ih =>
    cases hl with
    | cons he hrest =>
      refine .cons ?_ (ih hrest)
      obtain ⟨hname, hv⟩ := hm
      rw [entry, hname] at he
      obtain ⟨a, ha, rfl⟩ := map_eq_ok_iff.mp he
      exact ⟨rfl, h (denotes_of_value? hv) ha⟩

/-- The members of an object are read one by one if all their values can be. -/
theorem mapM_entry_memberDrafts {members : List (String × Value)} {l : List (String × α)}
    (h : KeyedList.Alike (fun v a => item v.draft = .ok a) members l) :
    (memberDrafts members).mapM (entry item) = .ok l := by
  rw [memberDrafts_eq_map, mapM_eq_ok_iff, List.forall₂_map_left_iff]
  refine h.imp fun m e he => ?_
  obtain ⟨name, v⟩ := m
  obtain ⟨rfl, hv⟩ := he
  exact map_eq_ok_iff.mpr ⟨e.2, hv, rfl⟩

theorem follows_dict (h : item.Follows item') : (dict item).Follows (dict item') := by
  intro depth d v a hv hd
  cases hv with
  | object hmembers =>
    rw [dict, bind_eq_ok_iff] at hd
    obtain ⟨l, hl, hclosed⟩ := hd
    have halike := KeyedList.alike_ofPairs (alike_of_mapM_entry h hmembers hl)
    rw [Value.draft, dict, bind_eq_ok_iff]
    refine ⟨_, mapM_entry_memberDrafts halike, ?_⟩
    rw [KeyedList.ofList_ofPairs]
    exact hclosed
  | _ => cases hd

end Decoder

/-- A field that reads from a value what another one reads from a draft that denotes it. -/
structure Field.Follows {α : Type} (f f' : Field α) : Prop where
  /-- They have one name. -/
  name : f.name = f'.name
  /-- They may be absent in the same places. -/
  presence : f.presence = f'.presence
  /-- They read the same. -/
  read : ∀ {depth : Nat} {d : Draft} {v : Value} {a b : α}, d.Denotes depth v →
    f'.read d a = .ok b → f.read v.draft a = .ok b

/-- A field follows another one with the same name if its decoder does. -/
theorem Field.Follows.of {α β : Type} {decode decode' : Decoder β} (h : decode.Follows decode')
    (name : String) (presence : Presence) (store : α → β → α) :
    (Field.of name presence decode store).Follows (.of name presence decode' store) := by
  refine ⟨rfl, rfl, fun hv hread => ?_⟩
  obtain ⟨c, hc, rfl⟩ := map_eq_ok_iff.mp hread
  exact map_eq_ok_iff.mpr ⟨c, h hv hc, rfl⟩

namespace RecordType

variable {α : Type} {r r' : RecordType α} {state state' : α × List String} {name : String}
  {members : List (String × Value)} {depth : Nat}

/-- The field with a name, if the record has one. -/
def field? (r : RecordType α) (name : String) : Option (Field α) :=
  r.fields.find? fun f => f.name == name

/-- A member that is no field is passed over. -/
theorem readMember_of_unknown (h : r.field? name = none) {d : Draft} (hwhole : d.isWhole = true) :
    r.readMember state (some name, d) = .ok state := by
  unfold field? at h
  simp only [readMember, h, hwhole, if_true]

/-- A member that no field is named after changes nothing. -/
theorem eq_of_readMember_of_unknown (h : r.field? name = none) {d : Draft}
    (hread : r.readMember state (some name, d) = .ok state') : state' = state := by
  unfold field? at h
  simp only [readMember, h] at hread
  split at hread
  · exact (Except.ok.inj hread).symm
  · cases hread

/-- A member that is a field is read as such and remembered, if it was not before. -/
theorem readMember_eq_ok_iff {f : Field α} (h : r.field? name = some f) {d : Draft} :
    r.readMember state (some name, d) = .ok state' ↔
      name ∉ state.2 ∧ ∃ a, f.read d state.1 = .ok a ∧ (a, name :: state.2) = state' := by
  unfold field? at h
  simp only [readMember, h]
  split
  · next hseen =>
    exact ⟨fun hread => (by cases hread), fun hnew => absurd (by simpa using hseen) hnew.1⟩
  · next hseen =>
    rw [map_eq_ok_iff]
    exact ⟨fun hread => ⟨by simpa using hseen, hread⟩, And.right⟩

/-- Reads members into a record, one after the other. -/
def readMembers (r : RecordType α) (state : α × List String) (members : List (String × Value)) :
    Except DecodeError (α × List String) :=
  (memberDrafts members).foldlM r.readMember state

/-- Members are read from the first to the last. -/
theorem readMembers_cons (m : String × Value) :
    r.readMembers state (m :: members) =
      r.readMember state (some m.1, m.2.draft) >>= fun state => r.readMembers state members :=
  rfl

/-- The last member is read after all others were. -/
theorem readMembers_concat_eq_ok_iff {m : String × Value} :
    r.readMembers state (members ++ [m]) = .ok state' ↔
      ∃ before, r.readMembers state members = .ok before ∧
        r.readMember before (some m.1, m.2.draft) = .ok state' := by
  rw [readMembers, memberDrafts_eq_map, List.map_append, List.foldlM_append, ← memberDrafts_eq_map,
    bind_eq_ok_iff]
  refine exists_congr fun before => and_congr_right fun _ => ?_
  rw [List.map_singleton, List.foldlM_cons, bind_eq_ok_iff]
  simp only [List.foldlM_nil]
  constructor
  · rintro ⟨_, hread, ⟨⟩⟩
    exact hread
  · exact fun hread => ⟨_, hread, rfl⟩

/-- The names of fields that occur among members have been read. -/
theorem mem_of_readMembers (h : r.readMembers state members = .ok state') {f : Field α}
    (hf : r.field? name = some f) (hname : name ∈ KeyedList.names members) : name ∈ state'.2 := by
  induction members using List.reverseRecOn generalizing state' with
  | nil => cases hname
  | append_singleton members m ih =>
    obtain ⟨before, hbefore, hlast⟩ := readMembers_concat_eq_ok_iff.mp h
    rw [KeyedList.names_append, List.mem_append] at hname
    cases hm : r.field? m.1 with
    | none =>
      obtain rfl := eq_of_readMember_of_unknown hm hlast
      refine ih hbefore (hname.resolve_right fun hmem => ?_)
      obtain rfl : name = m.1 := List.mem_singleton.mp hmem
      rw [hm] at hf
      cases hf
    | some g =>
      obtain ⟨_, _, _, rfl⟩ := (readMember_eq_ok_iff hm).mp hlast
      rcases hname with hmem | hmem
      · exact List.mem_cons_of_mem _ (ih hbefore hmem)
      · obtain rfl : name = m.1 := List.mem_singleton.mp hmem
        exact List.mem_cons_self

/-- A member that is no field does not matter, wherever it is put. -/
theorem readMembers_put_of_unknown (h : r.field? name = none) (v : Value) :
    r.readMembers state (KeyedList.put name v members) = r.readMembers state members := by
  induction members generalizing state with
  | nil =>
    rw [KeyedList.put, readMembers_cons, readMember_of_unknown h (isWhole_draft v)]
    rfl
  | cons m members ih =>
    rw [KeyedList.put]
    split
    · next hm =>
      rw [readMembers_cons, readMembers_cons, readMember_of_unknown h (isWhole_draft v), hm,
        readMember_of_unknown h (isWhole_draft m.2)]
    · rw [readMembers_cons, readMembers_cons]
      exact congrArg (_ >>= ·) (funext fun _ => ih)

/-- What is read from members is read from them with each name once too. -/
theorem readMembers_ofPairs {a : α} (h : r.readMembers (a, []) members = .ok state) :
    r.readMembers (a, []) (KeyedList.ofPairs members) = .ok state := by
  induction members using List.reverseRecOn generalizing state with
  | nil => exact h
  | append_singleton members m ih =>
    obtain ⟨before, hbefore, hlast⟩ := readMembers_concat_eq_ok_iff.mp h
    have hmerged := ih hbefore
    rw [KeyedList.ofPairs_concat]
    cases hm : r.field? m.1 with
    | none =>
      obtain rfl := eq_of_readMember_of_unknown hm hlast
      rw [readMembers_put_of_unknown hm, hmerged]
    | some f =>
      -- The name was not read before, so it does not occur among the members before.
      have hnew := ((readMember_eq_ok_iff hm).mp hlast).1
      rw [KeyedList.put_of_not_mem fun hmem => hnew (mem_of_readMembers hmerged hm hmem)]
      exact readMembers_concat_eq_ok_iff.mpr ⟨before, hmerged, hlast⟩

/-- A record whose fields read from values what those of another one read from drafts. -/
structure Follows (r r' : RecordType α) : Prop where
  /-- They start from one record. -/
  blank : r.blank = r'.blank
  /-- Their fields correspond. -/
  fields : List.Forall₂ Field.Follows r.fields r'.fields

/-- Records with corresponding fields have corresponding fields under every name. -/
theorem field?_of_forall₂ (h : List.Forall₂ Field.Follows r.fields r'.fields) (name : String) :
    (r.field? name = none ∧ r'.field? name = none) ∨
      ∃ f f', r.field? name = some f ∧ r'.field? name = some f' ∧ f.Follows f' := by
  unfold field?
  generalize r.fields = fs, r'.fields = fs' at h
  induction h with
  | nil => exact Or.inl ⟨rfl, rfl⟩
  | @cons f f' fs fs' hf _ ih =>
    rw [List.find?_cons, List.find?_cons, hf.name]
    cases f'.name == name with
    | true => exact Or.inr ⟨f, f', rfl, rfl, hf⟩
    | false => exact ih

/-- Items are read as the fields in order, as long as there are any. -/
theorem ofItemsFrom_itemDrafts {fs fs' : List (Field α)} (h : List.Forall₂ Field.Follows fs fs')
    {items : List Draft} {values : List Value} (hvalues : ItemsDenote depth items values)
    {index : Nat} {a b : α} (hread : r'.ofItemsFrom true index a fs' items = .ok b) :
    r.ofItemsFrom true index a fs (itemDrafts values) = .ok b := by
  induction h generalizing items values index a with
  | nil =>
    rw [ofItemsFrom] at hread
    rw [ofItemsFrom, hread]
  | cons hf _ ih =>
    cases hvalues with
    | nil =>
      rw [ofItemsFrom] at hread
      rw [itemDrafts, ofItemsFrom, hf.presence]
      simp only [Bool.not_true, Bool.false_eq_true, if_false] at hread ⊢
      split at hread
      · next hdefaulted =>
        rw [if_pos hdefaulted]
        exact ih .nil hread
      · cases hread
    | cons hv hrest =>
      rw [ofItemsFrom, bind_eq_ok_iff] at hread
      obtain ⟨c, hc, hread⟩ := hread
      rw [itemDrafts, ofItemsFrom, bind_eq_ok_iff]
      exact ⟨c, hf.read (denotes_of_value? hv) hc, ih hrest hread⟩

namespace Follows

/-- A member that the one record reads is read by the other with the same result. -/
theorem readMember (h : r.Follows r') {d : Draft} {v : Value} (hv : d.Denotes depth v)
    (hread : r'.readMember state (some name, d) = .ok state') :
    r.readMember state (some name, v.draft) = .ok state' := by
  rcases field?_of_forall₂ h.fields name with ⟨hnone, hnone'⟩ | ⟨f, f', hf, hf', hfollows⟩
  · rw [readMember_of_unknown hnone (isWhole_draft v), eq_of_readMember_of_unknown hnone' hread]
  · obtain ⟨hnew, a, ha, hstate⟩ := (readMember_eq_ok_iff hf').mp hread
    exact (readMember_eq_ok_iff hf).mpr ⟨hnew, a, hfollows.read hv ha, hstate⟩

theorem readMembers (h : r.Follows r') {drafts : List (Option String × Draft)}
    (hmembers : MembersDenote depth drafts members)
    (hread : drafts.foldlM r'.readMember state = .ok state') :
    r.readMembers state members = .ok state' := by
  induction hmembers generalizing state with
  | nil => exact hread
  | @cons d m drafts members hm _ ih =>
    obtain ⟨name, d⟩ := d
    obtain ⟨rfl, hv⟩ := hm
    rw [List.foldlM_cons, bind_eq_ok_iff] at hread
    obtain ⟨next, hfirst, hread⟩ := hread
    rw [readMembers_cons, bind_eq_ok_iff]
    exact ⟨next, h.readMember (denotes_of_value? hv) hfirst, ih hread⟩

/-- A field that must be there is missing in both or in neither. -/
theorem find?_missing (h : r.Follows r') {seen : List String}
    (hnone : r'.fields.find? (fun f => f.presence == .required && !seen.contains f.name) = none) :
    r.fields.find? (fun f => f.presence == .required && !seen.contains f.name) = none := by
  rw [List.find?_eq_none] at hnone ⊢
  intro f hf
  obtain ⟨f', hf', hfollows⟩ := Lists.exists_right h.fields hf
  have hpresent := hnone f' hf'
  rwa [← hfollows.presence, ← hfollows.name] at hpresent

/-- An object that the one record accepts comes to the same in the other, however often names are
repeated in it. -/
theorem ofMembers (h : r.Follows r') {drafts : List (Option String × Draft)}
    (hmembers : MembersDenote depth drafts members) {a : α}
    (hread : r'.ofMembers drafts true = .ok a) :
    r.ofMembers (memberDrafts (KeyedList.ofPairs members)) true = .ok a := by
  rw [RecordType.ofMembers, bind_eq_ok_iff] at hread
  obtain ⟨state, hstate, hread⟩ := hread
  rw [RecordType.ofMembers, bind_eq_ok_iff, h.blank]
  refine ⟨state, readMembers_ofPairs (h.readMembers hmembers hstate), ?_⟩
  simp only [Bool.not_true, Bool.false_eq_true, if_false] at hread ⊢
  split at hread
  · cases hread
  · next hnone =>
    rw [h.find?_missing hnone]
    exact hread

theorem ofItems (h : r.Follows r') (source source' : Source) {items : List Draft}
    {values : List Value} (hvalues : ItemsDenote depth items values) {a : α}
    (hread : r'.ofItems source' items true = .ok a) :
    r.ofItems source (itemDrafts values) true = .ok a := by
  have hlength : (itemDrafts values).length = items.length := by
    rw [itemDrafts_eq_map, List.length_map, hvalues.length_eq]
  unfold RecordType.ofItems at hread ⊢
  rw [bind_eq_ok_iff] at hread ⊢
  obtain ⟨b, hb, hread⟩ := hread
  refine ⟨b, h.blank ▸ ofItemsFrom_itemDrafts h.fields hvalues hb, ?_⟩
  rw [hlength, h.fields.length_eq]
  split at hread
  · cases source' <;> cases hread
  · next hfits =>
    rw [if_neg hfits]
    exact hread

/-- A record is read from a value as it is read from a text, be it an object or an array. -/
theorem decode (h : r.Follows r') (source source' : Source) :
    Decoder.Follows (r.decode source) (r'.decode source') := by
  intro depth d v a hv hd
  cases hv with
  | object hmembers => exact h.ofMembers hmembers hd
  | array hvalues => exact h.ofItems source source' hvalues hd
  | _ => cases hd

end Follows

end RecordType

/-- A text is decoded if its value is and nothing follows it. -/
theorem Document.decode_eq_ok_iff {α : Type} {d : Document} {decoder : Decoder α} {a : α} :
    d.decode decoder = .ok a ↔ decoder d.root = .ok a ∧ d.alone = true := by
  rw [Document.decode, bind_eq_ok_iff]
  constructor
  · rintro ⟨b, hb, h⟩
    split at h
    · next halone =>
      cases h
      exact ⟨hb, halone⟩
    · cases h
  · rintro ⟨ha, halone⟩
    exact ⟨a, ha, if_pos halone⟩

end HostRoster.Json
