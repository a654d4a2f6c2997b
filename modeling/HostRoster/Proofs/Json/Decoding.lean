import HostRoster.Json.Record
import HostRoster.Proofs.Dict
import HostRoster.Proofs.Json.Reading

/-!
# Decoding what was encoded

A decoder undoes a way to write values of the domain if it gets each of them back. The simple
decoders undo the simple ways of writing, and so do those of lists, dictionaries and records, if the
decoders of their parts do.
-/

namespace HostRoster.Json

/-- A decoder gets back what was written, and no number is written. -/
structure Decoder.Undoes {α : Type} (decode : Decoder α) (write : α → Value) : Prop where
  /-- No number is written. -/
  numberless : ∀ a, (write a).Numberless
  /-- What was written is decoded. -/
  decodes : ∀ a, decode (write a).draft = .ok a

namespace Decoder

variable {α : Type} {item : Decoder α} {write : α → Value}

/-- Texts are read back. -/
theorem undoes_string : string.Undoes .string := ⟨.string, fun _ => rfl⟩

/-- Only `null` is taken for something absent. -/
theorem option_of_ne_null {d : Draft} (h : d ≠ .null) (item : Decoder α) :
    option item d = (item d).map some := by
  unfold option
  split
  · exact absurd rfl h
  · rfl

/-- What may be absent is written as `null` then, which must not mean anything else. -/
theorem undoes_option (h : item.Undoes write) (hnull : ∀ a, (write a).draft ≠ .null) :
    (option item).Undoes fun o => .orNull (o.map write) := by
  refine ⟨fun o => ?_, fun o => ?_⟩
  · cases o with
    | none => exact .null
    | some a => exact h.numberless a
  · cases o with
    | none => rfl
    | some a =>
      change option item (write a).draft = .ok (some a)
      rw [option_of_ne_null (hnull a), h.decodes a]
      rfl

/-- A list is decoded item by item. -/
theorem list_draft {β : Type} {write : β → Value} {f : β → α}
    (h : ∀ b, item (write b).draft = .ok (f b)) (l : List β) :
    list item (Value.array (l.map write)).draft = .ok (l.map f) := by
  have hitems : (itemDrafts (l.map write)).mapM item = .ok (l.map f) := by
    induction l with
    | nil => rfl
    | cons b l ih =>
      rw [List.map_cons, itemDrafts, List.mapM_cons, h b, ih]
      rfl
  rw [Value.draft, list, hitems]
  rfl

/-- Lists are read back if their items are. -/
theorem undoes_list (h : item.Undoes write) : (list item).Undoes fun l => .array (l.map write) := by
  refine ⟨fun l => .array fun v hv => ?_, fun l => ?_⟩
  · obtain ⟨a, _, rfl⟩ := List.mem_map.mp hv
    exact h.numberless a
  · rw [list_draft h.decodes, List.map_id']

/-- Dictionaries are read back if their values are. -/
theorem undoes_dict (h : item.Undoes write) :
    (dict item).Undoes fun d => .object (d.entries.map fun e => (e.1, write e.2)) := by
  refine ⟨fun d => .object fun m hm => ?_, fun d => ?_⟩
  · obtain ⟨e, _, rfl⟩ := List.mem_map.mp hm
    exact h.numberless e.2
  · have hentries (l : List (String × α)) :
        (memberDrafts (l.map fun e => (e.1, write e.2))).mapM (entry item) = .ok l := by
      induction l with
      | nil => rfl
      | cons e l ih =>
        rw [List.map_cons, memberDrafts, List.mapM_cons, ih, entry]
        simp only [h.decodes e.2]
        rfl
    change dict item (.object (memberDrafts (d.entries.map fun e => (e.1, write e.2))) true) = .ok d
    rw [dict, hentries]
    exact congrArg Except.ok (Dict.ofList_entries d)

/-- A choice is written as its name, by which the table must find it. -/
theorem undoes_choice {table : List (String × α)} {label : α → String}
    (h : ∀ a, table.lookup (label a) = some a) :
    (choice table).Undoes fun a => .string (label a) := by
  refine ⟨fun a => .string _, fun a => ?_⟩
  change chosen table (label a) = .ok a
  rw [chosen, h a]

end Decoder

/-- A field that was written stores the value it was written from. -/
theorem Field.read_of {α β : Type} {decode : Decoder β} {write : β → Value}
    (h : decode.Undoes write) (name : String) (presence : Presence) (store : α → β → α) (b : β)
    (a : α) : (Field.of name presence decode store).read (write b).draft a = .ok (store a b) := by
  have hread : (Field.of name presence decode store).read (write b).draft a =
      (decode (write b).draft).map (store a) := rfl
  rw [hread, h.decodes b]
  rfl

namespace RecordType

variable {α : Type} {r : RecordType α}

/-- Reads the values of fields into a record, one after the other. -/
def readFields (a : α) : List (Field α) → List Value → Except DecodeError α
  | f :: fs, v :: vs => do readFields (← f.read v.draft a) fs vs
  | _, _ => .ok a

/-- The names of fields. -/
def fieldNames (fs : List (Field α)) : List String := fs.map fun f => f.name

theorem fieldNames_cons (f : Field α) (fs : List (Field α)) :
    fieldNames (f :: fs) = f.name :: fieldNames fs := rfl

/-- The name of a field is among the names of the fields. -/
theorem name_mem_fieldNames {fs : List (Field α)} {f : Field α} (hf : f ∈ fs) :
    f.name ∈ fieldNames fs :=
  List.mem_map.mpr ⟨f, hf, rfl⟩

/-- A field is found by its name. -/
theorem find?_field {fs : List (Field α)} (hnodup : (fieldNames fs).Nodup) {f : Field α}
    (hf : f ∈ fs) : fs.find? (·.name == f.name) = some f := by
  induction fs with
  | nil => cases hf
  | cons g fs ih =>
    rw [fieldNames_cons] at hnodup
    obtain ⟨hg, hfs⟩ := List.nodup_cons.mp hnodup
    rcases List.mem_cons.mp hf with rfl | hf
    · simp
    · have hne : g.name ≠ f.name := fun he => hg (by
        rw [he]
        exact name_mem_fieldNames hf)
      rw [List.find?_cons_of_neg (by simpa using hne)]
      exact ih hfs hf

/-- Members that name fields of the record, none of them twice, are read one after the other. -/
theorem foldlM_readMember {fs : List (Field α)} {vs : List Value} {a a' : α} (seen : List String)
    (hlength : vs.length = fs.length)
    (hfields : ∀ f ∈ fs, r.fields.find? (·.name == f.name) = some f)
    (hnew : ∀ f ∈ fs, f.name ∉ seen) (hnodup : (fieldNames fs).Nodup)
    (hread : readFields a fs vs = .ok a') :
    (memberDrafts ((fieldNames fs).zip vs)).foldlM r.readMember (a, seen) =
      .ok (a', (fieldNames fs).reverse ++ seen) := by
  induction fs generalizing vs a seen with
  | nil =>
    cases hread
    rfl
  | cons f fs ih =>
    cases vs with
    | nil => cases hlength
    | cons v vs =>
      rw [fieldNames_cons] at hnodup
      obtain ⟨hf, hfs⟩ := List.nodup_cons.mp hnodup
      have hfind := hfields f List.mem_cons_self
      have hseen : seen.contains f.name = false := by simpa using hnew f List.mem_cons_self
      cases hv : f.read v.draft a with
      | error e =>
        rw [readFields, hv] at hread
        cases hread
      | ok b =>
        rw [readFields, hv] at hread
        have hmember : r.readMember (a, seen) (some f.name, v.draft) =
            .ok (b, f.name :: seen) := by
          simp only [readMember, hfind, hseen, hv, Bool.false_eq_true, if_false]
          rfl
        have hrest := ih (f.name :: seen) (by simpa using hlength)
          (fun g hg => hfields g (List.mem_cons_of_mem _ hg)) ?_ hfs hread
        · rw [fieldNames_cons, List.zip_cons_cons, memberDrafts, List.foldlM_cons, hmember,
            List.reverse_cons, List.append_assoc]
          exact hrest
        · intro g hg hmem
          rcases List.mem_cons.mp hmem with he | hmem
          · exact hf (he ▸ name_mem_fieldNames hg)
          · exact hnew g (List.mem_cons_of_mem _ hg) hmem

/-- A record is written as an object of its fields in order. If reading these one after the other
gives the record, decoding the object does. -/
theorem undoes (hnodup : (fieldNames r.fields).Nodup) (write : α → List Value)
    (hlength : ∀ a, (write a).length = r.fields.length)
    (hnumberless : ∀ a, ∀ v ∈ write a, v.Numberless)
    (hread : ∀ a, readFields r.blank r.fields (write a) = .ok a) (source : Source) :
    Decoder.Undoes (r.decode source) fun a =>
      .object ((fieldNames r.fields).zip (write a)) := by
  refine ⟨fun a => .object fun m hm => ?_, fun a => ?_⟩
  · exact hnumberless a _ (List.of_mem_zip hm).2
  · have hmembers := foldlM_readMember (r := r) [] (hlength a)
      (fun f hf => find?_field hnodup hf) (fun _ _ => List.not_mem_nil) hnodup (hread a)
    change r.ofMembers (memberDrafts ((fieldNames r.fields).zip (write a))) true = .ok a
    have hall : r.fields.find? (fun f => f.presence == .required &&
        !((fieldNames r.fields).reverse ++ []).contains f.name) = none := by
      rw [List.find?_eq_none]
      intro f hf
      have hmem : f.name ∈ fieldNames r.fields := name_mem_fieldNames hf
      simp [hmem]
    rw [ofMembers, hmembers]
    simp only [bind, Except.bind, Bool.not_true, Bool.false_eq_true, if_false, hall]

end RecordType

end HostRoster.Json
