import HostRoster.Program.StateFile
import HostRoster.Proofs.Json.Decoding
import HostRoster.Proofs.Store.Snapshots
import HostRoster.Proofs.Timestamp

/-!
# State files read back

What is written for a snapshot is read as that snapshot, field by field from the owners, identities
and guests up to the whole content of a state file. So a store that is put away in a file and made
again from it has the same owners and consumers under the same keys and ids.
-/

namespace HostRoster

open Json

namespace Wire

/-- Texts that may be missing are read back. -/
theorem undoes_text? : (Decoder.option .string).Undoes Value.text? := by
  refine ⟨fun o => ?_, fun o => ?_⟩
  · cases o with
    | none => exact .null
    | some s => exact .string s
  · cases o <;> rfl

/-- The kind of a consumer is found by its name. -/
theorem lookup_kinds (k : ConsumerKind) : kinds.lookup k.label = some k := by
  cases k <;> rfl

/-- The kinds of consumers are read back from their labels. -/
theorem undoes_kind : (Decoder.choice kinds).Undoes fun k => .string k.label :=
  Decoder.undoes_choice lookup_kinds

/-- Times are read back from their texts. -/
theorem undoes_timestamp : Decoder.timestamp.Undoes fun t => .string t.text := by
  refine ⟨fun t => .string _, fun t => ?_⟩
  rw [Value.draft, Decoder.timestamp, Timestamp.parse_text]
  rfl

/-- Owners are read back from their records. -/
theorem undoes_owner : (owner.decode .text).Undoes ownerValue := by
  refine RecordType.undoes (r := owner) (by decide)
    (fun o => [.string o.key, .string o.displayName, .bool o.autobindDisabled]) (fun _ => rfl)
    (fun o v hv => ?_) (fun _ => rfl) .text
  simp only [List.mem_cons, List.not_mem_nil, or_false] at hv
  rcases hv with rfl | rfl | rfl
  · exact .string _
  · exact .string _
  · exact .bool _

theorem undoes_identity : (identity.decode .text).Undoes identityValue := by
  refine RecordType.undoes (r := identity) (by decide)
    (fun i => [.string i.hypervisorId, .text? i.reporterId]) (fun _ => rfl) (fun i v hv => ?_)
    (fun i => ?_) .text
  · simp only [List.mem_cons, List.not_mem_nil, or_false] at hv
    rcases hv with rfl | rfl
    · exact .string _
    · exact undoes_text?.numberless _
  · obtain ⟨hypervisorId, reporterId⟩ := i
    cases reporterId <;> rfl

theorem undoes_guest : (guest.decode .text).Undoes guestValue := by
  refine RecordType.undoes (r := guest) (by decide) (fun g => [.string g]) (fun _ => rfl)
    (fun g v hv => ?_) (fun _ => rfl) .text
  rw [List.mem_singleton.mp hv]
  exact .string g

/-- Facts are read back as a dictionary of texts. -/
theorem undoes_facts : (Decoder.dict .string).Undoes factsValue :=
  Decoder.undoes_dict Decoder.undoes_string

theorem undoes_identity? :
    (Decoder.option (identity.decode .text)).Undoes fun i => .orNull (i.map identityValue) :=
  Decoder.undoes_option undoes_identity fun _ hd => by cases hd

theorem undoes_timestamp? : (Decoder.option .timestamp).Undoes fun t =>
    .text? (t.map Timestamp.text) := by
  have h := Decoder.undoes_option undoes_timestamp fun _ hd => by cases hd
  have hvalue (t : Option Timestamp) : Value.text? (t.map Timestamp.text) =
      .orNull (t.map fun t => .string t.text) := by cases t <;> rfl
  simpa only [hvalue] using h

/-- Consumers are read back with all that they have. -/
theorem undoes_consumer : (consumer.decode .text).Undoes consumerValue := by
  refine RecordType.undoes (r := consumer) (by decide)
    (fun c => [.text? c.id, .string c.uuid, .string c.name, .string c.ownerKey,
      .string c.kind.label, .orNull (c.identity.map identityValue),
      .array (c.guests.map guestValue), factsValue c.facts,
      .text? (c.lastCheckin.map Timestamp.text)])
    (fun _ => rfl) (fun c v hv => ?_) (fun c => ?_) .text
  · simp only [List.mem_cons, List.not_mem_nil, or_false] at hv
    rcases hv with rfl | rfl | rfl | rfl | rfl | rfl | rfl | rfl | rfl
    · exact undoes_text?.numberless _
    · exact .string _
    · exact .string _
    · exact .string _
    · exact .string _
    · exact undoes_identity?.numberless _
    · exact (Decoder.undoes_list undoes_guest).numberless _
    · exact undoes_facts.numberless _
    · exact undoes_timestamp?.numberless _
  · simp only [consumer, RecordType.readFields, Field.read_of undoes_text?,
      Field.read_of Decoder.undoes_string, Field.read_of undoes_kind,
      Field.read_of undoes_identity?, Field.read_of (Decoder.undoes_list undoes_guest),
      Field.read_of undoes_facts, Field.read_of undoes_timestamp?]
    rfl

theorem undoes_snapshot : (snapshot.decode .text).Undoes snapshotValue := by
  have howners := Decoder.undoes_list undoes_owner
  have hconsumers := Decoder.undoes_list undoes_consumer
  refine RecordType.undoes (r := snapshot) (by decide)
    (fun s => [.array (s.owners.map ownerValue), .array (s.consumers.map consumerValue)])
    (fun _ => rfl) (fun s v hv => ?_) (fun s => ?_) .text
  · simp only [List.mem_cons, List.not_mem_nil, or_false] at hv
    rcases hv with rfl | rfl
    · exact howners.numberless _
    · exact hconsumers.numberless _
  · simp only [snapshot, RecordType.readFields, Field.read_of howners, Field.read_of hconsumers]
    rfl

end Wire

/-- A snapshot is read back from the content that is written for it. -/
theorem Snapshot.ofContent_content (s : Snapshot) : ofContent s.content = .ok s := by
  have hread : document s.content = ⟨(Wire.snapshotValue s).draft, true⟩ := by
    rw [document, content, Text.ofUtf8?_toUTF8]
    exact read_indentedText (Wire.undoes_snapshot.numberless s)
  rw [ofContent, hread, Document.decode, Wire.undoes_snapshot.decodes s]
  rfl

/-- What is saved reads back unchanged: the content of a state file gives the snapshot that it was
written for, and a store that is made from the snapshot of one that came about in any of the ways
there are holds the same owners and consumers, so its own snapshot is the same again. -/
theorem saved_reads_back :
    (∀ s : Snapshot, Snapshot.ofContent s.content = .ok s) ∧
    ∀ w : World, w.Reached → ∀ supplies : Supplies,
      (Store.ofSnapshot w.store.snapshot supplies).registry.owners = w.store.registry.owners ∧
      (Store.ofSnapshot w.store.snapshot supplies).registry.consumers =
        w.store.registry.consumers ∧
      (Store.ofSnapshot w.store.snapshot supplies).snapshot = w.store.snapshot := by
  refine ⟨Snapshot.ofContent_content, fun w hw supplies => ?_⟩
  rw [Store.ofSnapshot_snapshot hw.filed.1]
  exact ⟨rfl, rfl, rfl⟩

/-- A store is made from a snapshot in which one consumer has no id, and is given another owner. A
run registers a host for that owner while a unit of work takes the guests of the first consumer
away. -/
theorem saved_reads_back_two_owners :
    let now : Timestamp := ⟨⟨2024, 1, 1⟩, ⟨0, 0, 0, 0⟩, by decide, by decide⟩
    let consumer (id : Option String) (guests : List String) : Consumer :=
      ⟨id, "u", "n", "a", .hypervisor, some ⟨"h", some "r"⟩, guests, .empty, some now⟩
    let supplies : Supplies := ⟨⟨fun n => "i" ++ toString n, 0⟩, ⟨fun n => "u" ++ toString n, 0⟩⟩
    let request : Request :=
      ⟨"b", true, some "r", ⟨"admin", true, .empty⟩, ⟨[⟨some "x", some ⟨some "x"⟩, none, none⟩]⟩⟩
    let w₀ : World := .ofStore (.ofSnapshot ⟨[.named "a"], [consumer none ["g"]]⟩ supplies)
    let w₁ : World := { w₀ with store := w₀.store.addOwner (.named "b") }
    let w₂ : World :=
      (w₁.step (.start "work")).step (.updateMemberships "work" [consumer (some "i0") []])
    let w₃ : World :=
      { w₂ with store := (w₂.store.runFor ⟨.byGrants, now, .none, none⟩ (.reconcile request)).2 }
    let w : World := w₃.step (.commit "work")
    w.Reached ∧
      w.store.registry.consumers.keys = ["i0", "i1"] ∧
      w.store.registry.consumers.get? "i0" = some (consumer (some "i0") []) ∧
      (Store.ofSnapshot w.store.snapshot supplies).registry.owners = w.store.registry.owners ∧
      (Store.ofSnapshot w.store.snapshot supplies).registry.consumers =
        w.store.registry.consumers ∧
      (Store.ofSnapshot w.store.snapshot supplies).snapshot = w.store.snapshot := by
  intro now consumer supplies request w₀ w₁ w₂ w₃ w
  have hw : w.Reached :=
    .stepped (.ran (.stepped (.stepped (.ownerAdded (.made _ _) _) _) _) _ _) _
  have hkeys : w.store.registry.consumers.keys = ["i0", "i1"] := by decide +kernel
  have htaken : w.store.registry.consumers.get? "i0" = some (consumer (some "i0") []) := by
    decide +kernel
  clear_value w
  exact ⟨hw, hkeys, htaken, saved_reads_back.2 w hw supplies⟩

end HostRoster
