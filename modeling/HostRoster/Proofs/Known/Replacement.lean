import HostRoster.Proofs.Known

/-!
# Hosts that take the place of others

Hosts may be added with a uuid that is known already. The new host takes the place of the old one,
but the keys of the old one still lead to the uuid. So a look-up by a key finds the host that is now
under the uuid of the last host that was added with the key, and finds one whenever a host with the
key is known, but what it finds need not have the key any more.
-/

namespace HostRoster

open HostRoster.Lists (IsLast)

/-- What a look-up by a key finds among hosts that were added one after the other. -/
structure FindsCurrent (key : Consumer → Option String) (k : String) (cs : List Consumer)
    (found : Option Consumer) : Prop where
  /-- It is the host that is now under the uuid of the last host that was added with the key. -/
  found_iff : ∀ c, found = some c ↔
    ∃ holder, IsLast (key · = some k) cs holder ∧ IsLast (·.uuid = holder.uuid) cs c
  /-- It is the last host that was added with its uuid. -/
  current : ∀ c, found = some c → IsLast (·.uuid = c.uuid) cs c
  /-- It has the key exactly if it is the last host that was added with the key. -/
  key_iff : ∀ c, found = some c → (key c = some k ↔ IsLast (key · = some k) cs c)
  /-- It has the key if no host takes the place of one with another key. -/
  key_of_kept : (∀ c ∈ cs, ∀ d ∈ cs, c.uuid = d.uuid → key c = key d) →
    ∀ c, found = some c → key c = some k
  /-- Nothing is found exactly if no host was added with the key. -/
  missing_iff : found = none ↔ ∀ c ∈ cs, key c ≠ some k
  /-- A host is found if one with the key is known. -/
  complete : ∀ c, IsLast (·.uuid = c.uuid) cs c → key c = some k → found.isSome = true

namespace KnownHosts

variable {cs : List Consumer}

/-- What an index finds. -/
theorem findsCurrent_index (key : Consumer → Option String) (k : String) (cs : List Consumer) :
    FindsCurrent key k cs
      (((Dict.ofList (keyedUuids key cs)).get? k).bind (ofList cs).get?) where
  found_iff _ := index_eq_some_iff
  current c hfound := by
    obtain ⟨holder, -, hc⟩ := index_eq_some_iff.mp hfound
    rwa [hc.has]
  key_iff c hfound := by
    obtain ⟨holder, hholder, hc⟩ := index_eq_some_iff.mp hfound
    refine ⟨fun hk => ?_, IsLast.has⟩
    -- Neither of the two can come after the other, so they are one host.
    rwa [← hholder.eq_of_has hc hk rfl]
  key_of_kept hkept c hfound := by
    obtain ⟨holder, hholder, hc⟩ := index_eq_some_iff.mp hfound
    rw [hkept c hc.mem holder hholder.mem hc.has, hholder.has]
  missing_iff := by
    constructor
    · intro hnone c hc hk
      obtain ⟨c', hfound⟩ := exists_index hc hk
      rw [hnone] at hfound
      cases hfound
    · intro hmissing
      refine Option.eq_none_iff_forall_ne_some.mpr fun c hfound => ?_
      obtain ⟨holder, hholder, -⟩ := index_eq_some_iff.mp hfound
      exact hmissing holder hholder.mem hholder.has
  complete _ hc hk := Option.isSome_iff_exists.mpr (exists_index hc.mem hk)

/-- After hosts were added in any order, with new uuids or with known ones, the last one of each
uuid is known, and look-ups by a hypervisor id and by a machine's uuid find it under all keys that a
host of this uuid was the last one to be added with. -/
theorem finds_current (cs : List Consumer) :
    (∀ u c, (ofList cs).get? u = some c ↔ IsLast (·.uuid = u) cs c) ∧
      ∀ raw, FindsCurrent Consumer.hypervisorId? (canonical raw) cs
          ((ofList cs).withHypervisorId? raw) ∧
        FindsCurrent (fun c => c.systemUuid?.map Text.lower) (Text.lower raw) cs
          ((ofList cs).withSystemUuid? raw) := by
  refine ⟨fun u c => get?_ofList_eq_some_iff, fun raw => ?_⟩
  rw [withHypervisorId?_ofList, withSystemUuid?_ofList]
  exact ⟨findsCurrent_index _ _ _, findsCurrent_index _ _ _⟩

/-- One of several hosts that are added with one uuid. -/
def addedAs (name id systemUuid : String) : Consumer :=
  ⟨some "1", "u", name, "o", .hypervisor, some ⟨id, none⟩, [],
    Dict.empty.insert systemUuidFact systemUuid, none⟩

/-- A look-up may find a host that has neither the hypervisor id nor the machine's uuid that was
looked for: it took the place of a host that had them. -/
theorem exists_found_without_key :
    ∃ (cs : List Consumer) (id systemUuid : String) (c : Consumer),
      (∀ d ∈ cs, ∀ i, d.hypervisorId? = some i → canonical i = i) ∧
        (ofList cs).withHypervisorId? id = some c ∧ c.hypervisorId? ≠ some (canonical id) ∧
        (ofList cs).withSystemUuid? systemUuid = some c ∧
        c.systemUuid?.map Text.lower ≠ some (Text.lower systemUuid) := by
  refine ⟨[addedAs "first" "a" "S", addedAs "second" "b" "T"], "a", "S",
    addedAs "second" "b" "T", ?_, ?_⟩
  · simp only [List.mem_cons, List.not_mem_nil, or_false]
    rintro _ (rfl | rfl) _ ⟨⟩ <;> decide +kernel
  · decide +kernel

end KnownHosts

end HostRoster
