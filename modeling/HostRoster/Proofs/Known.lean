import HostRoster.Known
import HostRoster.Proofs.Dict
import HostRoster.Proofs.Lists
import Mathlib.Data.List.Nodup

/-!
# Looking up known hosts

Known hosts are read off a list. A look-up by hypervisor id or by the uuid of the machine finds the
last host under the uuid of the last host with the key. As long as no two hosts of the list have one
uuid, this is a host of the list that has the key, and one is found if there is any.
-/

namespace HostRoster

open HostRoster.Lists (IsLast)

/-- The pairs of a key that consumers may have and their uuids. -/
def keyedUuids (key : Consumer → Option String) (cs : List Consumer) : List (String × String) :=
  cs.filterMap fun c => (key c).map fun k => (k, c.uuid)

/-- The keys and uuids are those of the consumers that have a key. -/
theorem mem_keyedUuids {key : Consumer → Option String} {cs : List Consumer} {k u : String} :
    (k, u) ∈ keyedUuids key cs ↔ ∃ c ∈ cs, key c = some k ∧ c.uuid = u := by
  simp only [keyedUuids, List.mem_filterMap, Option.map_eq_some_iff, Prod.mk.injEq]
  constructor
  · rintro ⟨c, hc, j, hj, rfl, rfl⟩
    exact ⟨c, hc, hj, rfl⟩
  · rintro ⟨c, hc, hk, rfl⟩
    exact ⟨c, hc, k, hk, rfl, rfl⟩

/-- Of the uuids under a key the one of the last consumer with the key is found. -/
theorem get?_keyedUuids (key : Consumer → Option String) (cs : List Consumer) (k : String) :
    (Dict.ofList (keyedUuids key cs)).get? k =
      (cs.findRev? fun c => key c == some k).map (·.uuid) := by
  have hany (c : Consumer) :
      (((key c).map fun j => (j, c.uuid)).any fun e => e.1 == k) = (key c == some k) := by
    cases key c <;> simp
  rw [Dict.get?_ofList_eq_findRev?, List.findRev?_eq_find?_reverse, List.findRev?_eq_find?_reverse,
    keyedUuids, ← List.filterMap_reverse, List.find?_filterMap]
  simp only [hany]
  cases hlast : cs.reverse.find? fun c => key c == some k with
  | none => rfl
  | some c =>
    have hkey : key c = some k := by simpa using List.find?_some hlast
    simp [hkey]

namespace KnownHosts

/-- Indexing consumers one by one inserts their keys and uuids in this order. -/
theorem foldl_index (key : Consumer → Option String) (cs : List Consumer) (d : Dict String) :
    cs.foldl (fun d c => index d (key c) c.uuid) d =
      (keyedUuids key cs).foldl (fun d e => d.insert e.1 e.2) d := by
  induction cs generalizing d with
  | nil => rfl
  | cons c rest ih =>
    rw [List.foldl_cons, ih, keyedUuids, keyedUuids, List.filterMap_cons]
    cases key c <;> rfl

/-- Inserting consumers one by one fills the consumers and the two indexes, each on its own. -/
theorem foldl_insert (cs : List Consumer) (k : KnownHosts) :
    cs.foldl insert k =
      ⟨cs.foldl (fun d c => d.insert c.uuid c) k.consumers,
        cs.foldl (fun d c => index d c.hypervisorId? c.uuid) k.byHypervisorId,
        cs.foldl (fun d c => index d (c.systemUuid?.map Text.lower) c.uuid) k.bySystemUuid⟩ := by
  induction cs generalizing k with
  | nil => rfl
  | cons c rest ih =>
    rw [List.foldl_cons, ih]
    rfl

/-- The hosts of a list, each index by itself. -/
theorem ofList_eq (cs : List Consumer) :
    ofList cs =
      ⟨.ofList (cs.map fun c => (c.uuid, c)), .ofList (keyedUuids Consumer.hypervisorId? cs),
        .ofList (keyedUuids (fun c => c.systemUuid?.map Text.lower) cs)⟩ := by
  rw [ofList, foldl_insert, foldl_index, foldl_index, Dict.ofList, List.foldl_map]
  rfl

/-- The host under a uuid is the last one with this uuid. -/
theorem get?_ofList_eq_some_iff {cs : List Consumer} {u : String} {c : Consumer} :
    (ofList cs).get? u = some c ↔ IsLast (·.uuid = u) cs c := by
  have hget : (ofList cs).get? u = cs.findRev? fun c => c.uuid == u := by
    rw [get?, ofList_eq, Dict.get?_ofList_map Consumer.uuid]
    exact Option.map_id_apply
  rw [hget, Lists.findRev?_eq_some_iff]
  simp only [beq_iff_eq]

/-- The hosts of a list have different uuids. -/
def Distinct (cs : List Consumer) : Prop := ∀ c ∈ cs, ∀ c' ∈ cs, c.uuid = c'.uuid → c = c'

/-- If uuids do not repeat, every consumer is found under its own. -/
theorem get?_ofList {cs : List Consumer} (hd : Distinct cs) {c : Consumer} (hc : c ∈ cs) :
    (ofList cs).get? c.uuid = some c := by
  obtain ⟨last, hlast⟩ := Lists.exists_isLast (p := (·.uuid = c.uuid)) hc rfl
  rw [← hd last hlast.mem c hc hlast.has, get?_ofList_eq_some_iff, hlast.has]
  exact hlast

section indexes

variable {cs : List Consumer} {f : Consumer → Option String} {k : String}

/-- A key leads to the last host under the uuid of the last host with the key. -/
theorem index_eq_some_iff {c : Consumer} :
    ((Dict.ofList (keyedUuids f cs)).get? k).bind (ofList cs).get? = some c ↔
      ∃ holder, IsLast (f · = some k) cs holder ∧ IsLast (·.uuid = holder.uuid) cs c := by
  rw [get?_keyedUuids]
  simp only [Option.bind_eq_some_iff, Option.map_eq_some_iff, get?_ofList_eq_some_iff,
    Lists.findRev?_eq_some_iff, beq_iff_eq]
  constructor
  · rintro ⟨_, ⟨holder, hholder, rfl⟩, hc⟩
    exact ⟨holder, hholder, hc⟩
  · rintro ⟨holder, hholder, hc⟩
    exact ⟨holder.uuid, ⟨holder, hholder, rfl⟩, hc⟩

/-- A look-up by a key finds a host of the list. -/
theorem mem_of_index {c : Consumer}
    (h : ((Dict.ofList (keyedUuids f cs)).get? k).bind (ofList cs).get? = some c) : c ∈ cs := by
  obtain ⟨_, _, hc⟩ := index_eq_some_iff.mp h
  exact hc.mem

/-- It has the key if uuids are different. -/
theorem key_of_index (hd : Distinct cs) {c : Consumer}
    (h : ((Dict.ofList (keyedUuids f cs)).get? k).bind (ofList cs).get? = some c) :
    f c = some k := by
  obtain ⟨holder, hholder, hc⟩ := index_eq_some_iff.mp h
  rw [hd c hc.mem holder hholder.mem hc.has, hholder.has]

/-- A host is found if any has the key, be it this one or another. -/
theorem exists_index {c : Consumer} (hc : c ∈ cs) (hk : f c = some k) :
    ∃ c', ((Dict.ofList (keyedUuids f cs)).get? k).bind (ofList cs).get? = some c' := by
  obtain ⟨holder, hholder⟩ := Lists.exists_isLast (p := (f · = some k)) hc hk
  obtain ⟨c', hc'⟩ := Lists.exists_isLast (p := (·.uuid = holder.uuid)) hholder.mem rfl
  exact ⟨c', index_eq_some_iff.mpr ⟨holder, hholder, hc'⟩⟩

/-- The last host with the key is found. -/
theorem index_eq_findRev? (hd : Distinct cs) :
    ((Dict.ofList (keyedUuids f cs)).get? k).bind (ofList cs).get? =
      cs.findRev? fun c => f c == some k := by
  rw [get?_keyedUuids]
  cases hlast : cs.findRev? fun c => f c == some k with
  | none => rfl
  | some c =>
    have hc : c ∈ cs := (Lists.findRev?_eq_some_iff.mp hlast).mem
    rw [Option.map_some, Option.bind_some, get?_ofList hd hc]

end indexes

section lookups

variable {cs : List Consumer} {raw : String} {c : Consumer}

/-- A look-up by hypervisor id goes through the uuid that is last indexed under its canonical form.
-/
theorem withHypervisorId?_ofList :
    (ofList cs).withHypervisorId? raw =
      ((Dict.ofList (keyedUuids Consumer.hypervisorId? cs)).get? (canonical raw)).bind
        (ofList cs).get? := by
  rw [withHypervisorId?, ofList_eq]

/-- A look-up by the uuid of a machine does so under its lower case. -/
theorem withSystemUuid?_ofList :
    (ofList cs).withSystemUuid? raw =
      ((Dict.ofList (keyedUuids (fun c => c.systemUuid?.map Text.lower) cs)).get?
        (Text.lower raw)).bind (ofList cs).get? := by
  rw [withSystemUuid?, ofList_eq]

/-- What is found by a hypervisor id is one of the consumers. -/
theorem mem_of_withHypervisorId? (h : (ofList cs).withHypervisorId? raw = some c) : c ∈ cs :=
  mem_of_index (withHypervisorId?_ofList ▸ h)

theorem mem_of_withSystemUuid? (h : (ofList cs).withSystemUuid? raw = some c) : c ∈ cs :=
  mem_of_index (withSystemUuid?_ofList ▸ h)

/-- A hypervisor id finds a host that has its canonical form. -/
theorem hypervisorId?_of_withHypervisorId? (hd : Distinct cs)
    (h : (ofList cs).withHypervisorId? raw = some c) : c.hypervisorId? = some (canonical raw) :=
  key_of_index hd (withHypervisorId?_ofList ▸ h)

/-- The host that was added last is found by its id. -/
theorem withHypervisorId?_insert {known : KnownHosts}
    (h : c.hypervisorId? = some (canonical raw)) :
    (known.insert c).withHypervisorId? raw = some c := by
  have hindex : (known.insert c).byHypervisorId =
      known.byHypervisorId.insert (canonical raw) c.uuid := by
    rw [insert, h]
    rfl
  rw [withHypervisorId?, hindex, Dict.get?_insert_self, Option.bind_some, get?, insert,
    Dict.get?_insert_self]

/-- A machine's uuid finds a host with this uuid, in whatever spelling. -/
theorem systemUuid?_of_withSystemUuid? (hd : Distinct cs)
    (h : (ofList cs).withSystemUuid? raw = some c) :
    c.systemUuid?.map Text.lower = some (Text.lower raw) :=
  key_of_index (f := fun c => c.systemUuid?.map Text.lower) hd (withSystemUuid?_ofList ▸ h)

/-- Some consumer is found under every hypervisor id that one has in canonical form. -/
theorem exists_withHypervisorId? (hc : c ∈ cs) (hk : c.hypervisorId? = some (canonical raw)) :
    ∃ c', (ofList cs).withHypervisorId? raw = some c' :=
  withHypervisorId?_ofList ▸ exists_index hc hk

/-- Some consumer is found under every uuid of a machine that one has. -/
theorem exists_withSystemUuid? (hc : c ∈ cs)
    (hk : c.systemUuid?.map Text.lower = some (Text.lower raw)) :
    ∃ c', (ofList cs).withSystemUuid? raw = some c' :=
  withSystemUuid?_ofList ▸ exists_index (f := fun c => c.systemUuid?.map Text.lower) hc hk

/-- A machine's uuid finds the last host with this uuid, in whatever spelling. -/
theorem withSystemUuid?_eq_findRev? (hd : Distinct cs) :
    (ofList cs).withSystemUuid? raw =
      cs.findRev? fun c => c.systemUuid?.map Text.lower == some (Text.lower raw) :=
  withSystemUuid?_ofList.trans
    (index_eq_findRev? (f := fun c => c.systemUuid?.map Text.lower) hd)

end lookups

/-- The consumers of a list differ in their uuids and, as far as they have one, in their hypervisor
ids. -/
structure Unambiguous (cs : List Consumer) : Prop where
  /-- No uuid repeats. -/
  uuids : (cs.map (·.uuid)).Nodup
  /-- No hypervisor id repeats. -/
  ids : (cs.filterMap (·.hypervisorId?)).Nodup

namespace Unambiguous

variable {cs : List Consumer} {raw : String} {c : Consumer}

/-- Consumers that ids tell apart have different uuids. -/
theorem distinct (h : Unambiguous cs) : Distinct cs :=
  fun _ hc _ hc' huuid => List.inj_on_of_nodup_map h.uuids hc hc' huuid

/-- No two of them have one hypervisor id. -/
theorem eq_of_hypervisorId? (h : Unambiguous cs) {c' : Consumer} {i : String} (hc : c ∈ cs)
    (hc' : c' ∈ cs) (hi : c.hypervisorId? = some i) (hi' : c'.hypervisorId? = some i) : c = c' :=
  Lists.eq_of_nodup_filterMap h.ids hc hc' hi hi'

/-- A hypervisor id finds the one host that has its canonical form. -/
theorem withHypervisorId?_eq_some_iff (h : Unambiguous cs) :
    (ofList cs).withHypervisorId? raw = some c ↔
      c ∈ cs ∧ c.hypervisorId? = some (canonical raw) := by
  constructor
  · intro hfound
    exact ⟨mem_of_withHypervisorId? hfound, hypervisorId?_of_withHypervisorId? h.distinct hfound⟩
  · rintro ⟨hc, hid⟩
    obtain ⟨c', hc'⟩ := exists_withHypervisorId? hc hid
    have hid' := hypervisorId?_of_withHypervisorId? h.distinct hc'
    rw [hc', h.eq_of_hypervisorId? (mem_of_withHypervisorId? hc') hc hid' hid]

end Unambiguous

end KnownHosts

end HostRoster
