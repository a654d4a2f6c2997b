import HostRoster.Dict
import HostRoster.Proofs.Lists
import Mathlib.Data.List.Induction

/-!
# Look-ups after changes of a dictionary

A dictionary is known by its look-ups. The lists that are read off it, its keys and values, are
described by look-ups too, and so is the dictionary that a list of pairs leaves behind.
-/

namespace HostRoster

namespace Dict

variable {α : Type}

@[simp] theorem get?_empty (k : String) : (empty : Dict α).get? k = none := rfl

@[simp] theorem contains_empty (k : String) : (empty : Dict α).contains k = false := rfl

@[simp] theorem get?_insert_self (d : Dict α) (k : String) (v : α) :
    (d.insert k v).get? k = some v := by
  rw [get?_insert, if_pos rfl]

/-- All other keys find what they found before. -/
theorem get?_insert_of_ne (d : Dict α) {k j : String} (v : α) (h : k ≠ j) :
    (d.insert k v).get? j = d.get? j := by
  rw [get?_insert, if_neg h]

/-- What is found after an insertion is the new value or was found before. -/
theorem eq_or_get?_of_insert {d : Dict α} {k j : String} {v w : α}
    (h : (d.insert k v).get? j = some w) : (k = j ∧ w = v) ∨ d.get? j = some w := by
  rw [get?_insert] at h
  by_cases hk : k = j
  · rw [if_pos hk, Option.some.injEq] at h
    exact Or.inl ⟨hk, h.symm⟩
  · rw [if_neg hk] at h
    exact Or.inr h

/-- A dictionary with one value has no other. -/
theorem eq_of_get?_single {k j : String} {v w : α}
    (h : ((empty : Dict α).insert k v).get? j = some w) :
    j = k ∧ w = v := by
  rcases eq_or_get?_of_insert h with ⟨hk, hw⟩ | hnone
  · exact ⟨hk.symm, hw⟩
  · cases hnone

/-- A key is contained when it has a value. -/
theorem contains_iff {d : Dict α} {k : String} : d.contains k = true ↔ ∃ v, d.get? k = some v :=
  Option.isSome_iff_exists

/-- A key is there after an insertion if it is the one inserted or was there before. -/
theorem contains_insert (d : Dict α) (k j : String) (v : α) :
    (d.insert k v).contains j = (decide (k = j) || d.contains j) := by
  rw [contains, contains, get?_insert]
  by_cases h : k = j <;> simp [h]

/-- The values are what look-ups find. -/
theorem mem_values_iff {d : Dict α} {v : α} : v ∈ d.values ↔ ∃ k, d.get? k = some v := by
  rw [values, List.mem_map]
  constructor
  · rintro ⟨⟨k, w⟩, hm, rfl⟩
    exact ⟨k, get?_eq_some_iff.mpr hm⟩
  · rintro ⟨k, hk⟩
    exact ⟨(k, v), get?_eq_some_iff.mp hk, rfl⟩

/-- The keys are what is contained. -/
theorem mem_keys_iff {d : Dict α} {k : String} : k ∈ d.keys ↔ d.contains k = true := by
  rw [keys, List.mem_map, contains_iff]
  constructor
  · rintro ⟨⟨j, v⟩, hm, rfl⟩
    exact ⟨v, get?_eq_some_iff.mpr hm⟩
  · rintro ⟨v, hv⟩
    exact ⟨(k, v), get?_eq_some_iff.mp hv, rfl⟩

/-- No key is listed twice. -/
theorem nodup_keys (d : Dict α) : d.keys.Nodup := by
  rw [keys, List.Nodup, List.pairwise_map]
  exact d.ascending.imp fun {a b} (hlt : a.1 < b.1) (heq : a.1 = b.1) =>
    String.lt_irrefl b.1 (heq ▸ hlt)

/-- The first key with a property is the smallest one with it. -/
theorem find?_keys_eq_some_iff {d : Dict α} {p : String → Bool} {k : String} :
    d.keys.find? p = some k ↔ (d.contains k = true ∧ p k = true) ∧
      ∀ j, d.contains j = true → p j = true → ¬ j < k := by
  have hascending : d.keys.Pairwise (· < ·) := List.pairwise_map.mpr d.ascending
  rw [List.find?_eq_some_iff_append, ← mem_keys_iff]
  simp only [← mem_keys_iff]
  constructor
  · rintro ⟨hk, before, after, hkeys, hbefore⟩
    rw [hkeys] at hascending ⊢
    obtain ⟨_, hafter, _⟩ := List.pairwise_append.mp hascending
    refine ⟨⟨by simp, hk⟩, fun j hj hpj hlt => ?_⟩
    rcases List.mem_append.mp hj with hj | hj
    · have hnot := hbefore j hj
      rw [hpj] at hnot
      cases hnot
    · rcases List.mem_cons.mp hj with rfl | hj
      · exact String.lt_irrefl _ hlt
      · have hgt : k < j := (List.pairwise_cons.mp hafter).1 j hj
        exact String.lt_irrefl _ (String.lt_trans hlt hgt)
  · rintro ⟨⟨hk, hpk⟩, hleast⟩
    obtain ⟨before, after, hkeys⟩ := List.append_of_mem hk
    refine ⟨hpk, before, after, hkeys, fun j hj => ?_⟩
    rw [hkeys] at hascending hleast
    have hlt : j < k := (List.pairwise_append.mp hascending).2.2 j hj k List.mem_cons_self
    cases hpj : p j with
    | false => rfl
    | true => exact absurd hlt (hleast j (List.mem_append_left _ hj) hpj)

/-- The last value with a property is the one with the greatest key. -/
theorem exists_greatest_of_findRev?_values {d : Dict α} {p : α → Bool} {v : α}
    (h : d.values.findRev? p = some v) :
    p v = true ∧ ∃ k, d.get? k = some v ∧ ∀ j w, d.get? j = some w → p w = true → j ≤ k := by
  rw [List.findRev?_eq_find?_reverse, List.find?_eq_some_iff_append] at h
  obtain ⟨hpv, after, before, hvalues, hafter⟩ := h
  rw [values, ← List.map_reverse, List.map_eq_append_iff] at hvalues
  obtain ⟨later, rest, hentries, rfl, hrest⟩ := hvalues
  rw [List.map_eq_cons_iff] at hrest
  obtain ⟨⟨k, v'⟩, earlier, rfl, rfl, rfl⟩ := hrest
  have hmem {e : String × α} : e ∈ d.entries ↔ e ∈ later ++ (k, v') :: earlier := by
    rw [← hentries, List.mem_reverse]
  have hdescending : (later ++ (k, v') :: earlier).Pairwise fun a b => b.1 < a.1 := by
    rw [← hentries, List.pairwise_reverse]
    exact d.ascending
  refine ⟨hpv, k, get?_eq_some_iff.mpr (hmem.mpr (by simp)), fun j w hj hpw => ?_⟩
  rcases List.mem_append.mp (hmem.mp (get?_eq_some_iff.mp hj)) with hlater | hrest
  · -- Values under greater keys do not have the property.
    have hnot := hafter w (List.mem_map_of_mem hlater)
    rw [hpw] at hnot
    cases hnot
  · rcases List.mem_cons.mp hrest with heq | hearlier
    · cases heq
      exact String.le_refl _
    · have hlt := (List.pairwise_cons.mp (List.pairwise_append.mp hdescending).2.1).1 _ hearlier
      exact String.not_lt.mp fun hgt => String.lt_irrefl _ (String.lt_trans hlt hgt)

/-- Nothing is found under the erased key, and under others what was found before. -/
theorem get?_erase (d : Dict α) (k j : String) :
    (d.erase k).get? j = if k = j then none else d.get? j := by
  apply Option.ext
  intro v
  rw [get?_eq_some_iff]
  by_cases h : k = j
  · simp [erase, h]
  · simp [erase, h, get?_eq_some_iff, Ne.symm h]

/-- What is found without a key was found with it. -/
theorem get?_of_erase {d : Dict α} {k j : String} {v : α} (h : (d.erase k).get? j = some v) :
    d.get? j = some v := by
  rw [get?_erase] at h
  split at h
  · cases h
  · exact h

/-- What is found without a key stands under another one. -/
theorem ne_and_get?_of_erase {d : Dict α} {k j : String} {v : α}
    (h : (d.erase k).get? j = some v) : k ≠ j ∧ d.get? j = some v := by
  refine ⟨fun hk => ?_, get?_of_erase h⟩
  rw [get?_erase, if_pos hk] at h
  cases h

/-- There is nothing to take away where nothing is. -/
theorem erase_eq_self {d : Dict α} {k : String} (h : d.get? k = none) : d.erase k = d := by
  refine eq_of_get?_eq fun j => ?_
  rw [get?_erase]
  by_cases hk : k = j
  · rw [if_pos hk, ← hk, h]
  · rw [if_neg hk]

/-- A list of pairs is inserted over a dictionary as its own dictionary would be laid over it. -/
theorem get?_foldl_insert (l : List (String × α)) (d : Dict α) (k : String) :
    (l.foldl (fun d e => d.insert e.1 e.2) d).get? k = ((ofList l).get? k).or (d.get? k) := by
  induction l using List.reverseRecOn with
  | nil => rfl
  | append_singleton l e ih =>
    simp only [ofList, List.foldl_append, List.foldl_cons, List.foldl_nil] at ih ⊢
    rw [get?_insert, get?_insert, ih]
    by_cases h : e.1 = k <;> simp [h]

/-- The last entry of a list wins. -/
theorem get?_ofList_concat (l : List (String × α)) (e : String × α) (k : String) :
    (ofList (l ++ [e])).get? k = if e.1 = k then some e.2 else (ofList l).get? k := by
  rw [ofList, List.foldl_append]
  exact get?_insert _ _ _ _

/-- Of the values that a list has under a key its dictionary finds the last one. -/
theorem get?_ofList_eq_findRev? (l : List (String × α)) (k : String) :
    (ofList l).get? k = (l.findRev? fun e => e.1 == k).map Prod.snd := by
  rw [List.findRev?_eq_find?_reverse]
  induction l using List.reverseRecOn with
  | nil => rfl
  | append_singleton l e ih =>
    rw [get?_ofList_concat, ih, List.reverse_append, List.reverse_singleton, List.singleton_append,
      List.find?_cons]
    cases he : e.1 == k with
    | true => rw [if_pos (beq_iff_eq.mp he), Option.map_some]
    | false => rw [if_neg (beq_eq_false_iff_ne.mp he)]

/-- Of the members that are put under keys of their own the last one under a key is found. -/
theorem get?_ofList_map {β : Type} (key : β → String) (f : β → α) (l : List β) (k : String) :
    (ofList (l.map fun b => (key b, f b))).get? k = (l.findRev? fun b => key b == k).map f := by
  rw [get?_ofList_eq_findRev?, Lists.findRev?_map, Option.map_map]
  rfl

/-- What the dictionary of a list finds stands in the list. -/
theorem mem_of_get?_ofList {l : List (String × α)} {k : String} {v : α}
    (h : (ofList l).get? k = some v) : (k, v) ∈ l := by
  induction l using List.reverseRecOn with
  | nil => simp [ofList] at h
  | append_singleton l e ih =>
    rw [get?_ofList_concat] at h
    by_cases hk : e.1 = k
    · rw [if_pos hk, Option.some.injEq] at h
      subst hk h
      simp
    · rw [if_neg hk] at h
      exact List.mem_append_left _ (ih h)

/-- Every key of a list has a value in its dictionary. -/
theorem contains_ofList {l : List (String × α)} {k : String} :
    (ofList l).contains k = true ↔ ∃ v, (k, v) ∈ l := by
  constructor
  · intro h
    obtain ⟨v, hv⟩ := contains_iff.mp h
    exact ⟨v, mem_of_get?_ofList hv⟩
  · rintro ⟨v, hv⟩
    induction l using List.reverseRecOn with
    | nil => simp at hv
    | append_singleton l e ih =>
      rw [contains, get?_ofList_concat]
      by_cases hk : e.1 = k
      · simp [hk]
      · rw [if_neg hk]
        exact ih ((List.mem_append.mp hv).resolve_right fun he =>
          hk (congrArg Prod.fst (List.mem_singleton.mp he)).symm)

/-- Where a list has one value under a key at most, its dictionary finds exactly the pairs there. -/
theorem get?_ofList_eq_some_iff {l : List (String × α)} {k : String}
    (h : ∀ v w, (k, v) ∈ l → (k, w) ∈ l → v = w) {v : α} :
    (ofList l).get? k = some v ↔ (k, v) ∈ l := by
  refine ⟨mem_of_get?_ofList, fun hv => ?_⟩
  obtain ⟨w, hw⟩ := contains_iff.mp (contains_ofList.mpr ⟨v, hv⟩)
  rw [hw, h w v (mem_of_get?_ofList hw) hv]

/-- A dictionary is that of its entries. -/
theorem ofList_entries (d : Dict α) : ofList d.entries = d := by
  refine eq_of_get?_eq fun k => Option.ext fun v => ?_
  rw [get?_ofList_eq_some_iff, get?_eq_some_iff]
  intro v w hv hw
  rw [← get?_eq_some_iff] at hv hw
  exact Option.some.inj (hv.symm.trans hw)

/-- A dictionary without entries finds nothing. -/
theorem isEmpty_iff {d : Dict α} : d.isEmpty = true ↔ ∀ k, d.contains k = false := by
  constructor
  · intro h k
    obtain ⟨entries, _⟩ := d
    rw [isEmpty, List.isEmpty_iff] at h
    subst h
    rfl
  · intro h
    rw [isEmpty, List.isEmpty_iff]
    refine List.eq_nil_iff_forall_not_mem.mpr fun e he => ?_
    have hk := h e.1
    rw [contains, get?_eq_some_iff.mpr he] at hk
    cases hk

end Dict

namespace Keys

/-- A set with one more member has this member and those before. -/
theorem contains_add (s : Keys) (k j : String) :
    (s.add k).contains j = (decide (k = j) || s.contains j) :=
  Dict.contains_insert s k j ()

/-- Sets with the same members are equal. -/
theorem eq_of_contains_iff {s t : Keys} (h : ∀ k, s.contains k = true ↔ t.contains k = true) :
    s = t := by
  refine Dict.eq_of_get?_eq fun k => ?_
  have hk := h k
  rw [Dict.contains, Dict.contains] at hk
  cases hs : s.get? k <;> cases ht : t.get? k <;> simp_all

/-- Texts that are added one after the other are in the set next to those before. -/
theorem contains_foldl_add {β : Type} {l : List β} {f : β → String} {s : Keys} {k : String} :
    (l.foldl (fun s e => s.add (f e)) s).contains k = true ↔
      s.contains k = true ∨ ∃ e ∈ l, f e = k := by
  induction l generalizing s with
  | nil => simp
  | cons e rest ih =>
    rw [List.foldl_cons, ih, contains_add]
    simp [or_assoc, or_left_comm]

end Keys

end HostRoster
