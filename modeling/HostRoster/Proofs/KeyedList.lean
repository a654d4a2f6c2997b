import HostRoster.KeyedList
import HostRoster.Proofs.Dict
import HostRoster.Proofs.Lists
import Mathlib.Data.List.Forall2

/-!
# Pairs put one after the other

What becomes of pairs that are put into a keyed list: no key repeats, pairs whose keys do not repeat
stay as they are, and a dictionary does not notice whether pairs were put into a keyed list before.
For each key the last content stays, in the order in which the keys were first mentioned.
-/

namespace HostRoster.KeyedList

variable {α β : Type} {l : List (String × α)} {k : String} {v : α}

/-- Nothing is found under exactly the keys that are not there. -/
theorem find?_eq_none_iff : find? k l = none ↔ k ∉ names l := by
  induction l with
  | nil => simp [find?, names]
  | cons e rest ih =>
    rw [find?]
    split
    · next h => simp [names, h]
    · next h =>
      rw [ih]
      simp [names, Ne.symm h]

/-- A key under which something is found is there. -/
theorem mem_names_of_find? (h : find? k l = some v) : k ∈ names l := by
  by_contra hnew
  rw [find?_eq_none_iff.mpr hnew] at h
  cases h

/-- Where no key repeats, a look-up finds exactly the pairs there. -/
theorem find?_eq_some_iff (h : (names l).Nodup) : find? k l = some v ↔ (k, v) ∈ l := by
  induction l with
  | nil => simp [find?]
  | cons e rest ih =>
    rw [names, List.map_cons] at h
    obtain ⟨hnew, hrest⟩ := List.nodup_cons.mp h
    rw [find?, List.mem_cons]
    split
    · next he =>
      subst he
      constructor
      · rintro ⟨⟩
        exact Or.inl rfl
      · rintro (heq | hmem)
        · rw [← heq]
        · exact absurd (List.mem_map.mpr ⟨_, hmem, rfl⟩) hnew
    · next hne =>
      rw [ih hrest]
      exact ⟨Or.inr, fun hmem => hmem.resolve_left fun he => hne (congrArg Prod.fst he).symm⟩

/-- The first of two lists is looked through first. -/
theorem find?_append (l l' : KeyedList α) : find? k (l ++ l') = (find? k l).or (find? k l') := by
  induction l with
  | nil => rfl
  | cons e rest ih =>
    rw [List.cons_append, find?, find?]
    split
    · rfl
    · exact ih

theorem names_append (l l' : KeyedList α) : names (l ++ l') = names l ++ names l' := List.map_append

/-- Every entry after a value was put is the new one or was there before. -/
theorem mem_put {l : KeyedList α} {e : String × α} (h : e ∈ put k v l) :
    e = (k, v) ∨ e ∈ l := by
  induction l with
  | nil => simpa [put] using h
  | cons d rest ih => grind [put]

/-- The last pair is put over all others. -/
theorem ofPairs_concat (l : List (String × α)) (e : String × α) :
    ofPairs (l ++ [e]) = put e.1 e.2 (ofPairs l) := by
  rw [ofPairs, List.foldl_append]
  rfl

/-- Putting pairs one after the other makes no new pairs. -/
theorem mem_of_mem_ofPairs {e : String × α} (h : e ∈ ofPairs l) : e ∈ l := by
  induction l using List.reverseRecOn with
  | nil => simp [ofPairs] at h
  | append_singleton l d ih =>
    rw [ofPairs_concat] at h
    rcases mem_put h with rfl | h
    · simp
    · exact List.mem_append_left _ (ih h)

/-- No key is mentioned twice. -/
theorem nodup_names_ofPairs (l : List (String × α)) : (names (ofPairs l)).Nodup := by
  induction l using List.reverseRecOn with
  | nil => exact .nil
  | append_singleton l d ih =>
    rw [ofPairs_concat, names_put]
    split
    · exact ih
    · next hnew =>
      refine List.nodup_append.mpr ⟨ih, List.pairwise_singleton _ _, fun k hk j hj hkj => hnew ?_⟩
      rwa [← List.mem_singleton.mp hj, ← hkj]

/-- Contents that are kept under a key of their own differ in it. -/
theorem pairwise_contents_ofPairs {key : α → String} (h : ∀ e ∈ l, e.1 = key e.2) :
    (contents (ofPairs l)).Pairwise fun v w => key v ≠ key w := by
  have hnames : names (ofPairs l) = (contents (ofPairs l)).map key := by
    rw [names, contents, List.map_map]
    exact List.map_congr_left fun e he => h e (mem_of_mem_ofPairs he)
  have hnodup := nodup_names_ofPairs l
  rw [hnames, List.Nodup, List.pairwise_map] at hnodup
  exact hnodup

/-- Every content comes from a pair. -/
theorem mem_of_mem_contents_ofPairs (h : v ∈ contents (ofPairs l)) :
    ∃ k, (k, v) ∈ l := by
  obtain ⟨⟨k, w⟩, he, rfl⟩ := List.mem_map.mp h
  exact ⟨k, mem_of_mem_ofPairs he⟩

/-- A new key goes to the end. -/
theorem put_of_not_mem (h : k ∉ names l) : put k v l = l ++ [(k, v)] := by
  induction l with
  | nil => rfl
  | cons e rest ih =>
    rw [names, List.map_cons, List.mem_cons, not_or] at h
    rw [put, if_neg (Ne.symm h.1), ih h.2, List.cons_append]

/-- Pairs whose keys do not repeat stay as they are. -/
theorem ofPairs_of_nodup (h : (names l).Nodup) : ofPairs l = l := by
  induction l using List.reverseRecOn with
  | nil => rfl
  | append_singleton l e ih =>
    rw [names_append] at h
    obtain ⟨hl, _, hnew⟩ := List.nodup_append.mp h
    rw [ofPairs_concat, ih hl]
    exact put_of_not_mem fun hk => hnew _ hk e.1 (List.mem_singleton.mpr rfl) rfl

/-- The dictionary of pairs finds what the keyed list finds. -/
theorem get?_ofList_eq_find? (l : List (String × α)) (k : String) :
    (Dict.ofList l).get? k = find? k (ofPairs l) := by
  induction l using List.reverseRecOn with
  | nil => rfl
  | append_singleton l e ih => rw [Dict.get?_ofList_concat, ofPairs_concat, find?_put, ih]

/-- A dictionary does not tell whether pairs with one key were put together before. -/
theorem ofList_ofPairs (l : List (String × α)) : Dict.ofList (ofPairs l) = Dict.ofList l :=
  Dict.eq_of_get?_eq fun k => by
    rw [get?_ofList_eq_find?, get?_ofList_eq_find?, ofPairs_of_nodup (nodup_names_ofPairs l)]

/-- The keys stay in the order in which they were first mentioned. -/
theorem names_ofPairs (l : List (String × α)) : names (ofPairs l) = (names l).eraseDups := by
  induction l using List.reverseRecOn with
  | nil => rfl
  | append_singleton l e ih =>
    rw [ofPairs_concat, names_put, names_append, List.eraseDups_append, ih]
    have hlast : names [e] = [e.1] := rfl
    by_cases hk : e.1 ∈ names l
    · rw [if_pos (List.mem_eraseDups.mpr hk)]
      simp [hlast, List.cons_removeAll, hk]
    · rw [if_neg (mt List.mem_eraseDups.mp hk)]
      simp [hlast, List.cons_removeAll, List.eraseDups_cons, hk]

/-- Where no key repeats, the contents are what is found under one key after the other. -/
theorem contents_eq_filterMap (h : (names l).Nodup) :
    contents l = (names l).filterMap fun k => find? k l := by
  induction l with
  | nil => rfl
  | cons e rest ih =>
    obtain ⟨hnew, hrest⟩ := List.nodup_cons.mp h
    have hothers : ∀ k ∈ names rest, find? k (e :: rest) = find? k rest := fun k hk => by
      have hne : e.1 ≠ k := fun hek => hnew (hek.symm ▸ hk)
      rw [find?, if_neg hne]
    rw [names, List.map_cons, List.filterMap_cons_some (by rw [find?, if_pos rfl]), ← names,
      List.filterMap_congr hothers, ← ih hrest, contents, List.map_cons, ← contents]

/-- Of members that are put under keys of their own the last one for each key stays. -/
theorem contents_ofPairs_map (key : α → String) (l : List α) :
    contents (ofPairs (l.map fun a => (key a, a))) = Lists.lastOfEach key l := by
  have hlast (k : String) :
      find? k (ofPairs (l.map fun a => (key a, a))) = l.findRev? fun a => key a == k := by
    rw [← get?_ofList_eq_find?, Dict.get?_ofList_map key]
    exact Option.map_id_apply
  rw [contents_eq_filterMap (nodup_names_ofPairs _), names_ofPairs, names, List.map_map]
  simp only [hlast]
  rfl

/-- The last members for each key differ in it. -/
theorem pairwise_lastOfEach (key : α → String) (l : List α) :
    (Lists.lastOfEach key l).Pairwise fun v w => key v ≠ key w := by
  rw [← contents_ofPairs_map]
  refine pairwise_contents_ofPairs fun e he => ?_
  obtain ⟨v, _, rfl⟩ := List.mem_map.mp he
  rfl

/-- Where no key repeats, every member is the last one for its key. -/
theorem lastOfEach_eq_self {key : α → String} {l : List α} (h : (l.map key).Nodup) :
    Lists.lastOfEach key l = l := by
  have hnames : names (l.map fun a => (key a, a)) = l.map key := by
    rw [names, List.map_map]
    rfl
  rw [← contents_ofPairs_map, ofPairs_of_nodup (hnames ▸ h), contents, List.map_map]
  exact List.map_id l

/-- Pairs with the same keys and corresponding contents. -/
abbrev Alike (R : α → β → Prop) : List (String × α) → List (String × β) → Prop :=
  List.Forall₂ fun e d => e.1 = d.1 ∧ R e.2 d.2

section alike

variable {R : α → β → Prop} {m : List (String × β)} {w : β}

/-- Lists with the same keys stay so when corresponding contents are put under one key. -/
theorem alike_put (h : Alike R l m) (hvw : R v w) : Alike R (put k v l) (put k w m) := by
  induction h with
  | nil => exact .cons ⟨rfl, hvw⟩ .nil
  | @cons e d l m hed hrest ih =>
    rw [put, put, ← hed.1]
    split
    · exact .cons ⟨rfl, hvw⟩ hrest
    · exact .cons hed ih

/-- Pairs that are alike stay so when they are put one after the other. -/
theorem alike_ofPairs (h : Alike R l m) : Alike R (ofPairs l) (ofPairs m) := by
  refine List.rel_foldl (P := Alike R) (fun done done' hdone e d hed => ?_) .nil h
  have hput := alike_put (k := e.1) hdone hed.2
  rwa [hed.1] at hput ⊢

/-- Under a key both hold corresponding contents, or nothing. -/
theorem rel_find? (h : Alike R l m) (k : String) : Option.Rel R (find? k l) (find? k m) := by
  induction h with
  | nil => exact .none
  | @cons e d l m hed _ ih =>
    rw [find?, find?, ← hed.1]
    split
    · exact .some hed.2
    · exact ih

end alike

end HostRoster.KeyedList
