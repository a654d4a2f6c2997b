import Mathlib.Data.List.Forall2
import Mathlib.Data.List.Pairwise

/-!
# Parallel lists, and lists with keys

Lists whose members correspond one by one, and what is passed from one such list to the other. Lists
whose members have keys, and the first or the last member for each key.
-/

namespace HostRoster.Lists

variable {α β γ : Type} {R : α → β → Prop} {l : List α} {m : List β}

/-- Every member on the right has a partner on the left. -/
theorem exists_left (h : List.Forall₂ R l m) {b : β} (hb : b ∈ m) : ∃ a ∈ l, R a b := by
  induction h with
  | nil => simp at hb
  | @cons a b' l m hab _ ih =>
    rcases List.mem_cons.mp hb with rfl | hb
    · exact ⟨a, List.mem_cons_self, hab⟩
    · obtain ⟨a', ha', hr⟩ := ih hb
      exact ⟨a', List.mem_cons_of_mem _ ha', hr⟩

/-- Every member on the left has a partner on the right. -/
theorem exists_right (h : List.Forall₂ R l m) {a : α} (ha : a ∈ l) : ∃ b ∈ m, R a b :=
  exists_left (R := fun b a => R a b) h.flip ha

/-- Members that correspond are members. -/
theorem forall₂_mem (h : List.Forall₂ R l m) :
    List.Forall₂ (fun a b => a ∈ l ∧ b ∈ m ∧ R a b) l m := by
  obtain ⟨hlength, hzip⟩ := List.forall₂_iff_zip.mp h
  refine List.forall₂_iff_zip.mpr ⟨hlength, fun {a b} hab => ?_⟩
  have hmem := List.of_mem_zip hab
  exact ⟨hmem.1, hmem.2, hzip hab⟩

/-- What holds between any two members of a list passes to the members that correspond to them. -/
theorem pairwise_of_forall₂ (h : List.Forall₂ R l m) {P : α → α → Prop} {Q : β → β → Prop}
    (hl : l.Pairwise P)
    (hpq : ∀ {a a' b b'}, R a b → R a' b' → P a a' → Q b b') : m.Pairwise Q := by
  induction h with
  | nil => exact .nil
  | cons hab hrest ih =>
    obtain ⟨ha, hl⟩ := List.pairwise_cons.mp hl
    refine List.pairwise_cons.mpr ⟨fun b' hb' => ?_, ih hl⟩
    obtain ⟨a', ha', hab'⟩ := exists_left hrest hb'
    exact hpq hab hab' (ha a' ha')

/-- Three lists in parallel, of which two are given as pairs. -/
theorem forall₂_of_zip {n : List γ} {Q : α × β → γ → Prop} (h : List.Forall₂ R l m)
    (hq : List.Forall₂ Q (l.zip m) n) : List.Forall₂ (fun a c => ∃ b, R a b ∧ Q (a, b) c) l n := by
  induction h generalizing n with
  | nil =>
    cases hq
    exact .nil
  | @cons a b l m hab _ ih =>
    cases hq with
    | cons hq hrest => exact .cons ⟨b, hab, hq⟩ (ih hrest)

/-- Two correspondences side by side. -/
theorem forall₂_zip_zip {δ : Type} {l' : List γ} {m' : List δ} {S : γ → δ → Prop}
    (h : List.Forall₂ R l m) (h' : List.Forall₂ S l' m') :
    List.Forall₂ (fun a b => R a.1 b.1 ∧ S a.2 b.2) (l.zip l') (m.zip m') := by
  induction h generalizing l' m' with
  | nil => exact .nil
  | cons hab _ ih =>
    cases h' with
    | nil => exact .nil
    | cons hcd hrest => exact .cons ⟨hab, hcd⟩ (ih hrest)

/-- Two correspondences one after the other. -/
theorem forall₂_trans {n : List γ} {S : β → γ → Prop} (h : List.Forall₂ R l m)
    (hs : List.Forall₂ S m n) : List.Forall₂ (fun a c => ∃ b ∈ m, R a b ∧ S b c) l n := by
  induction h generalizing n with
  | nil =>
    cases hs
    exact .nil
  | @cons a b l m hab _ ih =>
    cases hs with
    | cons hbc hrest =>
      refine .cons ⟨b, List.mem_cons_self, hab, hbc⟩ ((ih hrest).imp fun a' c' hac => ?_)
      obtain ⟨b', hb', hac⟩ := hac
      exact ⟨b', List.mem_cons_of_mem _ hb', hac⟩

/-- What corresponds to both of two members at once makes a list between the two lists. -/
theorem exists_between {n : List γ} {S : γ → β → Prop}
    (h : List.Forall₂ (fun a c => ∃ b, R a b ∧ S c b) l n) :
    ∃ m, List.Forall₂ R l m ∧ List.Forall₂ S n m := by
  induction h with
  | nil => exact ⟨[], .nil, .nil⟩
  | cons hac _ ih =>
    obtain ⟨b, hab, hcb⟩ := hac
    obtain ⟨m, hm, hm'⟩ := ih
    exact ⟨b :: m, .cons hab hm, .cons hcb hm'⟩

/-- What is picked on the left corresponds to all on the right. -/
theorem filterMap_eq_map {f : α → Option γ} {g : β → γ}
    (h : List.Forall₂ (fun a b => f a = some (g b)) l m) : l.filterMap f = m.map g := by
  induction h with
  | nil => rfl
  | cons hab _ ih => rw [List.filterMap_cons, hab, List.map_cons, ih]

/-- The members that have a value, and their values. -/
theorem forall₂_filterMap {f : α → Option β} (h : ∀ a ∈ l, ∀ b, f a = some b → R a b) :
    List.Forall₂ R (l.filter fun a => (f a).isSome) (l.filterMap f) := by
  induction l with
  | nil => exact .nil
  | cons a l ih =>
    have hrest := ih fun a' ha' => h a' (List.mem_cons_of_mem _ ha')
    cases hfa : f a with
    | none => simpa [hfa] using hrest
    | some b => simpa [hfa] using ⟨h a List.mem_cons_self b hfa, hrest⟩

/-- A list in the middle that agrees with what is made of the lists on either side. -/
theorem map_eq_map_zip {δ : Type} {n : List γ} {S : β → γ → Prop} {g : β → δ} {f : α × γ → δ}
    (h : List.Forall₂ R l m) (hs : List.Forall₂ S m n)
    (hfg : ∀ {a b c}, c ∈ n → R a b → S b c → g b = f (a, c)) : m.map g = (l.zip n).map f := by
  induction h generalizing n with
  | nil =>
    cases hs
    rfl
  | @cons a b l m hab _ ih =>
    cases hs with
    | cons hbc hrest =>
      rw [List.map_cons, List.zip_cons_cons, List.map_cons, hfg List.mem_cons_self hab hbc,
        ih hrest fun hc => hfg (List.mem_cons_of_mem _ hc)]

/-- What is the same of corresponding members is the same of the lists. -/
theorem map_eq_map {f : α → γ} {g : β → γ} (h : List.Forall₂ (fun a b => f a = g b) l m) :
    l.map f = m.map g := by
  induction h with
  | nil => rfl
  | cons hab _ ih => rw [List.map_cons, List.map_cons, hab, ih]

/-- What is picked on the left is what is picked on the right. -/
theorem filterMap_eq_filterMap {f : α → Option γ} {g : β → Option γ}
    (h : List.Forall₂ (fun a b => f a = g b) l m) : l.filterMap f = m.filterMap g := by
  induction h with
  | nil => rfl
  | cons hab _ ih => rw [List.filterMap_cons, List.filterMap_cons, hab, ih]

/-- Where no value of a partial function repeats, each belongs to one member. -/
theorem eq_of_nodup_filterMap {f : α → Option γ} (h : (l.filterMap f).Nodup) {a a' : α} {c : γ}
    (ha : a ∈ l) (ha' : a' ∈ l) (hc : f a = some c) (hc' : f a' = some c) : a = a' := by
  have hne := List.pairwise_filterMap.mp h
  exact List.Pairwise.forall_of_forall_of_flip
    (R := fun b b' => ∀ c, f b = some c → f b' = some c → b = b') (fun _ _ _ _ _ => rfl)
    (hne.imp fun hne c hb hb' => absurd rfl (hne c hb c hb'))
    (hne.imp fun hne c hb hb' => absurd rfl (hne c hb' c hb)) ha ha' c hc hc'

/-- A member that has a property, and no later member has it. -/
def IsLast (p : α → Prop) (l : List α) (a : α) : Prop :=
  ∃ earlier later, l = earlier ++ a :: later ∧ p a ∧ ∀ b ∈ later, ¬ p b

section last

variable {p q : α → Prop} {r : α → Bool} {a b : α}

/-- The last member with a property is a member. -/
theorem IsLast.mem (h : IsLast p l a) : a ∈ l := by
  obtain ⟨earlier, later, rfl, _⟩ := h
  exact List.mem_append_right _ List.mem_cons_self

/-- It has the property. -/
theorem IsLast.has (h : IsLast p l a) : p a := by
  obtain ⟨_, _, _, ha, _⟩ := h
  exact ha

/-- The last members with two properties are the same if each has the other property as well. -/
theorem IsLast.eq_of_has (ha : IsLast p l a) (hb : IsLast q l b) (hpb : p b) (hqa : q a) :
    a = b := by
  obtain ⟨earlier, later, rfl, -, hlater⟩ := ha
  obtain ⟨earlier', later', hl, -, hlater'⟩ := hb
  rcases List.append_eq_append_iff.mp hl with ⟨mid, -, hmid⟩ | ⟨mid, -, hmid⟩
  · cases mid with
    | nil => exact (List.cons.inj hmid).1
    | cons d mid =>
      obtain ⟨-, rfl⟩ := List.cons.inj hmid
      exact absurd hpb (hlater b (by simp))
  · cases mid with
    | nil => exact (List.cons.inj hmid).1.symm
    | cons d mid =>
      obtain ⟨-, rfl⟩ := List.cons.inj hmid
      exact absurd hqa (hlater' a (by simp))

/-- The last member with a property is the one that is found from the end. -/
theorem findRev?_eq_some_iff : l.findRev? r = some a ↔ IsLast (fun a => r a = true) l a := by
  rw [List.findRev?_eq_find?_reverse, List.find?_eq_some_iff_append]
  simp only [Bool.not_eq_true', Bool.eq_false_iff]
  constructor
  · rintro ⟨ha, later, earlier, hl, hlater⟩
    refine ⟨earlier.reverse, later.reverse, ?_, ha, fun b hb => hlater b (List.mem_reverse.mp hb)⟩
    rw [← List.reverse_inj, hl]
    simp
  · rintro ⟨earlier, later, rfl, ha, hlater⟩
    exact ⟨ha, later.reverse, earlier.reverse, by simp,
      fun b hb => hlater b (List.mem_reverse.mp hb)⟩

/-- Nothing is found from the end exactly if no member is looked for. -/
theorem findRev?_eq_none_iff : l.findRev? r = none ↔ ∀ a ∈ l, r a ≠ true := by
  rw [List.findRev?_eq_find?_reverse, List.find?_eq_none]
  simp only [List.mem_reverse, ne_eq]

/-- A changed list may be searched before it is changed. -/
theorem findRev?_map (f : α → β) (p : β → Bool) (l : List α) :
    (l.map f).findRev? p = (l.findRev? fun a => p (f a)).map f := by
  rw [List.findRev?_eq_find?_reverse, List.findRev?_eq_find?_reverse, ← List.map_reverse,
    List.find?_map]
  rfl

/-- Where some member has a property, some member is the last one. -/
theorem exists_isLast (ha : a ∈ l) (hp : p a) : ∃ b, IsLast p l b := by
  classical
  cases hfound : l.findRev? fun b => decide (p b) with
  | none => exact absurd (decide_eq_true hp) (findRev?_eq_none_iff.mp hfound a ha)
  | some b =>
    rw [findRev?_eq_some_iff] at hfound
    exact ⟨b, by simpa only [decide_eq_true_iff] using hfound⟩

end last

/-- The last member for each key, in the order in which the keys first occur. -/
def lastOfEach [BEq β] (key : α → β) (l : List α) : List α :=
  (l.map key).eraseDups.filterMap fun k => l.findRev? fun a => key a == k

/-- The first member for each key, in the order in which the keys first occur. -/
def firstOfEach [BEq β] (key : α → β) (l : List α) : List α :=
  (l.map key).eraseDups.filterMap fun k => l.find? fun a => key a == k

/-- The first members for all keys are members. -/
theorem mem_of_mem_firstOfEach [BEq β] {key : α → β} {l : List α} {a : α}
    (h : a ∈ firstOfEach key l) : a ∈ l := by
  obtain ⟨_, _, hk⟩ := List.mem_filterMap.mp h
  exact List.mem_of_find?_eq_some hk

/-- The keys are those of the list, each once. -/
theorem map_lastOfEach [BEq β] [LawfulBEq β] (key : α → β) (l : List α) :
    (lastOfEach key l).map key = (l.map key).eraseDups := by
  have hfound : ∀ k ∈ (l.map key).eraseDups,
      (l.findRev? fun a => key a == k).map key = some k := by
    intro k hk
    obtain ⟨a, ha, hak⟩ := List.mem_map.mp (List.mem_eraseDups.mp hk)
    obtain ⟨b, hb⟩ := exists_isLast (p := fun a => (key a == k) = true) ha (beq_iff_eq.mpr hak)
    rw [findRev?_eq_some_iff.mpr hb, Option.map_some, beq_iff_eq.mp hb.has]
  rw [lastOfEach, List.map_filterMap, List.filterMap_congr hfound, List.filterMap_some]

/-- The last member for a key is the one that is found from the end. -/
theorem mem_lastOfEach [BEq β] [LawfulBEq β] {key : α → β} {l : List α} {a : α} :
    a ∈ lastOfEach key l ↔ l.findRev? (fun b => key b == key a) = some a := by
  rw [lastOfEach, List.mem_filterMap]
  constructor
  · rintro ⟨k, _, hk⟩
    have hkey : key a = k := beq_iff_eq.mp (findRev?_eq_some_iff.mp hk).has
    rwa [hkey]
  · intro ha
    have hmem : a ∈ l := (findRev?_eq_some_iff.mp ha).mem
    exact ⟨key a, List.mem_eraseDups.mpr (List.mem_map_of_mem hmem), ha⟩

/-- It is the same whether the last members are taken before or after a change that keeps keys. -/
theorem lastOfEach_map [BEq γ] (key : β → γ) (f : α → β) (l : List α) :
    lastOfEach key (l.map f) = (lastOfEach (fun a => key (f a)) l).map f := by
  simp only [lastOfEach, List.map_map, List.map_filterMap, findRev?_map, Function.comp_def]

end HostRoster.Lists
