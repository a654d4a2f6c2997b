import HostRoster.Guests
import HostRoster.Proofs.Report
import Mathlib.Data.List.Nodup

/-!
# Differences of guest lists

A guest list is read by its last spelling of each guest. Two lists do not differ if those of the
stored one are the reported guests, so a reported list that repeats nothing takes the place of
whatever is stored with other last spellings. A stored list that repeats a guest stays as it is if
its last spellings happen to be the reported guests: it then holds more than was reported.
-/

namespace HostRoster

/-- Spellings of one guest in a list without repetitions are one spelling. -/
theorem Unlike.eq_of_lower_eq {l : List String} (h : Unlike l) {g g' : String} (hg : g ∈ l)
    (hg' : g' ∈ l) (heq : Text.lower g = Text.lower g') : g = g' := by
  have hnodup : (l.map Text.lower).Nodup := List.pairwise_map.mpr h
  exact List.inj_on_of_nodup_map hnodup hg hg' heq

theorem Unlike.nodup {l : List String} (h : Unlike l) : l.Nodup :=
  h.imp fun hne heq => hne (congrArg Text.lower heq)

/-- The order of a list does not matter. -/
theorem Unlike.perm {l m : List String} (h : Unlike l) (hlm : l.Perm m) : Unlike m :=
  List.Pairwise.perm h hlm fun hne => hne.symm

/-- The last spelling of each guest of a list. -/
abbrev lastSpellings (l : List String) : List String := Lists.lastOfEach Text.lower l

/-- The last spellings of all guests repeat none. -/
theorem unlike_lastSpellings (l : List String) : Unlike (lastSpellings l) :=
  KeyedList.pairwise_lastOfEach Text.lower l

/-- A list without repetitions is its own last spellings. -/
theorem Unlike.lastSpellings_eq {l : List String} (h : Unlike l) : lastSpellings l = l :=
  KeyedList.lastOfEach_eq_self (List.pairwise_map.mpr h)

/-- Two texts have the same letters if they are equal in lower case. -/
theorem Text.sameLetters_iff {s t : String} :
    Text.sameLetters s t = true ↔ Text.lower s = Text.lower t :=
  beq_iff_eq

namespace GuestDiff

variable {l stored reported : List String} {g key : String}

/-- The spelling under a key is the last one in the list with this key. -/
theorem spelling?_keyed_eq_findRev? (l : List String) (key : String) :
    spelling? (keyed l) key = l.findRev? fun g => Text.lower g == key := by
  rw [spelling?, keyed, Lists.findRev?_map, Option.map_map]
  exact Option.map_id_apply

/-- A spelling that is found is one of the list, with the key that was looked for. -/
theorem mem_of_spelling? (h : spelling? (keyed l) key = some g) : g ∈ l ∧ Text.lower g = key := by
  rw [spelling?_keyed_eq_findRev?, Lists.findRev?_eq_some_iff] at h
  exact ⟨h.mem, beq_iff_eq.mp h.has⟩

/-- No spelling is found exactly if the guest is not listed. -/
theorem spelling?_eq_none_iff :
    spelling? (keyed l) key = Option.none ↔ ∀ g ∈ l, Text.lower g ≠ key := by
  simp only [spelling?_keyed_eq_findRev?, Lists.findRev?_eq_none_iff, ne_eq, beq_iff_eq]

/-- Every guest of the list is found under its key. -/
theorem exists_spelling? (hg : g ∈ l) :
    ∃ g', spelling? (keyed l) (Text.lower g) = some g' := by
  rw [← Option.ne_none_iff_exists']
  intro hnone
  exact spelling?_eq_none_iff.mp hnone g hg rfl

/-- In a list without repetitions a guest is found in the spelling it is listed in. -/
theorem spelling?_eq_some_iff (h : Unlike l) :
    spelling? (keyed l) key = some g ↔ g ∈ l ∧ Text.lower g = key := by
  constructor
  · exact mem_of_spelling?
  · rintro ⟨hg, rfl⟩
    obtain ⟨g', hg'⟩ := exists_spelling? hg
    obtain ⟨hmem, hlower⟩ := mem_of_spelling? hg'
    rw [hg', h.eq_of_lower_eq hmem hg hlower]

/-- The last spelling of a guest is the one that is found. -/
theorem mem_lastSpellings : g ∈ lastSpellings l ↔ spelling? (keyed l) (Text.lower g) = some g := by
  rw [Lists.mem_lastOfEach, spelling?_keyed_eq_findRev?]

/-- Added guests are reported and not stored. -/
theorem additions_between (stored reported : List String) :
    (between stored reported).additions =
      reported.filter fun g => (spelling? (keyed stored) (Text.lower g)).isNone := by
  simp only [between, keyed, List.filter_map, List.map_map, Function.comp_def, List.map_id']

/-- Removed guests are stored and not reported. -/
theorem removals_between (stored reported : List String) :
    (between stored reported).removals =
      stored.filter fun g => (spelling? (keyed reported) (Text.lower g)).isNone := by
  simp only [between, keyed, List.filter_map, List.map_map, Function.comp_def, List.map_id']

/-- Respelled guests are reported, and stored in another spelling. -/
theorem respelled_between (stored reported : List String) :
    (between stored reported).respelled =
      reported.filter fun g => (spelling? (keyed stored) (Text.lower g)).any (· != g) := by
  simp only [between, keyed, List.filter_map, List.map_map, Function.comp_def, List.map_id']

/-- A difference is empty only if it is the one without any part. -/
theorem isEmpty_iff {d : GuestDiff} : d.isEmpty = true ↔ d = .none := by
  cases d
  simp [isEmpty, none, and_assoc]

/-- If nothing is added, removed or spelled differently, reported guests are stored as they are, and
stored ones are reported in some spelling. -/
theorem isEmpty_between_iff :
    (between stored reported).isEmpty = true ↔
      (∀ g ∈ reported, spelling? (keyed stored) (Text.lower g) = some g) ∧
        ∀ g ∈ stored, ∃ g', spelling? (keyed reported) (Text.lower g) = some g' := by
  simp only [isEmpty, additions_between, removals_between, respelled_between, Bool.and_eq_true,
    List.isEmpty_iff, List.filter_eq_nil_iff, Option.isNone_iff_eq_none, Option.any_eq_true,
    not_exists, not_and, bne_iff_ne, ne_eq, Decidable.not_not]
  constructor
  · rintro ⟨⟨hadditions, hremovals⟩, hrespelled⟩
    refine ⟨fun g hg => ?_, fun g hg => Option.ne_none_iff_exists'.mp (hremovals g hg)⟩
    obtain ⟨g', hg'⟩ := Option.ne_none_iff_exists'.mp (hadditions g hg)
    rw [hg', hrespelled g hg g' hg']
  · rintro ⟨hreported, hstored⟩
    refine ⟨⟨fun g hg => ?_, fun g hg => ?_⟩, fun g hg g' hg' => ?_⟩
    · rw [hreported g hg]
      exact Option.some_ne_none g
    · obtain ⟨g', hg'⟩ := hstored g hg
      rw [hg']
      exact Option.some_ne_none g'
    · rw [hreported g hg] at hg'
      exact (Option.some.inj hg').symm

/-- A list does not differ from one without repetitions exactly if its last spellings are the guests
there. -/
theorem isEmpty_between_iff_perm (hreported : Unlike reported) :
    (between stored reported).isEmpty = true ↔ (lastSpellings stored).Perm reported := by
  rw [isEmpty_between_iff,
    List.perm_ext_iff_of_nodup (unlike_lastSpellings stored).nodup hreported.nodup]
  simp only [mem_lastSpellings]
  constructor
  · rintro ⟨hfound, hspelled⟩ g
    refine ⟨fun hg => ?_, hfound g⟩
    -- The guest is reported in some spelling, which is then the last one that is stored.
    obtain ⟨g', hg'⟩ := hspelled g (mem_of_spelling? hg).1
    obtain ⟨hmem, hlower⟩ := mem_of_spelling? hg'
    have hlast := hfound g' hmem
    rw [hlower, hg] at hlast
    rwa [Option.some.inj hlast]
  · intro hsame
    refine ⟨fun g hg => (hsame g).mpr hg, fun g hg => ?_⟩
    obtain ⟨g', hg'⟩ := exists_spelling? hg
    obtain ⟨_, hlower⟩ := mem_of_spelling? hg'
    rw [← hlower] at hg' ⊢
    exact exists_spelling? ((hsame g').mp hg')

/-- A list without repetitions does not differ from itself. -/
theorem isEmpty_between_self (h : Unlike l) : (between l l).isEmpty = true := by
  rw [isEmpty_between_iff_perm h, h.lastSpellings_eq]

end GuestDiff

variable {stored reported : List String}

/-- Guests that differ in nothing are kept as they are spelt and ordered. -/
theorem replaceGuests_of_isEmpty (h : (GuestDiff.between stored reported).isEmpty = true) :
    (replaceGuests stored reported).1 = stored := by
  simp only [replaceGuests, h, if_true]

/-- Otherwise the reported list takes their place as it is. -/
theorem replaceGuests_of_not_isEmpty (h : (GuestDiff.between stored reported).isEmpty = false) :
    (replaceGuests stored reported).1 = reported := by
  simp only [replaceGuests, h, Bool.false_eq_true, if_false]

/-- The list to store is the stored one or the reported one. -/
theorem replaceGuests_cases (stored reported : List String) :
    (replaceGuests stored reported).1 = stored ∨ (replaceGuests stored reported).1 = reported := by
  cases hdiff : (GuestDiff.between stored reported).isEmpty with
  | true => exact Or.inl (replaceGuests_of_isEmpty hdiff)
  | false => exact Or.inr (replaceGuests_of_not_isEmpty hdiff)

/-- The list that replaces another does not differ from the reported one. -/
theorem isEmpty_between_replaceGuests (h : Unlike reported) :
    (GuestDiff.between (replaceGuests stored reported).1 reported).isEmpty = true := by
  cases hdiff : (GuestDiff.between stored reported).isEmpty with
  | true => rw [replaceGuests_of_isEmpty hdiff, hdiff]
  | false =>
    rw [replaceGuests_of_not_isEmpty hdiff]
    exact GuestDiff.isEmpty_between_self h

/-- Another list is stored exactly if the two lists are said to differ. -/
theorem replaceGuests_ne_iff (h : Unlike reported) :
    (replaceGuests stored reported).1 ≠ stored ↔
      (GuestDiff.between stored reported).isEmpty = false := by
  cases hdiff : (GuestDiff.between stored reported).isEmpty with
  | true => simp [replaceGuests_of_isEmpty hdiff]
  | false =>
    rw [replaceGuests_of_not_isEmpty hdiff]
    refine ⟨fun _ => rfl, fun _ heq => ?_⟩
    -- A reported list repeats nothing, so it does not differ from itself.
    rw [← heq, GuestDiff.isEmpty_between_self h] at hdiff
    cases hdiff

/-- The list that is stored in place of one without repetitions has the reported guests. -/
theorem perm_replaceGuests (hstored : Unlike stored) (hreported : Unlike reported) :
    (replaceGuests stored reported).1.Perm reported := by
  cases hdiff : (GuestDiff.between stored reported).isEmpty with
  | true =>
    rw [replaceGuests_of_isEmpty hdiff, ← hstored.lastSpellings_eq]
    exact (GuestDiff.isEmpty_between_iff_perm hreported).mp hdiff
  | false =>
    rw [replaceGuests_of_not_isEmpty hdiff]

/-- Whatever was stored, the last spellings in the list that is stored now are the reported guests,
and the list has no other members unless a stored list that repeats a guest had these last spellings
before, in which case it stays as it is. -/
theorem replaceGuests_exact (stored : List String) (hreported : Unlike reported) :
    (lastSpellings (replaceGuests stored reported).1).Perm reported ∧
      ((replaceGuests stored reported).1.Perm reported ↔
        Unlike stored ∨ ¬ (lastSpellings stored).Perm reported) ∧
      (¬ (replaceGuests stored reported).1.Perm reported →
        (replaceGuests stored reported).1 = stored) := by
  refine ⟨?_, ⟨fun hperm => ?_, ?_⟩, fun hperm => ?_⟩
  · exact (GuestDiff.isEmpty_between_iff_perm hreported).mp
      (isEmpty_between_replaceGuests hreported)
  · by_cases hlast : (lastSpellings stored).Perm reported
    · -- The list stays as it is, so it repeats nothing, as the reported one does not.
      have hdiff := (GuestDiff.isEmpty_between_iff_perm hreported).mpr hlast
      rw [replaceGuests_of_isEmpty hdiff] at hperm
      exact Or.inl (hreported.perm hperm.symm)
    · exact Or.inr hlast
  · rintro (hstored | hlast)
    · exact perm_replaceGuests hstored hreported
    · rw [← GuestDiff.isEmpty_between_iff_perm hreported, Bool.not_eq_true] at hlast
      rw [replaceGuests_of_not_isEmpty hlast]
  · rcases replaceGuests_cases stored reported with hkept | hreplaced
    · exact hkept
    · rw [hreplaced] at hperm
      exact absurd (.refl reported) hperm

/-- Of a guest that is stored twice the last spelling was reported, so both stay; where another
guest goes away, the reported list is stored. -/
theorem replaceGuests_exact_repeated :
    Unlike ["G"] ∧ (replaceGuests ["g", "G"] ["G"]).1 = ["g", "G"] ∧
      (replaceGuests ["g", "G", "h"] ["G"]).1.Perm ["G"] := by
  have hreported : Unlike ["G"] := List.pairwise_singleton _ _
  have hlast : ¬ (lastSpellings ["g", "G", "h"]).Perm ["G"] := by decide +kernel
  have htwice : ¬ (replaceGuests ["g", "G"] ["G"]).1.Perm ["G"] := by decide +kernel
  exact ⟨hreported, (replaceGuests_exact ["g", "G"] hreported).2.2 htwice,
    (replaceGuests_exact ["g", "G", "h"] hreported).2.1.mpr (Or.inr hlast)⟩

/-- A reported list that repeats nothing is not always the one that is stored afterwards. -/
theorem exists_replaceGuests_not_perm :
    ∃ stored reported, Unlike reported ∧ ¬ (replaceGuests stored reported).1.Perm reported := by
  refine ⟨["g", "G"], ["G"], List.pairwise_singleton _ _, ?_⟩
  decide +kernel

end HostRoster
