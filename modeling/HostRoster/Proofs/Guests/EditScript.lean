import HostRoster.Proofs.Guests
import Mathlib.Data.List.Perm.Basic

/-!
# Differences as edits

The difference of two guest lists without repetitions says how to get from one to the other. Every
reported guest is stored in another spelling, stored as it is, or not stored at all, and every
stored guest is dropped or ends up in the spelling that was reported.
-/

namespace HostRoster

namespace GuestDiff

/-- A guest that stays, in the spelling in which it was reported. -/
def respell (d : GuestDiff) (g : String) : String :=
  (d.respelled.find? fun r => Text.sameLetters r g).getD g

/-- A guest list after what is no longer reported is dropped, what is spelled differently now is
respelled, and what was not there before is added. -/
def applyTo (d : GuestDiff) (stored : List String) : List String :=
  (stored.filter fun g => !d.removals.contains g).map d.respell ++ d.additions

/-- A difference leads from one guest list to another. -/
structure Edits (d : GuestDiff) (stored reported : List String) : Prop where
  /-- The edited list has the guests of the other. -/
  edited : (d.applyTo stored).Perm reported
  /-- What is reported is new, spelled differently than before, or there as it was. -/
  parts : (d.additions ++ d.respelled ++ reported.filter (stored.contains ·)).Perm reported

variable {stored reported : List String} {g r s : String}

/-- Added is who is reported and not stored in any spelling. -/
theorem mem_additions_between :
    g ∈ (between stored reported).additions ↔
      g ∈ reported ∧ ∀ s ∈ stored, Text.lower s ≠ Text.lower g := by
  rw [additions_between, List.mem_filter, Option.isNone_iff_eq_none, spelling?_eq_none_iff]

/-- What is removed from a list would be added to the other. -/
theorem removals_between_eq_additions (stored reported : List String) :
    (between stored reported).removals = (between reported stored).additions := by
  rw [removals_between, additions_between]

/-- Removed is who is stored and not reported in any spelling. -/
theorem mem_removals_between :
    g ∈ (between stored reported).removals ↔
      g ∈ stored ∧ ∀ r ∈ reported, Text.lower r ≠ Text.lower g := by
  rw [removals_between_eq_additions, mem_additions_between]

/-- A respelled guest is reported in one spelling and stored in another. -/
theorem mem_respelled_between (hstored : Unlike stored) :
    g ∈ (between stored reported).respelled ↔
      g ∈ reported ∧ ∃ s ∈ stored, Text.lower s = Text.lower g ∧ s ≠ g := by
  simp only [respelled_between, List.mem_filter, Option.any_eq_true, bne_iff_ne,
    spelling?_eq_some_iff hstored, and_assoc]

/-- A reported guest that is not new is stored, in another spelling or as it is. -/
theorem respelled_or_mem (hstored : Unlike stored) (hg : g ∈ reported)
    (hadded : g ∉ (between stored reported).additions) :
    g ∈ (between stored reported).respelled ∨ g ∈ stored := by
  rw [mem_respelled_between hstored]
  rw [mem_additions_between] at hadded
  push Not at hadded
  obtain ⟨s, hs, hlower⟩ := hadded hg
  by_cases heq : s = g
  · exact Or.inr (heq ▸ hs)
  · exact Or.inl ⟨hg, s, hs, hlower, heq⟩

/-- A stored guest takes on the spelling that was reported. -/
theorem respell_between (hstored : Unlike stored) (hreported : Unlike reported) (hs : s ∈ stored)
    (hr : r ∈ reported) (hlower : Text.lower s = Text.lower r) :
    (between stored reported).respell s = r := by
  rw [respell]
  cases hfind : (between stored reported).respelled.find? fun r => Text.sameLetters r s with
  | some r' =>
    have hmem := (mem_respelled_between hstored).mp (List.mem_of_find?_eq_some hfind)
    have hsame := List.find?_some hfind
    rw [Text.sameLetters_iff] at hsame
    exact hreported.eq_of_lower_eq hmem.1 hr (hsame.trans hlower)
  | none =>
    -- The reported spelling would be found if it were another one.
    by_contra hne
    have hrespelled := (mem_respelled_between hstored).mpr ⟨hr, s, hs, hlower, hne⟩
    exact List.find?_eq_none.mp hfind r hrespelled (Text.sameLetters_iff.mpr hlower.symm)

/-- A stored guest stays if it is reported in some spelling. -/
theorem mem_kept (hs : s ∈ stored) :
    s ∈ (stored.filter fun g => !(between stored reported).removals.contains g) ↔
      ∃ r ∈ reported, Text.lower s = Text.lower r := by
  simp only [List.mem_filter, Bool.not_eq_true', List.contains_eq_mem, decide_eq_false_iff_not,
    mem_removals_between]
  push Not
  exact ⟨fun h => (h.2 hs).imp fun r hr => ⟨hr.1, hr.2.symm⟩,
    fun h => ⟨hs, fun _ => h.imp fun r hr => ⟨hr.1, hr.2.symm⟩⟩⟩

/-- A guest is kept in the reported spelling exactly if it is reported and stored. -/
theorem mem_map_respell (hstored : Unlike stored) (hreported : Unlike reported) :
    r ∈ (stored.filter fun g => !(between stored reported).removals.contains g).map
        (between stored reported).respell ↔
      r ∈ reported ∧ ∃ s ∈ stored, Text.lower s = Text.lower r := by
  rw [List.mem_map]
  constructor
  · rintro ⟨s, hkept, rfl⟩
    have hs := (List.mem_filter.mp hkept).1
    obtain ⟨r, hr, hlower⟩ := (mem_kept hs).mp hkept
    rw [respell_between hstored hreported hs hr hlower]
    exact ⟨hr, s, hs, hlower⟩
  · rintro ⟨hr, s, hs, hlower⟩
    exact ⟨s, (mem_kept hs).mpr ⟨r, hr, hlower⟩, respell_between hstored hreported hs hr hlower⟩

/-- The edited list has exactly the reported guests, as they are reported. -/
theorem mem_applyTo (hstored : Unlike stored) (hreported : Unlike reported) :
    g ∈ (between stored reported).applyTo stored ↔ g ∈ reported := by
  rw [applyTo, List.mem_append, mem_map_respell hstored hreported, mem_additions_between,
    ← and_or_left]
  refine and_iff_left_of_imp fun _ => ?_
  by_cases h : ∃ s ∈ stored, Text.lower s = Text.lower g
  · exact Or.inl h
  · exact Or.inr fun s hs heq => h ⟨s, hs, heq⟩

/-- No guest is twice in the edited list. -/
theorem nodup_applyTo (hstored : Unlike stored) (hreported : Unlike reported) :
    ((between stored reported).applyTo stored).Nodup := by
  rw [applyTo, List.nodup_append']
  refine ⟨?_, ?_, fun r hkept hadded => ?_⟩
  · -- Guests that are kept differ in more than spelling, and keep their letters.
    refine List.Nodup.map_on (fun s hs t ht heq => ?_) (hstored.nodup.filter _)
    have hs' := (List.mem_filter.mp hs).1
    have ht' := (List.mem_filter.mp ht).1
    obtain ⟨r, hr, hlower⟩ := (mem_kept hs').mp hs
    obtain ⟨u, hu, hlower'⟩ := (mem_kept ht').mp ht
    rw [respell_between hstored hreported hs' hr hlower,
      respell_between hstored hreported ht' hu hlower'] at heq
    exact hstored.eq_of_lower_eq hs' ht' (by rw [hlower, hlower', heq])
  · rw [additions_between]
    exact hreported.nodup.filter _
  · obtain ⟨_, s, hs, hlower⟩ := (mem_map_respell hstored hreported).mp hkept
    exact (mem_additions_between.mp hadded).2 s hs hlower

/-- Every reported guest is an addition, respelt or stored as it is. -/
theorem mem_parts (hstored : Unlike stored) :
    g ∈ (between stored reported).additions ++ (between stored reported).respelled ++
        reported.filter (stored.contains ·) ↔ g ∈ reported := by
  simp only [List.mem_append, List.mem_filter, List.contains_eq_mem, decide_eq_true_eq]
  constructor
  · rintro ((hadded | hrespelled) | hunchanged)
    · exact (mem_additions_between.mp hadded).1
    · exact ((mem_respelled_between hstored).mp hrespelled).1
    · exact hunchanged.1
  · intro hg
    by_cases hadded : g ∈ (between stored reported).additions
    · exact Or.inl (Or.inl hadded)
    · rcases respelled_or_mem hstored hg hadded with hrespelled | hs
      · exact Or.inl (Or.inr hrespelled)
      · exact Or.inr ⟨hg, hs⟩

/-- No guest is in two parts. -/
theorem nodup_parts (hstored : Unlike stored) (hreported : Unlike reported) :
    ((between stored reported).additions ++ (between stored reported).respelled ++
      reported.filter (stored.contains ·)).Nodup := by
  simp only [List.nodup_append', List.disjoint_append_left]
  refine ⟨⟨?_, ?_, fun r hadded hrespelled => ?_⟩, hreported.nodup.filter _,
    fun r hadded hunchanged => ?_, fun r hrespelled hunchanged => ?_⟩
  · rw [additions_between]
    exact hreported.nodup.filter _
  · rw [respelled_between]
    exact hreported.nodup.filter _
  · obtain ⟨_, s, hs, hlower, _⟩ := (mem_respelled_between hstored).mp hrespelled
    exact (mem_additions_between.mp hadded).2 s hs hlower
  · have hr : r ∈ stored := by simpa using (List.mem_filter.mp hunchanged).2
    exact (mem_additions_between.mp hadded).2 r hr rfl
  · -- The stored list has only one spelling of the guest.
    obtain ⟨_, s, hs, hlower, hne⟩ := (mem_respelled_between hstored).mp hrespelled
    have hr : r ∈ stored := by simpa using (List.mem_filter.mp hunchanged).2
    exact hne (hstored.eq_of_lower_eq hs hr hlower)

/-- The difference of two lists without repetitions leads from the stored one to the reported one,
and the difference the other way adds what this one removes and removes what this one adds. -/
theorem between_edits (hstored : Unlike stored) (hreported : Unlike reported) :
    (between stored reported).Edits stored reported ∧
      (between reported stored).additions = (between stored reported).removals ∧
      (between reported stored).removals = (between stored reported).additions := by
  refine ⟨⟨?_, ?_⟩, (removals_between_eq_additions stored reported).symm,
    removals_between_eq_additions reported stored⟩
  · rw [List.perm_ext_iff_of_nodup (nodup_applyTo hstored hreported) hreported.nodup]
    exact fun g => mem_applyTo hstored hreported
  · rw [List.perm_ext_iff_of_nodup (nodup_parts hstored hreported) hreported.nodup]
    exact fun g => mem_parts hstored

/-- Of three stored guests one is reported in another spelling, one as it is and one no longer,
and a fourth guest is new. -/
theorem between_edits_moved :
    Unlike ["a", "b", "c"] ∧ Unlike ["d", "B", "a"] ∧
      (between ["a", "b", "c"] ["d", "B", "a"]).applyTo ["a", "b", "c"] = ["a", "B", "d"] ∧
      (between ["a", "b", "c"] ["d", "B", "a"]).Edits ["a", "b", "c"] ["d", "B", "a"] := by
  have hstored : Unlike ["a", "b", "c"] := by
    rw [Unlike]
    decide +kernel
  have hreported : Unlike ["d", "B", "a"] := by
    rw [Unlike]
    decide +kernel
  have happly : (between ["a", "b", "c"] ["d", "B", "a"]).applyTo ["a", "b", "c"] =
      ["a", "B", "d"] := by
    decide +kernel
  exact ⟨hstored, hreported, happly, (between_edits hstored hreported).1⟩

end GuestDiff

end HostRoster
