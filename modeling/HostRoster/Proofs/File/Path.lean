import HostRoster.File.Path
import Mathlib.Data.List.TakeDrop

/-!
# Paths of files

A path may be that of a file if it ends with a name other than the one for the directory above.
Another extension gives such a path another text, unless it had that extension under the same stem.
-/

namespace HostRoster.Path

/-- Whether a path may be that of a file. -/
def namesFile (p : Path) : Bool := p.segments.getLast?.any fun s => isName s && s != above

/-- A path names a file if its last segment is a name other than that of the directory above. -/
theorem namesFile_iff {p : Path} :
    p.namesFile = true ↔
      ∃ before s, p.segments = before ++ [s] ∧ isName s = true ∧ s ≠ above := by
  rw [namesFile, Option.any_eq_true]
  constructor
  · rintro ⟨s, hs, hname⟩
    obtain ⟨before, hbefore⟩ := List.getLast?_eq_some_iff.mp hs
    simp only [Bool.and_eq_true, bne_iff_ne] at hname
    exact ⟨before, s, hbefore, hname.1, hname.2⟩
  · rintro ⟨before, s, hs, hname, hne⟩
    refine ⟨s, by rw [hs, List.getLast?_concat], ?_⟩
    simpa using ⟨hname, hne⟩

/-- The last segment of a path stands at the end of its text. -/
theorem exists_text_eq (start : PathStart) (before : List String) :
    ∃ lead, ∀ s, text ⟨start, before ++ [s]⟩ = lead ++ s := by
  have hjoined : ∃ lead, ∀ s, String.intercalate "/" (before ++ [s]) = lead ++ s := by
    induction before with
    | nil => exact ⟨"", fun s => by simp⟩
    | cons b rest ih =>
      obtain ⟨lead, hlead⟩ := ih
      refine ⟨b ++ "/" ++ lead, fun s => ?_⟩
      obtain ⟨t, l, htl⟩ := List.exists_cons_of_ne_nil (List.concat_ne_nil s rest)
      rw [List.cons_append, htl, String.intercalate_cons_cons, ← htl, hlead]
      simp only [String.append_assoc]
  obtain ⟨lead, hlead⟩ := hjoined
  exact ⟨start.text ++ lead, fun s => by rw [text, hlead, String.append_assoc]⟩

/-- The stem of a name with an extension is what stands before the extension. -/
theorem stem_append {s extension : String} (hs : s ≠ "") (hdot : '.' ∉ extension.toList) :
    stem (s ++ "." ++ extension) = s := by
  have hreverse : (s ++ "." ++ extension).toList.reverse =
      extension.toList.reverse ++ '.' :: s.toList.reverse := by simp
  have hafter : (extension.toList.reverse ++ '.' :: s.toList.reverse).takeWhile (· != '.') =
      extension.toList.reverse := by
    rw [List.takeWhile_append_of_pos, List.takeWhile_cons_of_neg (by simp), List.append_nil]
    intro c hc
    have hmem : c ∈ extension.toList := List.mem_reverse.mp hc
    have hne : c ≠ '.' := fun he => hdot (he ▸ hmem)
    simpa using hne
  have hbefore : (extension.toList.reverse ++ '.' :: s.toList.reverse).drop
      (extension.toList.reverse.length + 1) = s.toList.reverse := by
    rw [← List.drop_drop, List.drop_left]
    rfl
  rw [stem, hreverse, hafter, hbefore]
  simp [hs]

/-- A name is not its own stem with an extension of two parts. -/
theorem stem_append_ne (name : String) : stem name ++ "." ++ "json.tmp" ≠ name := by
  intro h
  have hparts : stem name ++ "." ++ "json.tmp" = stem name ++ ".json" ++ "." ++ "tmp" := by
    apply String.toList_injective
    simp
  have hne : stem name ++ ".json" ≠ "" := by simp
  have hstem : stem (stem name ++ ".json" ++ "." ++ "tmp") = stem name := by rw [← hparts, h]
  rw [stem_append hne (by decide)] at hstem
  have hlength := congrArg String.length hstem
  rw [String.length_append] at hlength
  have hjson : ".json".length = 5 := by decide
  omega

/-- With an extension of two parts the path of a file has another text. -/
theorem text_withExtension_ne {p : Path} (h : p.namesFile = true) :
    (p.withExtension "json.tmp").text ≠ p.text := by
  obtain ⟨before, s, hs, hname, hne⟩ := namesFile_iff.mp h
  obtain ⟨start, segments⟩ := p
  subst hs
  obtain ⟨lead, hlead⟩ := exists_text_eq start before
  have hspan : (before ++ [s]).reverse.span (fun s => !isName s) = ([], s :: before.reverse) := by
    rw [List.span_eq_takeWhile_dropWhile]
    simp [hname]
  have hsame (x : String) : lead ++ x = lead ++ s ↔ x = s := String.append_right_inj lead
  simp only [withExtension, hspan, if_neg hne]
  split
  · rw [List.reverse_cons, List.reverse_reverse, hlead, hlead]
    simpa [hsame] using Ne.symm hne
  · rw [List.reverse_cons, List.reverse_reverse, hlead, hlead]
    simpa [hsame] using stem_append_ne s

end HostRoster.Path
