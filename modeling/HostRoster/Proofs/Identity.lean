import HostRoster.Identity
import HostRoster.Proofs.Text.Words
import Mathlib.Data.List.DropRight

/-!
# Canonical ids

The canonical form of an id is its own canonical form. Lower case keeps white space apart from
letters and leaves it where it is, so a text can be trimmed before or after it is put into lower
case.
-/

namespace HostRoster

namespace Text

theorem dropTrailing_eq (cs : List Char) : dropTrailing cs = cs.rdropWhile isSpace := rfl

/-- A text without white space at its ends. -/
structure Trimmed (cs : List Char) : Prop where
  /-- There is none at the beginning. -/
  leading : dropLeading cs = cs
  /-- There is none at the end. -/
  trailing : dropTrailing cs = cs

/-- Trimmed characters stay as they are. -/
theorem Trimmed.trimChars_eq {cs : List Char} (h : Trimmed cs) : trimChars cs = cs := by
  rw [trimChars, h.leading, h.trailing]

/-- Nothing is dropped if the first character is no white space. -/
theorem dropLeading_eq_self_iff {cs : List Char} :
    dropLeading cs = cs ↔ ∀ c ∈ cs.head?, isSpace c = false := by
  cases cs with
  | nil => simp [dropLeading]
  | cons c rest =>
    rw [dropLeading, List.dropWhile_eq_self_iff]
    simp

/-- Trimming leaves no white space at either end. -/
theorem trimmed_trimChars (cs : List Char) : Trimmed (trimChars cs) where
  leading := by
    have hfirst : dropLeading (dropLeading cs) = dropLeading cs := List.dropWhile_idempotent _ cs
    obtain ⟨rest, hrest⟩ : trimChars cs <+: dropLeading cs := by
      rw [trimChars, dropTrailing_eq]
      exact List.rdropWhile_prefix _ _
    rw [dropLeading_eq_self_iff, ← hrest] at hfirst
    rw [dropLeading_eq_self_iff]
    cases h : trimChars cs with
    | nil => simp
    | cons c l =>
      rw [h] at hfirst
      exact hfirst
  trailing := by rw [trimChars, dropTrailing_eq, dropTrailing_eq, List.rdropWhile_idempotent]

/-- The order of these characters does not matter. -/
theorem Lowers.reverse {c : Char} {block : List Char} (h : Lowers c block) :
    Lowers c block.reverse where
  ne_nil := mt List.reverse_eq_nil_iff.mp h.ne_nil
  settled x hx := h.settled x (List.mem_reverse.mp hx)
  isSpace_eq x hx := h.isSpace_eq x (List.mem_reverse.mp hx)

/-- Lower case brings no white space to the front. -/
theorem dropLeading_flatten {cs : List Char} {blocks : List (List Char)}
    (h : List.Forall₂ Lowers cs blocks) (hcs : dropLeading cs = cs) :
    dropLeading blocks.flatten = blocks.flatten := by
  rw [dropLeading_eq_self_iff] at hcs ⊢
  cases h with
  | nil => simp
  | @cons c block cs blocks hc _ =>
    obtain ⟨x, rest, rfl⟩ := List.exists_cons_of_ne_nil hc.ne_nil
    intro y hy
    obtain rfl : x = y := by simpa using hy
    exact (hc.isSpace_eq x List.mem_cons_self).trans (hcs c rfl)

/-- Nor does it bring any to the end. -/
theorem dropTrailing_flatten {cs : List Char} {blocks : List (List Char)}
    (h : List.Forall₂ Lowers cs blocks) (hcs : dropTrailing cs = cs) :
    dropTrailing blocks.flatten = blocks.flatten := by
  have hreverse : List.Forall₂ Lowers cs.reverse (blocks.map List.reverse).reverse :=
    List.rel_reverse (List.forall₂_map_right_iff.mpr (h.imp fun _ _ hc => hc.reverse))
  have hback := dropLeading_flatten hreverse (List.reverse_eq_iff.mp hcs)
  rw [← List.reverse_flatten] at hback
  exact List.reverse_eq_iff.mpr hback

/-- White space at the beginning is dropped before or after a text is put into lower case. -/
theorem dropLeading_lowerChars (cs : List Char) :
    dropLeading (lowerChars cs) = lowerChars (dropLeading cs) := by
  induction cs with
  | nil => rfl
  | cons c cs ih =>
    cases hc : isSpace c with
    | true =>
      have hsplit : lowerChars (c :: cs) = c :: lowerChars cs := lowerChars_split hc [] cs
      rw [hsplit, dropLeading, dropLeading, List.dropWhile_cons_of_pos hc,
        List.dropWhile_cons_of_pos hc]
      exact ih
    | false =>
      have hkept : dropLeading (c :: cs) = c :: cs :=
        List.dropWhile_cons_of_neg (Bool.eq_false_iff.mp hc)
      obtain ⟨blocks, hblocks, hflatten⟩ := exists_blocks [] (c :: cs)
      rw [hkept, lowerChars, hflatten, dropLeading_flatten hblocks hkept]

/-- So is white space at the end. -/
theorem dropTrailing_lowerChars (cs : List Char) :
    dropTrailing (lowerChars cs) = lowerChars (dropTrailing cs) := by
  induction cs using List.reverseRecOn with
  | nil => rfl
  | append_singleton cs c ih =>
    cases hc : isSpace c with
    | true =>
      have hsplit : lowerChars (cs ++ [c]) = lowerChars cs ++ [c] := lowerChars_split hc cs []
      rw [hsplit, dropTrailing_eq, dropTrailing_eq, List.rdropWhile_concat_pos _ _ _ hc,
        List.rdropWhile_concat_pos _ _ _ hc]
      exact ih
    | false =>
      have hkept : dropTrailing (cs ++ [c]) = cs ++ [c] :=
        List.rdropWhile_concat_neg _ _ _ (Bool.eq_false_iff.mp hc)
      obtain ⟨blocks, hblocks, hflatten⟩ := exists_blocks [] (cs ++ [c])
      rw [hkept, lowerChars, hflatten, dropTrailing_flatten hblocks hkept]

/-- A text is trimmed before or after it is put into lower case. -/
theorem trim_lower (s : String) : trim (lower s) = lower (trim s) := by
  rw [trim, lower, lower, trim, String.toList_ofList, String.toList_ofList, trimChars,
    dropLeading_lowerChars, dropTrailing_lowerChars]
  rfl

/-- Trimming twice is trimming once. -/
@[simp] theorem trim_trim (s : String) : trim (trim s) = trim s := by
  rw [trim, trim, String.toList_ofList, (trimmed_trimChars _).trimChars_eq]

/-- Nothing is left of a blank text. -/
theorem trim_eq_empty_of_isBlank {s : String} (h : isBlank s = true) : trim s = "" := by
  have hnil : dropLeading s.toList = [] := List.dropWhile_eq_nil_iff.mpr (List.all_eq_true.mp h)
  rw [trim, trimChars, hnil]
  rfl

/-- Something is left of any other text. -/
theorem isBlank_of_trim_eq_empty {s : String} (h : trim s = "") : isBlank s = true := by
  have hnil : trimChars s.toList = [] := by
    have hchars := congrArg String.toList h
    rwa [trim, String.toList_ofList] at hchars
  rw [trimChars, dropTrailing_eq, List.rdropWhile_eq_nil_iff] at hnil
  -- What is left after the leading white space would not start with white space.
  have hleading : dropLeading s.toList = [] := by
    cases hcs : dropLeading s.toList with
    | nil => rfl
    | cons c cs =>
      have hfirst : dropLeading (c :: cs) = c :: cs := by
        rw [← hcs]
        exact List.dropWhile_idempotent _ _
      rw [dropLeading_eq_self_iff] at hfirst
      have hspace := hnil c (hcs ▸ List.mem_cons_self)
      rw [hfirst c rfl] at hspace
      cases hspace
  exact List.all_eq_true.mpr (List.dropWhile_eq_nil_iff.mp hleading)

/-- Nothing is left of exactly the texts that are white space. -/
theorem trim_eq_empty_iff {s : String} : trim s = "" ↔ isBlank s = true :=
  ⟨isBlank_of_trim_eq_empty, trim_eq_empty_of_isBlank⟩

/-- Trimming neither makes nor unmakes blank texts. -/
theorem isBlank_trim (s : String) : isBlank (trim s) = isBlank s := by
  rw [Bool.eq_iff_iff, ← trim_eq_empty_iff, ← trim_eq_empty_iff, trim_trim]

end Text

/-- White space around an id does not count. -/
@[simp] theorem canonical_trim (s : String) : canonical (Text.trim s) = canonical s := by
  rw [canonical, canonical, Text.trim_trim]

@[simp] theorem lower_trim (s : String) : Text.lower (Text.trim s) = canonical s := rfl

@[simp] theorem trim_canonical (s : String) : Text.trim (canonical s) = canonical s := by
  rw [canonical, Text.trim_lower, Text.trim_trim]

/-- Canonical ids are in lower case already. -/
@[simp] theorem lower_canonical (s : String) : Text.lower (canonical s) = canonical s :=
  Text.lower_lower _

/-- A canonical id is blank exactly if the id was. -/
theorem isBlank_canonical (s : String) : Text.isBlank (canonical s) = Text.isBlank s := by
  rw [canonical, Text.isBlank_lower, Text.isBlank_trim]

/-- Nothing is left of a blank id, and something of any other one. -/
theorem canonical_eq_empty_iff {s : String} : canonical s = "" ↔ Text.isBlank s = true := by
  rw [← trim_canonical, Text.trim_eq_empty_iff, isBlank_canonical]

/-- The canonical form of an id is canonical. -/
@[simp] theorem canonical_canonical (s : String) : canonical (canonical s) = canonical s := by
  have h : canonical (canonical s) = Text.lower (Text.trim (canonical s)) := rfl
  rw [h, trim_canonical, lower_canonical]

end HostRoster
