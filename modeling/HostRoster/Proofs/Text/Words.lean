import HostRoster.Proofs.Text.Lowercase

/-!
# Lower case word by word

White space ends a word: it is no letter with a case, and no sigma looks through it. So white space
stays where it is when a text is put into lower case, and neither side of it matters to the other.
-/

namespace HostRoster.Text

/-- Whether no code point lies in ranges of both properties. -/
def CodeRanges.disjoint (rs qs : CodeRanges) : Bool :=
  rs.all fun r => qs.all fun q => r.2 < q.1 || q.2 < r.1

/-- What lies in a range is not in ranges that are disjoint from it. -/
theorem CodeRanges.has_eq_false {rs qs : CodeRanges} (h : rs.disjoint qs = true) {r : Nat × Nat}
    (hr : r ∈ rs) {n : Nat} (hlow : r.1 ≤ n) (hhigh : n ≤ r.2) : qs.has n = false := by
  have hapart := List.all_eq_true.mp h r hr
  refine List.any_eq_false.mpr fun q hq hin => ?_
  have hclear := List.all_eq_true.mp hapart q hq
  simp only [Bool.or_eq_true, decide_eq_true_eq] at hclear
  simp only [Bool.and_eq_true, decide_eq_true_eq] at hin
  omega

theorem disjoint_spaces_cased : spaces.disjoint cased = true := by decide +kernel

theorem disjoint_spaces_caseIgnorable : spaces.disjoint caseIgnorable = true := by decide +kernel

section spaces

variable {w : Char} (hw : isSpace w = true)
include hw

/-- White space is not cased. -/
theorem isCased_of_isSpace : isCased w = false := by
  obtain ⟨r, hr, hlow, hhigh⟩ := isSpace_iff.mp hw
  exact CodeRanges.has_eq_false disjoint_spaces_cased hr hlow hhigh

/-- Nor is it ignored between cased letters. -/
theorem isCaseIgnorable_of_isSpace : isCaseIgnorable w = false := by
  obtain ⟨r, hr, hlow, hhigh⟩ := isSpace_iff.mp hw
  exact CodeRanges.has_eq_false disjoint_spaces_caseIgnorable hr hlow hhigh

/-- White space is left alone by the lower-case mapping. -/
theorem settled_of_isSpace : Settled w := by
  refine settled_of_not_covers (fun r hr => ?_) fun hdot => ?_
  · refine Bool.eq_false_iff.mpr fun hcovers => ?_
    rw [(isSpace_lower hr hcovers).1] at hw
    cases hw
  · obtain rfl : w = '\u0130' := Char.toNat_inj.mp hdot
    cases hw

end spaces

/-- Whether a cased letter comes next is seen behind what is ignored. -/
theorem opensWithCased_cons (c : Char) (cs : List Char) :
    opensWithCased (c :: cs) = if isCaseIgnorable c then opensWithCased cs else isCased c := by
  cases hc : isCaseIgnorable c <;> simp [opensWithCased, hc]

/-- Nothing is seen beyond white space. -/
theorem opensWithCased_append_space {w : Char} (hw : isSpace w = true) (cs ds : List Char) :
    opensWithCased (cs ++ w :: ds) = opensWithCased cs := by
  induction cs with
  | nil =>
    rw [List.nil_append, opensWithCased_cons, isCaseIgnorable_of_isSpace hw,
      isCased_of_isSpace hw]
    rfl
  | cons c cs ih => rw [List.cons_append, opensWithCased_cons, opensWithCased_cons, ih]

/-- What stands before white space does not matter to what follows it. -/
theorem lowerFrom_append_space {w : Char} (hw : isSpace w = true) (before far cs : List Char) :
    lowerFrom (before ++ w :: far) cs = lowerFrom before cs := by
  induction cs generalizing before with
  | nil => rfl
  | cons c cs ih =>
    rw [lowerFrom, lowerFrom, opensWithCased_append_space hw, ← List.cons_append, ih]

/-- A text is put into lower case on either side of its white space. -/
theorem lowerFrom_split {w : Char} (hw : isSpace w = true) (before cs ds : List Char) :
    lowerFrom before (cs ++ w :: ds) = lowerFrom before cs ++ w :: lowerChars ds := by
  induction cs generalizing before with
  | nil =>
    obtain ⟨hne, hself⟩ := settled_of_isSpace hw
    have hfresh : lowerFrom (w :: before) ds = lowerChars ds :=
      lowerFrom_append_space hw [] before ds
    calc lowerFrom before (w :: ds)
        = lowerChar w ++ lowerFrom (w :: before) ds := by rw [lowerFrom, if_neg hne]
      _ = w :: lowerChars ds := by rw [hself, hfresh, List.singleton_append]
  | cons c cs ih =>
    rw [List.cons_append, lowerFrom, lowerFrom, opensWithCased_append_space hw, ih,
      List.append_assoc]

/-- White space parts a text into texts that are lowered each by itself. -/
theorem lowerChars_split {w : Char} (hw : isSpace w = true) (cs ds : List Char) :
    lowerChars (cs ++ w :: ds) = lowerChars cs ++ w :: lowerChars ds :=
  lowerFrom_split hw [] cs ds

end HostRoster.Text
