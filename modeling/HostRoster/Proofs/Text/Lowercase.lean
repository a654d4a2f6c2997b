import HostRoster.Proofs.Lists
import HostRoster.Text.Lowercase

/-!
# Lower case once and for all

What the lower-case mapping writes is left alone by it, wherever it stands: no small letter of a run
is a letter of a run, and none is white space. So a text in lower case stays as it is, and a text is
blank exactly if it is blank in lower case.
-/

namespace HostRoster.Text

/-- The white space, as ranges. -/
def spaces : CodeRanges :=
  [(0x9, 0xD), (0x20, 0x20), (0x85, 0x85), (0xA0, 0xA0), (0x1680, 0x1680), (0x2000, 0x200A),
    (0x2028, 0x2029), (0x202F, 0x202F), (0x205F, 0x205F), (0x3000, 0x3000)]

/-- White space is what lies in one of its ranges. -/
theorem isSpace_iff {c : Char} :
    isSpace c = true ↔ ∃ r ∈ spaces, r.1 ≤ c.toNat ∧ c.toNat ≤ r.2 := by
  simp only [isSpace, spaces, Bool.or_eq_true, Bool.and_eq_true, decide_eq_true_eq, beq_iff_eq,
    List.mem_cons, List.not_mem_nil, or_false, exists_eq_or_imp, exists_eq_left]
  omega

namespace CaseRun

/-- Whether no small letter of a run is a letter of another run, by what the two spans and steps
say of it. -/
def apart (r q : CaseRun) : Bool :=
  r.image + (r.last - r.first) < q.first || q.last < r.image ||
    (q.step == 2 && (r.step == 2 || r.first == r.last) && (r.image + q.first) % 2 == 1)

/-- Whether neither the letters nor the small letters of a run are in a range. -/
def outside (r : CaseRun) (low high : Nat) : Bool :=
  (r.last < low || high < r.first) &&
    (r.image + (r.last - r.first) < low || high < r.image)

/-- Whether the small letters of a run are characters, and none of them is the capital I with a dot
or white space. -/
def plain (r : CaseRun) : Bool :=
  (r.image + (r.last - r.first) < 0xD800 ||
    (0xDFFF < r.image && r.image + (r.last - r.first) < 0x110000)) &&
  r.outside 0x130 0x130 && spaces.all fun s => r.outside s.1 s.2

variable {r q : CaseRun} {n : Nat}

/-- The small letters of a run are no letters of a run that is apart from it. -/
theorem not_covers_lower (h : r.apart q = true) (hn : r.covers n = true) :
    q.covers (r.lower n) = false := by
  simp only [apart, Bool.or_eq_true, Bool.and_eq_true, decide_eq_true_eq, beq_iff_eq] at h
  have hlower : r.lower n = r.image + (n - r.first) := rfl
  by_contra hq
  simp only [covers, Bool.not_eq_false, Bool.and_eq_true, decide_eq_true_eq, beq_iff_eq] at hn hq
  rcases h with (hlow | hhigh) | ⟨⟨hstep, hr⟩, hparity⟩
  · omega
  · omega
  · rw [hstep] at hq
    rcases hr with hr | hr
    · rw [hr] at hn
      omega
    · omega

/-- Neither a letter nor its small letter is in a range that the run is outside of. -/
theorem lower_outside {low high : Nat} (h : r.outside low high = true) (hn : r.covers n = true) :
    ¬ (low ≤ n ∧ n ≤ high) ∧ ¬ (low ≤ r.lower n ∧ r.lower n ≤ high) := by
  simp only [outside, Bool.or_eq_true, Bool.and_eq_true, decide_eq_true_eq] at h
  simp only [covers, Bool.and_eq_true, decide_eq_true_eq, beq_iff_eq] at hn
  have hlower : r.lower n = r.image + (n - r.first) := rfl
  omega

end CaseRun

/-- No small letter of any run is a letter of a run. -/
theorem apart_caseRuns :
    (caseRuns.all fun r => caseRuns.all fun q => r.apart q) = true := by decide +kernel

/-- The small letters of all runs are characters and no white space. -/
theorem plain_caseRuns : caseRuns.all (·.plain) = true := by decide +kernel

section letters

variable {r : CaseRun} {c : Char}

/-- What a run makes of a letter is not a letter of any run. -/
theorem not_covers_lower_of_mem (hr : r ∈ caseRuns) (hc : r.covers c.toNat = true) {q : CaseRun}
    (hq : q ∈ caseRuns) : q.covers (r.lower c.toNat) = false := by
  have hall := List.all_eq_true.mp apart_caseRuns r hr
  have hapart : r.apart q = true := List.all_eq_true.mp hall q hq
  exact CaseRun.not_covers_lower hapart hc

/-- The small letter of a run is a character. -/
theorem toNat_lower (hr : r ∈ caseRuns) (hc : r.covers c.toNat = true) :
    (Char.ofNat (r.lower c.toNat)).toNat = r.lower c.toNat := by
  have hplain := List.all_eq_true.mp plain_caseRuns r hr
  simp only [CaseRun.plain, Bool.and_eq_true, Bool.or_eq_true, decide_eq_true_eq] at hplain
  simp only [CaseRun.covers, Bool.and_eq_true, decide_eq_true_eq, beq_iff_eq] at hc
  have hlower : r.lower c.toNat = r.image + (c.toNat - r.first) := rfl
  have hvalid : (r.lower c.toNat).isValidChar := by
    unfold Nat.isValidChar
    omega
  rw [Char.ofNat, dif_pos hvalid]
  rfl

theorem lower_ne_dotted (hr : r ∈ caseRuns) (hc : r.covers c.toNat = true) :
    r.lower c.toNat ≠ 0x130 := by
  have hplain := List.all_eq_true.mp plain_caseRuns r hr
  simp only [CaseRun.plain, Bool.and_eq_true] at hplain
  have hout := (CaseRun.lower_outside hplain.1.2 hc).2
  omega

/-- Neither the letters of a run nor its small letters are white space. -/
theorem isSpace_lower (hr : r ∈ caseRuns) (hc : r.covers c.toNat = true) :
    isSpace c = false ∧ isSpace (Char.ofNat (r.lower c.toNat)) = false := by
  have hplain := List.all_eq_true.mp plain_caseRuns r hr
  simp only [CaseRun.plain, Bool.and_eq_true, List.all_eq_true] at hplain
  constructor
  · refine Bool.eq_false_iff.mpr fun h => ?_
    obtain ⟨s, hs, hin⟩ := isSpace_iff.mp h
    exact (CaseRun.lower_outside (hplain.2 s hs) hc).1 hin
  · refine Bool.eq_false_iff.mpr fun h => ?_
    obtain ⟨s, hs, hin⟩ := isSpace_iff.mp h
    rw [toNat_lower hr hc] at hin
    exact (CaseRun.lower_outside (hplain.2 s hs) hc).2 hin

end letters

/-- A character that is left alone by the lower-case mapping. -/
def Settled (c : Char) : Prop := c ≠ 'Σ' ∧ lowerChar c = [c]

/-- A code point that no run covers stays as it is. -/
theorem lowerCode_eq_self {n : Nat} (h : ∀ r ∈ caseRuns, r.covers n = false) : lowerCode n = n := by
  have hfind : caseRuns.find? (·.covers n) = none :=
    List.find?_eq_none.mpr fun r hr => by simp [h r hr]
  rw [lowerCode, hfind]

/-- The small letters of the Latin alphabet are those of its run. -/
theorem toLower_eq (c : Char) (h : c.toNat < 0x80) :
    c.toLower = Char.ofNat (lowerCode c.toNat) := by
  have hall : ∀ n < 0x80, (Char.ofNat n).toLower = Char.ofNat (lowerCode n) := by decide +kernel
  simpa using hall c.toNat h

theorem covers_sigma : caseRuns.any (·.covers 0x3A3) = true := by decide +kernel

/-- A character outside all runs is settled, the capital I with a dot excepted. -/
theorem settled_of_not_covers {c : Char} (h : ∀ r ∈ caseRuns, r.covers c.toNat = false)
    (hdot : c.toNat ≠ 0x130) : Settled c := by
  refine ⟨?_, ?_⟩
  · rintro rfl
    obtain ⟨r, hr, hc⟩ := List.any_eq_true.mp covers_sigma
    exact Bool.false_ne_true ((h r hr).symm.trans hc)
  · have hne : c ≠ '\u0130' := fun he => hdot (by rw [he]; rfl)
    by_cases hascii : c.toNat < 0x80
    · rw [lowerChar, if_pos hascii, toLower_eq c hascii, lowerCode_eq_self h, Char.ofNat_toNat]
    · rw [lowerChar, if_neg hascii, if_neg hne, lowerCode_eq_self h, Char.ofNat_toNat]

/-- What a run makes of a letter is settled. -/
theorem settled_lower {r : CaseRun} {c : Char} (hr : r ∈ caseRuns) (hc : r.covers c.toNat = true) :
    Settled (Char.ofNat (r.lower c.toNat)) := by
  refine settled_of_not_covers (fun q hq => ?_) ?_
  · rw [toNat_lower hr hc]
    exact not_covers_lower_of_mem hr hc hq
  · rw [toNat_lower hr hc]
    exact lower_ne_dotted hr hc

/-- What stands for a character in lower case: settled characters, at least one, that are white
space exactly if the character is. -/
structure Lowers (c : Char) (cs : List Char) : Prop where
  /-- There is one at least. -/
  ne_nil : cs ≠ []
  /-- All are settled. -/
  settled : ∀ x ∈ cs, Settled x
  /-- White space stays what it is. -/
  isSpace_eq : ∀ x ∈ cs, isSpace x = isSpace c

/-- A settled character may stand for one that is white space like it. -/
theorem lowers_singleton {c x : Char} (hx : Settled x) (hspace : isSpace x = isSpace c) :
    Lowers c [x] where
  ne_nil := List.cons_ne_nil _ _
  settled _ hy := List.mem_singleton.mp hy ▸ hx
  isSpace_eq _ hy := List.mem_singleton.mp hy ▸ hspace

/-- A letter that a run covers is lowered by a run that covers it. -/
theorem lowerCode_of_covers {n : Nat} {r : CaseRun} (hr : r ∈ caseRuns) (hn : r.covers n = true) :
    ∃ q ∈ caseRuns, q.covers n = true ∧ lowerCode n = q.lower n := by
  cases hfind : caseRuns.find? (·.covers n) with
  | none => exact absurd hn (List.find?_eq_none.mp hfind r hr)
  | some q =>
    have hq := List.find?_some hfind
    exact ⟨q, List.mem_of_find?_eq_some hfind, hq, by rw [lowerCode, hfind]⟩

/-- Both small sigmas stand for the capital one. -/
theorem lowers_sigma (final : Bool) : Lowers 'Σ' [if final then 'ς' else 'σ'] := by
  cases final with
  | true => exact lowers_singleton (settled_of_not_covers (by decide +kernel) (by decide)) rfl
  | false => exact lowers_singleton (settled_of_not_covers (by decide +kernel) (by decide)) rfl

theorem lowers_dotted : Lowers '\u0130' ['i', '\u0307'] where
  ne_nil := List.cons_ne_nil _ _
  settled := by
    simp only [List.mem_cons, List.not_mem_nil, or_false, forall_eq_or_imp, forall_eq]
    exact ⟨settled_of_not_covers (by decide +kernel) (by decide),
      settled_of_not_covers (by decide +kernel) (by decide)⟩
  isSpace_eq := by
    simp only [List.mem_cons, List.not_mem_nil, or_false, forall_eq_or_imp, forall_eq]
    exact ⟨rfl, rfl⟩

/-- What a character is mapped to stands for it. -/
theorem lowers_lowerChar (c : Char) : Lowers c (lowerChar c) := by
  by_cases hdot : c = '\u0130'
  · rw [hdot]
    exact lowers_dotted
  have hchar : lowerChar c = [Char.ofNat (lowerCode c.toNat)] := by
    by_cases hascii : c.toNat < 0x80
    · rw [lowerChar, if_pos hascii, toLower_eq c hascii]
    · rw [lowerChar, if_neg hascii, if_neg hdot]
  rw [hchar]
  by_cases hc : ∃ r ∈ caseRuns, r.covers c.toNat = true
  · obtain ⟨r, hr, hcovers⟩ := hc
    obtain ⟨q, hq, hcovers, hlower⟩ := lowerCode_of_covers hr hcovers
    obtain ⟨hspace, hspace'⟩ := isSpace_lower hq hcovers
    rw [hlower]
    exact lowers_singleton (settled_lower hq hcovers) (hspace'.trans hspace.symm)
  · have hnone : ∀ r ∈ caseRuns, r.covers c.toNat = false := by simpa using hc
    have hne : c.toNat ≠ 0x130 := fun he => hdot (Char.toNat_inj.mp he)
    rw [lowerCode_eq_self hnone, Char.ofNat_toNat]
    exact lowers_singleton (settled_of_not_covers hnone hne) rfl

/-- A text in lower case is a row of blocks, one for each character. -/
theorem exists_blocks (before cs : List Char) :
    ∃ blocks, List.Forall₂ Lowers cs blocks ∧ lowerFrom before cs = blocks.flatten := by
  induction cs generalizing before with
  | nil => exact ⟨[], .nil, rfl⟩
  | cons c rest ih =>
    obtain ⟨blocks, hblocks, hrest⟩ := ih (c :: before)
    rw [lowerFrom, hrest]
    by_cases hc : c = 'Σ'
    · rw [if_pos hc]
      exact ⟨_ :: blocks, .cons (hc ▸ lowers_sigma _) hblocks, rfl⟩
    · rw [if_neg hc]
      exact ⟨_ :: blocks, .cons (lowers_lowerChar c) hblocks, rfl⟩

/-- Settled characters stay as they are, whatever is before them. -/
theorem lowerFrom_of_settled {cs : List Char} (h : ∀ c ∈ cs, Settled c) (before : List Char) :
    lowerFrom before cs = cs := by
  induction cs generalizing before with
  | nil => rfl
  | cons c rest ih =>
    obtain ⟨hne, hself⟩ := h c List.mem_cons_self
    rw [lowerFrom, if_neg hne, hself, ih fun d hd => h d (List.mem_cons_of_mem _ hd)]
    rfl

/-- Every character of a lower-case text is settled. -/
theorem settled_lowerChars {cs : List Char} {x : Char} (hx : x ∈ lowerChars cs) : Settled x := by
  obtain ⟨blocks, hblocks, hflatten⟩ := exists_blocks [] cs
  rw [lowerChars, hflatten, List.mem_flatten] at hx
  obtain ⟨block, hblock, hx⟩ := hx
  obtain ⟨c, _, hc⟩ := Lists.exists_left hblocks hblock
  exact hc.settled x hx

/-- A text in lower case is left alone. -/
@[simp] theorem lower_lower (s : String) : lower (lower s) = lower s := by
  have h : lowerFrom [] (lowerChars s.toList) = lowerChars s.toList :=
    lowerFrom_of_settled (fun c hc => settled_lowerChars hc) []
  rw [lower, lower, String.toList_ofList]
  exact congrArg String.ofList h

/-- A text is white space exactly if it is so in lower case. -/
theorem all_isSpace_flatten {cs : List Char} {blocks : List (List Char)}
    (h : List.Forall₂ Lowers cs blocks) : blocks.flatten.all isSpace = cs.all isSpace := by
  induction h with
  | nil => rfl
  | @cons c block cs blocks hc _ ih =>
    have hblock : block.all isSpace = isSpace c := by
      rw [Bool.eq_iff_iff, List.all_eq_true]
      constructor
      · intro h
        obtain ⟨x, hx⟩ := List.exists_mem_of_ne_nil block hc.ne_nil
        exact (hc.isSpace_eq x hx).symm.trans (h x hx)
      · intro h x hx
        exact (hc.isSpace_eq x hx).trans h
    rw [List.flatten_cons, List.all_append, List.all_cons, hblock, ih]

/-- A text is blank exactly if it is blank in lower case. -/
@[simp] theorem isBlank_lower (s : String) : isBlank (lower s) = isBlank s := by
  obtain ⟨blocks, hblocks, hflatten⟩ := exists_blocks [] s.toList
  rw [isBlank, isBlank, lower, String.toList_ofList, lowerChars, hflatten,
    all_isSpace_flatten hblocks]

end HostRoster.Text
