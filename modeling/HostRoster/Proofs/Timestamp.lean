import HostRoster.Timestamp.Text
import Mathlib.Algebra.Group.Nat.Defs

/-!
# Timestamps read back

The lenient reader accepts what the writer writes, and gets the same moment back: every field is
written in digits that no other digit follows, and the offset of the letter Z is zero.
-/

namespace HostRoster.Timestamp

theorem digitsValue_eq (ds : List Char) : digitsValue ds = Nat.ofDigitChars 10 ds 0 := by
  simp only [digitsValue, digitValue, Nat.ofDigitChars_eq_foldl, Nat.mul_comm 10]

/-- Padding with zeros does not change the value. -/
theorem digitsValue_padded (width n : Nat) : digitsValue (padded width n) = n := by
  rw [digitsValue_eq, padded, Nat.ofDigitChars_append, Nat.ofDigitChars_replicate_zero,
    Nat.mul_zero, Nat.ofDigitChars_toDigits (by decide) (by decide)]

/-- A padded number is made of digits. -/
theorem isDigit_of_mem_padded {width n : Nat} {c : Char} (h : c ∈ padded width n) :
    c.isDigit = true := by
  rcases List.mem_append.mp h with h | h
  · rw [List.eq_of_mem_replicate h]
    decide
  · exact Nat.isDigit_of_mem_toDigits (by decide) (by decide) h

/-- A number is padded to the width of its field. -/
theorem length_padded {width n : Nat} (hwidth : 0 < width) (hn : n < 10 ^ width) :
    (padded width n).length = width := by
  have hle := (Nat.length_toDigits_le_iff (by decide) hwidth).mpr hn
  rw [padded, List.length_append, List.length_replicate]
  omega

theorem padded_ne_nil (width n : Nat) : padded width n ≠ [] :=
  List.append_ne_nil_of_right_ne_nil _ Nat.toDigits_ne_nil

/-- Digits that fit the width and are followed by something else are read to their end. -/
theorem readDigits_append {width : Nat} {ds rest : List Char} {c : Char} (hds : ds ≠ [])
    (hdigits : ∀ d ∈ ds, d.isDigit = true) (hwidth : ds.length ≤ width)
    (hc : c.isDigit = false) (hmax : digitsValue ds ≤ maxRead) :
    readDigits width (ds ++ c :: rest) = .ok (digitsValue ds, c :: rest) := by
  have hread : ((ds ++ c :: rest).take width).takeWhile Char.isDigit = ds := by
    rw [List.take_append, List.take_of_length_le hwidth, List.takeWhile_append_of_pos hdigits]
    cases width - ds.length with
    | zero => simp
    | succ k => simp [hc]
  have hleft : (ds ++ c :: rest).drop ds.length = c :: rest := List.drop_left
  obtain ⟨d, ds', rfl⟩ := List.exists_cons_of_ne_nil hds
  have hd : d.isDigit = true := hdigits d List.mem_cons_self
  have hfits : ¬ digitsValue (d :: ds') > maxRead := by omega
  rw [List.cons_append] at hread hleft ⊢
  simp only [readDigits, hd, Bool.not_true, Bool.false_eq_true, if_false, hread, hleft, hfits]

/-- A number that was padded is read back. -/
theorem readDigits_padded {width n : Nat} {c : Char} (digits : Nat) (hc : c.isDigit = false)
    (hlength : (padded digits n).length ≤ width) (hmax : n ≤ maxRead) (rest : List Char) :
    readDigits width (padded digits n ++ c :: rest) = .ok (n, c :: rest) := by
  have hvalue := digitsValue_padded digits n
  rw [readDigits_append (padded_ne_nil digits n) (fun _ => isDigit_of_mem_padded) hlength hc
    (by omega), hvalue]

theorem isSpace_of_isDigit {c : Char} (h : c.isDigit = true) : Text.isSpace c = false := by
  rw [Char.isDigit_iff_toNat] at h
  have hzero : '0'.toNat = 48 := rfl
  have hnine : '9'.toNat = 57 := rfl
  refine Bool.eq_false_iff.mpr fun hspace => ?_
  simp only [Text.isSpace, Bool.or_eq_true, Bool.and_eq_true, decide_eq_true_eq, beq_iff_eq]
    at hspace
  omega

/-- A padded number starts with a digit, so no blanks stand before it. -/
theorem padded_eq_cons (width n : Nat) : ∃ d ds, padded width n = d :: ds ∧ d.isDigit = true := by
  obtain ⟨d, ds, hcons⟩ := List.exists_cons_of_ne_nil (padded_ne_nil width n)
  exact ⟨d, ds, hcons, isDigit_of_mem_padded (hcons ▸ List.mem_cons_self)⟩

/-- No blanks are dropped in front of what is no blank. -/
theorem dropLeading_cons {c : Char} (h : Text.isSpace c = false) (cs : List Char) :
    Text.dropLeading (c :: cs) = c :: cs :=
  List.dropWhile_cons_of_neg (by simpa using h)

/-- None are dropped in front of a number. -/
theorem dropLeading_padded (width n : Nat) (cs : List Char) :
    Text.dropLeading (padded width n ++ cs) = padded width n ++ cs := by
  obtain ⟨d, ds, hcons, hd⟩ := padded_eq_cons width n
  rw [hcons, List.cons_append, dropLeading_cons (isSpace_of_isDigit hd)]

/-- A field of two digits is read back if it is within its bounds. -/
theorem readField_padded {least greatest n : Nat} {c : Char} (hc : c.isDigit = false)
    (hleast : least ≤ n) (hgreatest : n ≤ greatest) (hn : n < 100) (rest : List Char) :
    readField least greatest (padded 2 n ++ c :: rest) = .ok (n, c :: rest) := by
  have hlength : (padded 2 n).length ≤ 2 := Nat.le_of_eq (length_padded (by decide) (by omega))
  have hmax : n ≤ maxRead := by
    rw [maxRead]
    omega
  rw [readField, dropLeading_padded, readDigits_padded 2 hc hlength hmax]
  simp only [bind, Except.bind, hleast, hgreatest, decide_true, Bool.and_true, if_true]

/-- The mark that is asked for is skipped. -/
theorem skipMark_cons (mark : Char) (h : Text.isSpace mark = false) (rest : List Char) :
    skipMark mark (mark :: rest) = .ok rest := by
  rw [skipMark, dropLeading_cons h]
  simp only [if_true]

/-- A year that fits a word is accepted. -/
theorem accepted_of_fitsWord {y : Int} (h : fitsWord y = true) (rest : List Char) :
    (Except.bind (.ok (y, rest) : Except TimeError (Int × List Char)) fun r =>
      if fitsWord r.1 then .ok (r.1, r.2) else .error .outOfRange) = .ok (y, rest) := by
  simp only [Except.bind, h, if_true]

/-- A year in four digits is read as it is. -/
theorem readYear_padded {n : Nat} (hn : n < 10000) (rest : List Char) :
    readYear (padded 4 n ++ '-' :: rest) = .ok ((n : Int), '-' :: rest) := by
  have hlength : (padded 4 n).length ≤ 4 := Nat.le_of_eq (length_padded (by decide) (by omega))
  have hmax : n ≤ maxRead := by
    rw [maxRead]
    omega
  have hread := readDigits_padded (c := '-') 4 (by decide) hlength hmax rest
  have hfits : fitsWord (n : Int) = true := by
    simp only [fitsWord, Bool.and_eq_true, decide_eq_true_eq]
    omega
  obtain ⟨d, ds, hcons, hd⟩ := padded_eq_cons 4 n
  have hdrop := dropLeading_padded 4 n ('-' :: rest)
  rw [hcons, List.cons_append] at hread hdrop ⊢
  rw [readYear, hdrop]
  split
  · next h =>
    cases h
    exact absurd hd (by decide)
  · next h =>
    cases h
    exact absurd hd (by decide)
  · rw [hread]
    exact accepted_of_fitsWord hfits _

/-- A year after a sign may have more digits. -/
theorem readYear_signed {n : Nat} (hn : n < 1000000) (rest : List Char) :
    readYear ('-' :: padded 4 n ++ '-' :: rest) = .ok (-(n : Int), '-' :: rest) ∧
      readYear ('+' :: padded 4 n ++ '-' :: rest) = .ok ((n : Int), '-' :: rest) := by
  have hlength : (padded 4 n).length ≤ (padded 4 n ++ '-' :: rest).length := by
    rw [List.length_append]
    omega
  have hmax : n ≤ maxRead := by
    rw [maxRead]
    omega
  have hread := readDigits_padded (c := '-') 4 (by decide) hlength hmax rest
  have hfits : fitsWord (n : Int) = true := by
    simp only [fitsWord, Bool.and_eq_true, decide_eq_true_eq]
    omega
  have hfits' : fitsWord (-(n : Int)) = true := by
    simp only [fitsWord, Bool.and_eq_true, decide_eq_true_eq]
    omega
  constructor
  · rw [readYear, List.cons_append, dropLeading_cons (by decide)]
    simp only [hread, Except.map]
    exact accepted_of_fitsWord hfits' _
  · rw [readYear, List.cons_append, dropLeading_cons (by decide)]
    simp only [hread, Except.map]
    exact accepted_of_fitsWord hfits _

/-- Years that days are kept for are read back. -/
theorem readYear_yearChars {y : Int} (hfirst : CalendarDay.firstYear ≤ y)
    (hlast : y ≤ CalendarDay.lastYear) (rest : List Char) :
    readYear (yearChars y ++ '-' :: rest) = .ok (y, '-' :: rest) := by
  rw [CalendarDay.firstYear] at hfirst
  rw [CalendarDay.lastYear] at hlast
  unfold yearChars
  split
  · next h =>
    rw [Bool.and_eq_true, decide_eq_true_eq, decide_eq_true_eq] at h
    rw [readYear_padded (by omega)]
    congr
    omega
  · next h =>
    by_cases hneg : y < 0
    · have habs : -(y.natAbs : Int) = y := by omega
      rw [if_pos hneg, (readYear_signed (by omega) rest).1, habs]
    · have habs : (y.natAbs : Int) = y := by omega
      rw [if_neg hneg, (readYear_signed (by omega) rest).2, habs]

/-- A group of digits after the point counts for what it leaves of nine digits. -/
theorem readFraction_padded {digits m : Nat} (hpos : 0 < digits) (hle : digits ≤ 9)
    (hm : m < 10 ^ digits) :
    readFraction ('.' :: padded digits m ++ ['Z']) = .ok (m * Nat.pow 10 (9 - digits), ['Z']) := by
  have hlength := length_padded hpos hm
  have hmax : m ≤ maxRead := by
    have hpow : 10 ^ digits ≤ 10 ^ 9 := Nat.pow_le_pow_right (by decide) hle
    rw [maxRead]
    omega
  have hread : readDigits 9 (padded digits m ++ ['Z']) = .ok (m, ['Z']) :=
    readDigits_padded digits (by decide) (by omega) hmax []
  have hused : (padded digits m ++ ['Z']).length - ['Z'].length = digits := by
    rw [List.length_append, hlength]
    omega
  simp only [List.cons_append, readFraction, hread, bind, Except.bind, hused]
  rfl

/-- A fraction of a second is read back, however many groups of digits it has. -/
theorem readFraction_fractionChars {n : Nat} (hn : n < 1000000000) :
    readFraction (fractionChars n ++ ['Z']) = .ok (n, ['Z']) := by
  unfold fractionChars
  split
  · next h =>
    rw [h]
    rfl
  split
  · next h =>
    have hvalue : n / 1000000 * Nat.pow 10 (9 - 3) = n := by
      change n / 1000000 * 1000000 = n
      omega
    rw [readFraction_padded (by decide) (by decide) (by omega), hvalue]
  split
  · next h =>
    have hvalue : n / 1000 * Nat.pow 10 (9 - 6) = n := by
      change n / 1000 * 1000 = n
      omega
    rw [readFraction_padded (by decide) (by decide) (by omega), hvalue]
  · rw [readFraction_padded (by decide) (by decide) (by omega)]
    exact congrArg (fun m => Except.ok (m, ['Z'])) (Nat.mul_one n)

/-- The time of day is read back. -/
theorem readTime_chars (t : ClockTime) (h : t.exists? = true) :
    readTime (padded 2 t.hour ++ ':' :: (padded 2 t.minute ++ ':' :: (padded 2 t.second ++
      (fractionChars t.nanosecond ++ ['Z'])))) = .ok (t, ['Z']) := by
  simp only [ClockTime.exists?, Bool.and_eq_true, decide_eq_true_eq] at h
  obtain ⟨⟨⟨hhour, hminute⟩, hsecond⟩, hnano⟩ := h
  have hfraction := readFraction_fractionChars hnano
  obtain ⟨c, cs, hstart, hc⟩ : ∃ c cs, fractionChars t.nanosecond ++ ['Z'] = c :: cs ∧
      c.isDigit = false := by
    unfold fractionChars
    split
    · exact ⟨_, _, rfl, by decide⟩
    split
    · exact ⟨_, _, rfl, by decide⟩
    split <;> exact ⟨_, _, rfl, by decide⟩
  rw [hstart] at hfraction ⊢
  rw [readTime, readField_padded (by decide) (by omega) (by omega) (by omega)]
  simp only [bind, Except.bind, skipMark_cons ':' (by decide)]
  rw [readField_padded (by decide) (by omega) (by omega) (by omega)]
  simp only [skipMark_cons ':' (by decide)]
  rw [readField_padded hc (by omega) (by omega) (by omega)]
  simp only [hfraction]

/-- So is the day. -/
theorem readDate_chars (d : CalendarDay) (h : d.exists? = true) (rest : List Char) :
    readDate (yearChars d.year ++ '-' :: (padded 2 d.month ++ '-' :: (padded 2 d.day ++
      'T' :: rest))) = .ok (d, 'T' :: rest) := by
  simp only [CalendarDay.exists?, Bool.and_eq_true, decide_eq_true_eq] at h
  obtain ⟨⟨⟨⟨⟨hfirst, hlast⟩, hmonth⟩, hmonth'⟩, hday⟩, hday'⟩ := h
  have hdays : daysInMonth d.year d.month ≤ 31 := by
    unfold daysInMonth
    split
    · split <;> omega
    · split <;> omega
  rw [readDate, readYear_yearChars hfirst hlast]
  simp only [bind, Except.bind, skipMark_cons '-' (by decide)]
  rw [readField_padded (by decide) hmonth hmonth' (by omega)]
  simp only [skipMark_cons '-' (by decide)]
  rw [readField_padded (by decide) hday (by omega) (by omega)]

/-- Without an offset the local time is the time. -/
theorem ofLocal?_zero (t : Timestamp) : ofLocal? t.date t.time 0 = some t := by
  have htime := t.time_exists
  simp only [ClockTime.exists?, Bool.and_eq_true, decide_eq_true_eq] at htime
  obtain ⟨⟨⟨hhour, hminute⟩, _⟩, _⟩ := htime
  have hday : ((t.time.hour * 60 + t.time.minute : Nat) : Int) - 0 < 1440 := by omega
  have hsame : ¬ ((t.time.hour * 60 + t.time.minute : Nat) : Int) - 0 < 0 := by omega
  have hof : ((((t.time.hour * 60 + t.time.minute : Nat) : Int) - 0) % 1440).toNat =
      t.time.hour * 60 + t.time.minute := by omega
  have hhours : (t.time.hour * 60 + t.time.minute) / 60 = t.time.hour := by omega
  have hminutes : (t.time.hour * 60 + t.time.minute) % 60 = t.time.minute := by omega
  simp only [ofLocal?, hday, hsame, if_true, if_false, hof, hhours, hminutes, make?]
  rw [dif_pos ⟨t.date_exists, t.time_exists⟩]

/-- A written timestamp is read back. -/
theorem parse_text (t : Timestamp) : parse t.text = .ok t := by
  have hchars : t.chars = yearChars t.date.year ++ '-' :: (padded 2 t.date.month ++ '-' ::
      (padded 2 t.date.day ++ 'T' :: (padded 2 t.time.hour ++ ':' :: (padded 2 t.time.minute ++
        ':' :: (padded 2 t.time.second ++ (fractionChars t.time.nanosecond ++ ['Z'])))))) := by
    simp [chars]
  rw [parse, text, String.toList_ofList, hchars, parseChars, readDate_chars _ t.date_exists]
  have hseparator (cs : List Char) : skipSeparator ('T' :: cs) = .ok cs := rfl
  have hoffset : readOffset (Text.dropLeading ['Z']) = .ok (0, []) := rfl
  have hend : (!(Text.dropLeading []).isEmpty) = false := rfl
  have hzero : (!t.date.exists? || decide ((0 : Int).natAbs ≥ 1440)) = false := by
    rw [t.date_exists]
    decide
  simp only [bind, Except.bind, hseparator, readTime_chars _ t.time_exists, hoffset, hend, hzero,
    Bool.false_eq_true, if_false, ofLocal?_zero]

end HostRoster.Timestamp
