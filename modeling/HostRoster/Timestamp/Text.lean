import HostRoster.Text.Blank
import HostRoster.Timestamp.Basic

/-!
# Timestamps as text

The notation of RFC 3339: `2019-05-05T10:00:00.250Z`. Written timestamps have a `Z`, and no fraction
or one of three, six or nine digits. The reader is lenient: fields need no padding, blanks may stand
before a field, a year with a sign may have any number of digits, and any offset below a day is
taken into account.
-/

namespace HostRoster

/-- Why a text is no timestamp. -/
inductive TimeError where
  /-- A number is outside the range of its field, or the day does not exist. -/
  | outOfRange
  /-- The moment lies beyond the years that days are kept for. -/
  | impossible
  /-- A character is not expected where it stands. -/
  | invalid
  /-- The text ends early. -/
  | tooShort
  /-- Something follows the timestamp. -/
  | tooLong
  deriving DecidableEq, Repr

/-- The error as it is shown. -/
def TimeError.message : TimeError → String
  | .outOfRange => "input is out of range"
  | .impossible => "no possible date and time matching input"
  | .invalid => "input contains invalid characters"
  | .tooShort => "premature end of input"
  | .tooLong => "trailing input"

namespace Timestamp

/-- A number in at least `width` digits. -/
def padded (width n : Nat) : List Char :=
  let ds := Nat.toDigits 10 n
  List.replicate (width - ds.length) '0' ++ ds

/-- A year: four digits, and outside the years 0 to 9999 a sign before at least four. -/
def yearChars (y : Int) : List Char :=
  if 0 ≤ y && y ≤ 9999 then padded 4 y.toNat
  else (if y < 0 then '-' else '+') :: padded 4 y.natAbs

/-- A fraction of a second in the fewest groups of three digits; nothing for a full second. -/
def fractionChars (nanosecond : Nat) : List Char :=
  if nanosecond = 0 then []
  else if nanosecond % 1000000 = 0 then '.' :: padded 3 (nanosecond / 1000000)
  else if nanosecond % 1000 = 0 then '.' :: padded 6 (nanosecond / 1000)
  else '.' :: padded 9 nanosecond

/-- The characters of a written timestamp. -/
def chars (t : Timestamp) : List Char :=
  yearChars t.date.year ++ '-' :: padded 2 t.date.month ++ '-' :: padded 2 t.date.day ++
    'T' :: padded 2 t.time.hour ++ ':' :: padded 2 t.time.minute ++
    ':' :: padded 2 t.time.second ++ fractionChars t.time.nanosecond ++ ['Z']

/-- A timestamp as text. -/
def text (t : Timestamp) : String := String.ofList t.chars

/-- The value of a digit. -/
def digitValue (c : Char) : Nat := c.toNat - '0'.toNat

/-- The value of digits. -/
def digitsValue (ds : List Char) : Nat := ds.foldl (fun n c => n * 10 + digitValue c) 0

/-- The greatest number that is read at all. -/
def maxRead : Nat := 9223372036854775807

/-- Reads at least one digit and at most `width` of them. -/
def readDigits (width : Nat) (cs : List Char) : Except TimeError (Nat × List Char) :=
  match cs with
  | [] => .error .tooShort
  | c :: _ =>
    if !c.isDigit then .error .invalid
    else
      let ds := (cs.take width).takeWhile Char.isDigit
      let n := digitsValue ds
      if n > maxRead then .error .outOfRange else .ok (n, cs.drop ds.length)

/-- Reads a field of at most two digits after any blanks and checks its range. -/
def readField (least greatest : Nat) (cs : List Char) : Except TimeError (Nat × List Char) := do
  let (n, rest) ← readDigits 2 (Text.dropLeading cs)
  if least ≤ n && n ≤ greatest then .ok (n, rest) else .error .outOfRange

/-- The greatest absolute value of a year that is read: a signed word of 32 bits. -/
def fitsWord (n : Int) : Bool := -2147483648 ≤ n && n < 2147483648

/-- Reads a year: up to four digits, or any number of them after a sign. -/
def readYear (cs : List Char) : Except TimeError (Int × List Char) := do
  let (n, rest) ←
    match Text.dropLeading cs with
    | '-' :: cs => (readDigits cs.length cs).map fun r => (-(r.1 : Int), r.2)
    | '+' :: cs => (readDigits cs.length cs).map fun r => ((r.1 : Int), r.2)
    | cs => (readDigits 4 cs).map fun r => ((r.1 : Int), r.2)
  if fitsWord n then .ok (n, rest) else .error .outOfRange

/-- Skips blanks and then one given character. -/
def skipMark (mark : Char) (cs : List Char) : Except TimeError (List Char) :=
  match Text.dropLeading cs with
  | [] => .error .tooShort
  | c :: rest => if c = mark then .ok rest else .error .invalid

/-- Reads the day. -/
def readDate (cs : List Char) : Except TimeError (CalendarDay × List Char) := do
  let (year, cs) ← readYear cs
  let cs ← skipMark '-' cs
  let (month, cs) ← readField 1 12 cs
  let cs ← skipMark '-' cs
  let (day, cs) ← readField 1 31 cs
  .ok (⟨year, month, day⟩, cs)

/-- Reads a fraction of a second, if there is a point; digits after the ninth are skipped. -/
def readFraction : List Char → Except TimeError (Nat × List Char)
  | '.' :: cs => do
    let (n, rest) ← readDigits 9 cs
    .ok (n * Nat.pow 10 (9 - (cs.length - rest.length)), rest.dropWhile Char.isDigit)
  | cs => .ok (0, cs)

/-- Reads the time of day. -/
def readTime (cs : List Char) : Except TimeError (ClockTime × List Char) := do
  let (hour, cs) ← readField 0 23 cs
  let cs ← skipMark ':' cs
  let (minute, cs) ← readField 0 59 cs
  let cs ← skipMark ':' cs
  let (second, cs) ← readField 0 60 cs
  let (nanosecond, cs) ← readFraction cs
  .ok (⟨hour, minute, second, nanosecond⟩, cs)

/-- Reads two digits that must be there; a single character of more than one byte counts as two. -/
def readPair (cs : List Char) : Except TimeError ((Nat × Nat) × List Char) :=
  match cs with
  | [] => .error .tooShort
  | [c] => if c.toNat < 0x80 then .error .tooShort else .error .invalid
  | a :: b :: rest =>
    if a.isDigit && b.isDigit then .ok ((digitValue a, digitValue b), rest) else .error .invalid

/-- The number of minutes of an offset after its sign: hours, colons and blanks, minutes. -/
def readOffsetMinutes (cs : List Char) : Except TimeError (Nat × List Char) := do
  let ((h1, h2), cs) ← readPair cs
  let cs := cs.dropWhile fun c => c == ':' || Text.isSpace c
  let ((m1, m2), cs) ← readPair cs
  if m1 < 6 then .ok ((h1 * 10 + h2) * 60 + (m1 * 10 + m2), cs) else .error .outOfRange

/-- Reads an offset from Greenwich in minutes: `Z`, `UTC`, or a sign, hours and minutes. -/
def readOffset (cs : List Char) : Except TimeError (Int × List Char) :=
  match cs with
  | [] => .error .tooShort
  | c :: rest =>
    if (cs.take 3).map Char.toUpper == ['U', 'T', 'C'] then .ok (0, cs.drop 3)
    else if c = 'Z' || c = 'z' then .ok (0, rest)
    else if c = '+' then (readOffsetMinutes rest).map fun r => ((r.1 : Int), r.2)
    else if c = '-' || c = '−' then (readOffsetMinutes rest).map fun r => (-(r.1 : Int), r.2)
    else .error .invalid

/-- Skips the letter T or the space between day and time. -/
def skipSeparator : List Char → Except TimeError (List Char)
  | [] => .error .tooShort
  | c :: rest => if c = 'T' || c = 't' || c = ' ' then .ok rest else .error .invalid

/-- Reads a timestamp. -/
def parseChars (cs : List Char) : Except TimeError Timestamp := do
  let (date, cs) ← readDate cs
  let cs ← skipSeparator cs
  let (time, cs) ← readTime cs
  let (offset, cs) ← readOffset (Text.dropLeading cs)
  if !(Text.dropLeading cs).isEmpty then .error .tooLong
  else if !date.exists? || offset.natAbs ≥ 1440 then .error .outOfRange
  else
    match ofLocal? date time offset with
    | some t => .ok t
    | none => .error .impossible

/-- Reads a text as a timestamp. -/
def parse (s : String) : Except TimeError Timestamp := parseChars s.toList

end Timestamp

end HostRoster
