/-!
# Timestamps

A moment in Coordinated Universal Time as its calendar fields. Every field is within its range, the
day exists in its month, and the second 60 is the leap second at the end of a minute. Moments are
only ever stored, compared for equality, moved by an offset and written.
-/

namespace HostRoster

/-- Whether a year of the proleptic Gregorian calendar has 366 days. -/
def isLeapYear (year : Int) : Bool := year % 4 == 0 && (year % 100 != 0 || year % 400 == 0)

/-- The number of days of a month, counted from 1. -/
def daysInMonth (year : Int) (month : Nat) : Nat :=
  if month = 2 then (if isLeapYear year then 29 else 28)
  else if month = 4 || month = 6 || month = 9 || month = 11 then 30
  else 31

/-- A calendar day. -/
structure CalendarDay where
  /-- The year; zero and negative years precede the year 1. -/
  year : Int
  /-- The month, from 1 to 12. -/
  month : Nat
  /-- The day of the month, from 1. -/
  day : Nat
  deriving DecidableEq, Repr

namespace CalendarDay

/-- The first year that days are kept for. -/
def firstYear : Int := -262143

/-- The last year that days are kept for. -/
def lastYear : Int := 262142

/-- Whether the day exists and lies in a year that days are kept for. -/
def exists? (d : CalendarDay) : Bool :=
  firstYear ≤ d.year && d.year ≤ lastYear && 1 ≤ d.month && d.month ≤ 12 && 1 ≤ d.day &&
    d.day ≤ daysInMonth d.year d.month

/-- The day after. -/
def next (d : CalendarDay) : CalendarDay :=
  if d.day < daysInMonth d.year d.month then { d with day := d.day + 1 }
  else if d.month < 12 then ⟨d.year, d.month + 1, 1⟩
  else ⟨d.year + 1, 1, 1⟩

/-- The day before. -/
def previous (d : CalendarDay) : CalendarDay :=
  if 1 < d.day then { d with day := d.day - 1 }
  else if 1 < d.month then ⟨d.year, d.month - 1, daysInMonth d.year (d.month - 1)⟩
  else ⟨d.year - 1, 12, 31⟩

end CalendarDay

/-- A time of day. -/
structure ClockTime where
  /-- Below 24. -/
  hour : Nat
  /-- Below 60. -/
  minute : Nat
  /-- At most 60. -/
  second : Nat
  /-- Below a thousand million. -/
  nanosecond : Nat
  deriving DecidableEq, Repr

/-- Whether every field is within its range. -/
def ClockTime.exists? (t : ClockTime) : Bool :=
  t.hour < 24 && t.minute < 60 && t.second ≤ 60 && t.nanosecond < 1000000000

/-- A moment in Coordinated Universal Time. -/
structure Timestamp where
  /-- The day. -/
  date : CalendarDay
  /-- The time of that day. -/
  time : ClockTime
  /-- The day exists. -/
  date_exists : date.exists? = true
  /-- So does the time. -/
  time_exists : time.exists? = true
  deriving DecidableEq, Repr

namespace Timestamp

/-- The moment with the given fields, if they are within their ranges. -/
def make? (date : CalendarDay) (time : ClockTime) : Option Timestamp :=
  if h : date.exists? = true ∧ time.exists? = true then some ⟨date, time, h.1, h.2⟩ else none

/-- The moment whose local time at an offset of that many minutes east of Greenwich is given; the
offset is less than a day. -/
def ofLocal? (date : CalendarDay) (time : ClockTime) (offset : Int) : Option Timestamp :=
  let minutes : Int := (time.hour * 60 + time.minute : Nat) - offset
  let date := if minutes < 0 then date.previous else if minutes < 1440 then date else date.next
  let minuteOfDay := (minutes % 1440).toNat
  make? date { time with hour := minuteOfDay / 60, minute := minuteOfDay % 60 }

end Timestamp

end HostRoster
