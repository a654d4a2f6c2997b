import HostRoster.Timestamp.Basic

/-!
# Timestamps of a clock

A clock counts nanoseconds from the start of the year 1970. Days are counted in eras of 400 years
that start with a March, so a leap day is the last of its year.
-/

namespace HostRoster

/-- The number of days from the start of the first era to the year 1970. -/
def daysBefore1970 : Nat := 719468

/-- The number of days of an era. -/
def daysOfEra : Nat := 146097

/-- The year of a day within its era, both counted from 0. -/
def yearOfEra (day : Nat) : Nat :=
  (day - day / 1460 + day / 36524 - day / 146096) / 365

/-- The day that is a number of days after the first of January 1970. -/
def CalendarDay.after1970 (days : Nat) : CalendarDay :=
  let n := days + daysBefore1970
  let day := n % daysOfEra
  let year := yearOfEra day
  let dayOfYear := day - (365 * year + year / 4 - year / 100)
  let month := (5 * dayOfYear + 2) / 153
  let dayOfMonth := dayOfYear - (153 * month + 2) / 5 + 1
  let year : Int := (n / daysOfEra * 400 + year : Nat)
  if month < 10 then ⟨year, month + 3, dayOfMonth⟩ else ⟨year + 1, month - 9, dayOfMonth⟩

/-- The moment that is a number of nanoseconds after the start of the year 1970. -/
def Timestamp.after1970? (nanoseconds : Nat) : Option Timestamp :=
  let seconds := nanoseconds / 1000000000
  let ofDay := seconds % 86400
  make? (.after1970 (seconds / 86400))
    ⟨ofDay / 3600, ofDay / 60 % 60, ofDay % 60, nanoseconds % 1000000000⟩

end HostRoster
