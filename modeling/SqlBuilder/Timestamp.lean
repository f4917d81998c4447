import SqlBuilder.Text.Digits

/-!
# Timestamps

A point in time without a zone: a day, counted from the first of January 2000, and a time of day.
A leap second is the last second of a minute with a billion or more nanoseconds. The calendar is the
Gregorian one for all years.
-/

namespace SqlBuilder

/-- A date and time without a zone. -/
structure Timestamp where
  /-- Days since the first of January 2000. -/
  day : Int
  /-- Second of the day. -/
  second : Nat
  /-- Nanosecond of the second; a billion and more inside a leap second. -/
  nanosecond : Nat
  second_lt : second < 86400
  nanosecond_lt : nanosecond < 2000000000
  deriving DecidableEq

/-- A date and time by the calendar. -/
structure CivilTime where
  year : Int
  month : Nat
  day : Nat
  hour : Nat
  minute : Nat
  second : Nat
  nanosecond : Nat
  deriving DecidableEq, Repr

namespace Calendar

/-- The years that a timestamp can lie in. -/
def leastYear : Int := -262143

/-- The years that a timestamp can lie in. -/
def greatestYear : Int := 262142

/-- Whether a year has a twenty-ninth of February. -/
def isLeapYear (year : Int) : Bool :=
  year % 4 == 0 && (year % 100 != 0 || year % 400 == 0)

/-- The number of days of a month. -/
def daysInMonth (year : Int) (month : Nat) : Nat :=
  if month = 2 then (if isLeapYear year then 29 else 28)
  else if month = 4 ∨ month = 6 ∨ month = 9 ∨ month = 11 then 30
  else 31

/-- The day number of the first of March of the year 0, where counting by 400 years starts. -/
def cycleStart : Int := -730425

/--
The day number of a date. Years are taken to start in March, so that the leap day comes last, and
400 years have 146097 days.
-/
def dayNumber (year : Int) (month day : Nat) : Int :=
  let shifted := if month ≤ 2 then year - 1 else year
  let yearOfCycle := shifted % 400
  let monthFromMarch : Int := if month ≤ 2 then month + 9 else month - 3
  let dayOfYear := (153 * monthFromMarch + 2) / 5 + day - 1
  cycleStart + shifted / 400 * 146097 + yearOfCycle * 365 + yearOfCycle / 4 -
    yearOfCycle / 100 + dayOfYear

/-- The year, month and day of a day number. -/
def dateOf (dayNumber : Int) : Int × Nat × Nat :=
  let shifted := dayNumber - cycleStart
  let dayOfCycle := shifted % 146097
  let yearOfCycle :=
    (dayOfCycle - dayOfCycle / 1460 + dayOfCycle / 36524 - dayOfCycle / 146096) / 365
  let dayOfYear := dayOfCycle - (365 * yearOfCycle + yearOfCycle / 4 - yearOfCycle / 100)
  let monthFromMarch := (5 * dayOfYear + 2) / 153
  let day := dayOfYear - (153 * monthFromMarch + 2) / 5 + 1
  let month := if monthFromMarch < 10 then monthFromMarch + 3 else monthFromMarch - 9
  let year := shifted / 146097 * 400 + yearOfCycle + (if month ≤ 2 then 1 else 0)
  (year, month.toNat, day.toNat)

/-- The first day number of the calendar. -/
def leastDay : Int := dayNumber leastYear 1 1

/-- The last day number of the calendar. -/
def greatestDay : Int := dayNumber greatestYear 12 31

end Calendar

namespace CivilTime

/-- The timestamp of a date and time, if there is such a date and time. -/
def toTimestamp? (civil : CivilTime) : Option Timestamp :=
  if h : civil.hour < 24 ∧ civil.minute < 60 ∧ civil.second < 60 ∧
      civil.nanosecond < 2000000000 then
    if Calendar.leastYear ≤ civil.year ∧ civil.year ≤ Calendar.greatestYear ∧
        1 ≤ civil.month ∧ civil.month ≤ 12 ∧ 1 ≤ civil.day ∧
        civil.day ≤ Calendar.daysInMonth civil.year civil.month then
      some
        { day := Calendar.dayNumber civil.year civil.month civil.day
          second := (civil.hour * 60 + civil.minute) * 60 + civil.second
          nanosecond := civil.nanosecond
          second_lt := by omega
          nanosecond_lt := h.2.2.2 }
    else none
  else none

/-- A year with four digits, signed outside 0 to 9999. -/
def yearText (year : Int) : String :=
  if 0 ≤ year ∧ year ≤ 9999 then Text.padded 4 year.toNat
  else (if year < 0 then "-" else "+") ++ Text.padded 4 year.natAbs

/-- The fraction of a second in three, six or nine digits, the fewest that are exact. -/
def fractionText (nanosecond : Nat) : String :=
  let fraction := nanosecond % 1000000000
  if fraction = 0 then ""
  else if fraction % 1000000 = 0 then "." ++ Text.padded 3 (fraction / 1000000)
  else if fraction % 1000 = 0 then "." ++ Text.padded 6 (fraction / 1000)
  else "." ++ Text.padded 9 fraction

/-- Date and time with a text between them. Inside a leap second the seconds read 60. -/
def text (between : String) (civil : CivilTime) : String :=
  let second := if civil.nanosecond < 1000000000 then civil.second else civil.second + 1
  yearText civil.year ++ "-" ++ Text.padded 2 civil.month ++ "-" ++ Text.padded 2 civil.day ++
    between ++ Text.padded 2 civil.hour ++ ":" ++ Text.padded 2 civil.minute ++ ":" ++
    Text.padded 2 second ++ fractionText civil.nanosecond

end CivilTime

namespace Timestamp

/-- The date and time by the calendar. -/
def toCivil (timestamp : Timestamp) : CivilTime :=
  let (year, month, day) := Calendar.dateOf timestamp.day
  { year, month, day
    hour := timestamp.second / 3600
    minute := timestamp.second / 60 % 60
    second := timestamp.second % 60
    nanosecond := timestamp.nanosecond }

/-- The timestamp as an SQL literal has it. -/
def sqlText (timestamp : Timestamp) : String := timestamp.toCivil.text " "

/-- The timestamp as documents and developer-facing texts have it. -/
def isoText (timestamp : Timestamp) : String := timestamp.toCivil.text "T"

/-- Microseconds since the start of the year 2000, cut off toward zero. -/
def microseconds (timestamp : Timestamp) : Int :=
  ((timestamp.day * 86400 + timestamp.second) * 1000000000 + timestamp.nanosecond).tdiv 1000

/-- The timestamp of a number of microseconds since the start of the year 2000, if the calendar
reaches that far. -/
def ofMicroseconds? (microseconds : Int) : Option Timestamp :=
  let day := microseconds / 86400000000
  let ofDay := (microseconds % 86400000000).toNat
  if Calendar.leastDay ≤ day ∧ day ≤ Calendar.greatestDay then
    some
      { day
        second := ofDay / 1000000
        nanosecond := ofDay % 1000000 * 1000
        second_lt := by omega
        nanosecond_lt := by omega }
  else none

end Timestamp

end SqlBuilder
