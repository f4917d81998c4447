import Mathlib.Tactic.SplitIfs
import SqlBuilder.Proofs.Wire.Octets
import SqlBuilder.Timestamp

/-!
# Points in time as microseconds

A point in time goes over the wire as a number of microseconds. All days of the calendar are near
enough for sixty-four bits, and the number tells all about a point in time unless that lies inside a
leap second or between two microseconds.
-/

namespace SqlBuilder

/-- Whether the calendar reaches a point in time. -/
def Timestamp.InCalendar (time : Timestamp) : Prop :=
  Calendar.leastDay ≤ time.day ∧ time.day ≤ Calendar.greatestDay

/-- Whether a number of microseconds tells all about a point in time. -/
structure Timestamp.Transmissible (time : Timestamp) : Prop where
  inCalendar : time.InCalendar
  /-- The point in time does not lie inside a leap second. -/
  regular : time.nanosecond < 1000000000
  whole : time.nanosecond % 1000 = 0

namespace Calendar

theorem leastDay_eq : leastDay = -96476249 := by decide

theorem greatestDay_eq : greatestDay = 95015279 := by decide

theorem daysInMonth_le (year : Int) (month : Nat) : daysInMonth year month ≤ 31 := by
  unfold daysInMonth
  split_ifs <;> omega

variable {year : Int} {month day : Nat}

theorem leastDay_le_dayNumber (least : leastYear ≤ year) (first : 1 ≤ month) (start : 1 ≤ day) :
    leastDay ≤ dayNumber year month day := by
  unfold leastYear at least
  rw [leastDay_eq, dayNumber, cycleStart]
  split_ifs <;> omega

theorem dayNumber_le_greatestDay (greatest : year ≤ greatestYear) (last : month ≤ 12)
    (inMonth : day ≤ daysInMonth year month) : dayNumber year month day ≤ greatestDay := by
  unfold greatestYear at greatest
  have short := daysInMonth_le year month
  rw [greatestDay_eq, dayNumber, cycleStart]
  split_ifs <;> omega

end Calendar

/-- A date and time is a point in time that the calendar reaches. -/
theorem CivilTime.inCalendar_of_toTimestamp? {civil : CivilTime} {time : Timestamp}
    (made : civil.toTimestamp? = some time) : time.InCalendar := by
  unfold toTimestamp? at made
  split_ifs at made with clock date
  obtain ⟨least, greatest, first, last, start, inMonth⟩ := date
  cases made
  exact ⟨Calendar.leastDay_le_dayNumber least first start,
    Calendar.dayNumber_le_greatestDay greatest last inMonth⟩

namespace Timestamp.Transmissible

variable {time : Timestamp} (exact : time.Transmissible)

include exact

/-- Nothing is cut off. -/
theorem microseconds_eq :
    time.microseconds =
      (time.day * 86400 + time.second) * 1000000 + (time.nanosecond / 1000 : Nat) := by
  have whole : (time.day * 86400 + time.second) * 1000000000 + (time.nanosecond : Int) =
      1000 * ((time.day * 86400 + time.second) * 1000000 + (time.nanosecond / 1000 : Nat)) := by
    have := exact.whole
    omega
  rw [microseconds, whole, Int.mul_tdiv_cancel_left _ (by decide)]

/-- The calendar ends before the microseconds of sixty-four bits do. -/
theorem microseconds_fits :
    -(Wire.capacity 8 : Int) ≤ 2 * time.microseconds ∧
      2 * time.microseconds < Wire.capacity 8 := by
  obtain ⟨least, greatest⟩ := exact.inCalendar
  have regular := exact.regular
  have ofDay := time.second_lt
  have room : Wire.capacity 8 = 2 ^ 64 := by decide
  rw [Calendar.leastDay_eq] at least
  rw [Calendar.greatestDay_eq] at greatest
  rw [exact.microseconds_eq, room]
  omega

/-- The number of microseconds is read as the point in time that it was made from. -/
theorem ofMicroseconds?_microseconds : ofMicroseconds? time.microseconds = some time := by
  have regular := exact.regular
  have whole := exact.whole
  have ofDay := time.second_lt
  have sum := exact.microseconds_eq
  have day : time.microseconds / 86400000000 = time.day := by omega
  have rest : (time.microseconds % 86400000000).toNat =
      time.second * 1000000 + time.nanosecond / 1000 := by omega
  have second : (time.second * 1000000 + time.nanosecond / 1000) / 1000000 = time.second := by omega
  have nanosecond : (time.second * 1000000 + time.nanosecond / 1000) % 1000000 * 1000 =
      time.nanosecond := by omega
  simp only [ofMicroseconds?, day, rest, second, nanosecond]
  exact if_pos exact.inCalendar

end Timestamp.Transmissible

end SqlBuilder
