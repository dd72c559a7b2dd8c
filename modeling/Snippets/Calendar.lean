/-!
# Dates and times of day

A date of the proleptic Gregorian calendar, and a moment: a date, a time of day
and, for some, the distance from universal time.
-/

namespace Snippets
namespace Calendar

/-- A year, a month and a day. -/
structure Date where
  /-- The year, from 1 to 9999. -/
  year : Nat
  /-- The month, from 1 to 12. -/
  month : Nat
  /-- The day of the month, from 1. -/
  day : Nat
  deriving DecidableEq, Repr

/-- A date with a time of day. -/
structure Moment where
  /-- The date. -/
  date : Date
  /-- The hour, below 24. -/
  hour : Nat
  /-- The minute, below 60. -/
  minute : Nat
  /-- The second, below 60. -/
  second : Nat
  /-- The millionths of a second. -/
  microsecond : Nat
  /-- The minutes by which the clock is ahead of universal time, if known. -/
  offset : Option Int
  deriving DecidableEq, Repr

/-- Whether a year has a leap day. -/
def isLeapYear (year : Nat) : Bool :=
  year % 4 == 0 && (year % 100 != 0 || year % 400 == 0)

/-- The number of days of a month. -/
def daysInMonth (year month : Nat) : Nat :=
  if month = 2 then (if isLeapYear year then 29 else 28)
  else if month = 4 ∨ month = 6 ∨ month = 9 ∨ month = 11 then 30
  else 31

namespace Date

/-- Whether a date exists. -/
def IsValid (date : Date) : Prop :=
  1 ≤ date.year ∧ date.year ≤ 9999 ∧ 1 ≤ date.month ∧ date.month ≤ 12 ∧
    1 ≤ date.day ∧ date.day ≤ daysInMonth date.year date.month

instance (date : Date) : Decidable date.IsValid :=
  inferInstanceAs (Decidable (_ ∧ _))

/-- The number of days of the months before the given one. -/
def daysBeforeMonth (year : Nat) : Nat → Nat
  | 0 => 0
  | 1 => 0
  | month + 1 => daysBeforeMonth year month + daysInMonth year month

/-- The number of days from the first day of the calendar. -/
def ordinal (date : Date) : Nat :=
  let years := date.year - 1
  years * 365 + years / 4 - years / 100 + years / 400 +
    daysBeforeMonth date.year date.month + date.day

end Date

namespace Moment

/-- Whether the date exists and the time of day is one, less than a day from
universal time. -/
def IsValid (moment : Moment) : Prop :=
  moment.date.IsValid ∧ moment.hour < 24 ∧ moment.minute < 60 ∧ moment.second < 60 ∧
    ∀ offset ∈ moment.offset, -1440 < offset ∧ offset < 1440

instance (moment : Moment) : Decidable moment.IsValid :=
  match known : moment.offset with
  | none =>
      decidable_of_iff
        (moment.date.IsValid ∧ moment.hour < 24 ∧ moment.minute < 60 ∧ moment.second < 60)
        (by simp [IsValid, known])
  | some offset =>
      decidable_of_iff
        (moment.date.IsValid ∧ moment.hour < 24 ∧ moment.minute < 60 ∧ moment.second < 60 ∧
          -1440 < offset ∧ offset < 1440)
        (by simp [IsValid, known])

/-- The microseconds from the first midnight of the calendar on the moment's own
clock. -/
def clockTime (moment : Moment) : Int :=
  ((((moment.date.ordinal * 24 + moment.hour) * 60 + moment.minute) * 60 + moment.second :
    Nat) : Int) * 1000000 + moment.microsecond

/-- Whether two moments are the same point in time.  One with a known offset is
never the same as one without. -/
def sameTime (left right : Moment) : Bool :=
  match left.offset, right.offset with
  | none, none => left.clockTime == right.clockTime
  | some first, some second =>
      left.clockTime - first * 60000000 == right.clockTime - second * 60000000
  | _, _ => false

end Moment
end Calendar
end Snippets
