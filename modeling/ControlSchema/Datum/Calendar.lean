import ControlSchema.Datum

/-!
# The calendar

The Gregorian calendar, extended backwards to the year one. A date is real when its month is a month
and its day is a day of that month. Days are counted from the first of March of the year zero, which
puts the leap day at the end of a year.
-/

namespace ControlSchema

def isLeapYear (year : Nat) : Bool := year % 4 = 0 && (year % 100 != 0 || year % 400 = 0)

def daysInMonth (year month : Nat) : Nat :=
  if month = 2 then (if isLeapYear year then 29 else 28)
  else if [4, 6, 9, 11].contains month then 30 else 31

namespace Date

/-- Whether the calendar has the date. -/
def isReal (d : Date) : Bool :=
  1 ≤ d.year && 1 ≤ d.month && d.month ≤ 12 && 1 ≤ d.day && d.day ≤ daysInMonth d.year d.month

/-- The date that lies a number of days behind the first of March of the year zero. -/
def ofDays (days : Nat) : Date :=
  let era := days / 146097
  let dayOfEra := days % 146097
  let yearOfEra := (dayOfEra - dayOfEra / 1460 + dayOfEra / 36524 - dayOfEra / 146096) / 365
  let dayOfYear := dayOfEra - (365 * yearOfEra + yearOfEra / 4 - yearOfEra / 100)
  let shifted := (5 * dayOfYear + 2) / 153
  let month := if shifted < 10 then shifted + 3 else shifted - 9
  let year := 400 * era + yearOfEra + (if month ≤ 2 then 1 else 0)
  ⟨year, month, dayOfYear - (153 * shifted + 2) / 5 + 1⟩

end Date

namespace Moment

/-- The moment, in universal time, that lies a number of seconds behind the start of 1970. -/
def ofSeconds (seconds microsecond : Nat) : Moment :=
  let rest := seconds % 86400
  ⟨.ofDays (seconds / 86400 + 719468),
    ⟨rest / 3600, rest % 3600 / 60, rest % 60, microsecond⟩, some 0⟩

example : ofSeconds 951827696 7 = ⟨⟨2000, 2, 29⟩, ⟨12, 34, 56, 7⟩, some 0⟩ := by decide

end Moment

end ControlSchema
