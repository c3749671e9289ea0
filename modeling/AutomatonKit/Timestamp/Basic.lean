/-!
# Timestamps

A timestamp is a moment of universal time, given by its calendar date and its time of day down to
the nanosecond.  Dates follow the Gregorian calendar, which is also used for the years before its
introduction; the year before year 1 is year 0.  A leap second is the second 60 of its minute.
-/

namespace AutomatonKit

/-- A calendar date. -/
structure Date where
  /-- The year, counted astronomically. -/
  year : Int
  /-- The month, from 1. -/
  month : Nat
  /-- The day of the month, from 1. -/
  day : Nat
deriving DecidableEq

namespace Date

/-- The first year that a timestamp may fall into. -/
def minYear : Int := -262143

/-- The last year that a timestamp may fall into. -/
def maxYear : Int := 262142

def isLeapYear (year : Int) : Bool :=
  year % 4 == 0 && (year % 100 != 0 || year % 400 == 0)

/-- The number of days of a month, and 0 for a number that is no month. -/
def daysInMonth (year : Int) (month : Nat) : Nat :=
  match month with
  | 1 | 3 | 5 | 7 | 8 | 10 | 12 => 31
  | 4 | 6 | 9 | 11 => 30
  | 2 => if isLeapYear year then 29 else 28
  | _ => 0

/-- Whether a date exists and its year is in range. -/
def isValid (d : Date) : Bool :=
  decide (minYear ≤ d.year) && decide (d.year ≤ maxYear) && decide (1 ≤ d.day) &&
    decide (d.day ≤ daysInMonth d.year d.month)

def next (d : Date) : Date :=
  if d.day < daysInMonth d.year d.month then { d with day := d.day + 1 }
  else if d.month < 12 then { d with month := d.month + 1, day := 1 }
  else ⟨d.year + 1, 1, 1⟩

def previous (d : Date) : Date :=
  if 1 < d.day then { d with day := d.day - 1 }
  else if 1 < d.month then ⟨d.year, d.month - 1, daysInMonth d.year (d.month - 1)⟩
  else ⟨d.year - 1, 12, 31⟩

/-- The date that lies a number of days after the first of January 1970.  The days are counted from
a first of March at the beginning of a cycle of 400 years, so that a leap day is the last day of its
year. -/
def ofDayNumber (days : Int) : Date :=
  -- 719468 days lie between the first of March of the year 0 and the first of January 1970
  let shifted := days + 719468
  let cycle := shifted / 146097
  let dayOfCycle := (shifted % 146097).toNat
  -- without its leap days, which end every fourth year but for three of the centuries, a year has
  -- 365 days
  let yearOfCycle :=
    (dayOfCycle - dayOfCycle / 1460 + dayOfCycle / 36524 - dayOfCycle / 146096) / 365
  let dayOfYear := dayOfCycle - (365 * yearOfCycle + yearOfCycle / 4 - yearOfCycle / 100)
  -- the five months from March on have 153 days, and so have the next five
  let monthFromMarch := (5 * dayOfYear + 2) / 153
  let day := dayOfYear - (153 * monthFromMarch + 2) / 5 + 1
  let month := if monthFromMarch < 10 then monthFromMarch + 3 else monthFromMarch - 9
  let year := cycle * 400 + yearOfCycle
  ⟨if month ≤ 2 then year + 1 else year, month, day⟩

end Date

/-- A moment of universal time. -/
structure Timestamp where
  date : Date
  /-- The hour, from 0 to 23. -/
  hour : Nat
  /-- The minute, from 0 to 59. -/
  minute : Nat
  /-- The second, from 0 to 59, and 60 for a leap second. -/
  second : Nat
  /-- The nanoseconds since the beginning of the second. -/
  nanosecond : Nat
deriving DecidableEq

namespace Timestamp

/-- Whether date and time of day exist. -/
def isValid (t : Timestamp) : Bool :=
  t.date.isValid && decide (t.hour < 24) && decide (t.minute < 60) && decide (t.second ≤ 60) &&
    decide (t.nanosecond < 1000000000)

/-- The moment that a clock shows which is ahead of universal time by a number of minutes, less than
a day in either direction. -/
def ofLocal (shown : Timestamp) (ahead : Int) : Timestamp :=
  let minutes := (shown.hour * 60 + shown.minute : Int) - ahead
  -- the clocks differ by less than a day, so the date changes by one day at most
  let date :=
    if minutes < 0 then shown.date.previous
    else if 1440 ≤ minutes then shown.date.next
    else shown.date
  let minuteOfDay := (minutes % 1440).toNat
  { shown with date, hour := minuteOfDay / 60, minute := minuteOfDay % 60 }

/-- The moment a number of seconds and nanoseconds after the beginning of 1970. -/
def ofUnixTime (seconds : Int) (nanosecond : Nat) : Timestamp :=
  let secondOfDay := (seconds % 86400).toNat
  { date := .ofDayNumber (seconds / 86400)
    hour := secondOfDay / 3600
    minute := secondOfDay / 60 % 60
    second := secondOfDay % 60
    nanosecond }

end Timestamp

end AutomatonKit
