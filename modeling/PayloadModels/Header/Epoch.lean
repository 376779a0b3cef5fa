import PayloadModels.Decimal.Reader
import PayloadModels.Text

/-!
# Dates

Days of the proleptic Gregorian calendar (`Date`), counted from the first day of 1970
(`Date.ofDays`), and the two spellings that file headers use.
-/

namespace PayloadModels

/-- A day of the calendar. -/
structure Date where
  year : Int
  month : Nat
  day : Nat
  deriving DecidableEq, Repr, Inhabited

namespace Date

/-- The days before a month of a year that begins in March, months counted from 0. -/
def daysBeforeMonth (month : Nat) : Nat := (153 * month + 2) / 5

/-- The day that lies `days` days after the first of January 1970. The calendar repeats every
400 years, and a year that begins in March has its leap day last; so the years, months and days
of such a year are read off one after another. -/
def ofDays (days : Int) : Date :=
  let sinceMarch := days + 719468
  let cycle := sinceMarch / 146097
  let dayOfCycle := (sinceMarch % 146097).toNat
  let yearOfCycle :=
    (dayOfCycle - dayOfCycle / 1460 + dayOfCycle / 36524 - dayOfCycle / 146096) / 365
  let dayOfYear := dayOfCycle - (365 * yearOfCycle + yearOfCycle / 4 - yearOfCycle / 100)
  let month := (5 * dayOfYear + 2) / 153
  { year := yearOfCycle + cycle * 400 + (if month < 10 then 0 else 1)
    month := if month < 10 then month + 3 else month - 9
    day := dayOfYear - daysBeforeMonth month + 1 }

/-- The days from the first of January 1970 to the day; `ofDays` undoes it. -/
def toDays (date : Date) : Int :=
  let year := if date.month ≤ 2 then date.year - 1 else date.year
  let month := if date.month ≤ 2 then date.month + 9 else date.month - 3
  let cycle := year / 400
  let yearOfCycle := year % 400
  cycle * 146097 + yearOfCycle * 365 + yearOfCycle / 4 - yearOfCycle / 100
    + daysBeforeMonth month + date.day - 1 - 719468

/-- The day that is `days` days later. -/
def later (date : Date) (days : Int) : Date := ofDays (date.toDays + days)

/-- The number in decimal digits, with zeros in front up to the width. -/
def padded (width n : Nat) : String :=
  let digits := Nat.toDigits 10 n
  String.ofList (List.replicate (width - digits.length) '0' ++ digits)

/-- The day as month, day and the last two digits of the year. -/
def short (date : Date) : String :=
  padded 2 date.month ++ "/" ++ padded 2 date.day ++ "/" ++ padded 2 (date.year % 100).toNat

/-- The year in four digits or more, with a sign when it is before year 0 or after 9999. -/
def yearText (date : Date) : String :=
  if date.year < 0 then "-" ++ padded 4 date.year.natAbs
  else if date.year > 9999 then "+" ++ padded 4 date.year.natAbs
  else padded 4 date.year.natAbs

/-- The years that a clock may show. -/
def clockYears (year : Int) : Prop := -262143 ≤ year ∧ year ≤ 262142

instance (year : Int) : Decidable (clockYears year) := inferInstanceAs (Decidable (_ ∧ _))

/-- The day of a moment, given in seconds after the beginning of 1970, if a clock may show it. -/
def ofSeconds? (seconds : Int) : Option Date :=
  let date := ofDays (seconds / 86400)
  if clockYears date.year then some date else none

end Date

end PayloadModels

namespace PayloadModels.Date

/-!
## Dates fixed from outside

A build that is to be repeated exactly fixes the date that headers show, as a number of seconds
since the beginning of 1970.
-/

/-- The day that a text fixes, if it holds a number of seconds that a clock may show. -/
def ofEpochText? (text : String) : Option Date :=
  (readInt64? (Text.trim text.toList)).bind ofSeconds?

end PayloadModels.Date
