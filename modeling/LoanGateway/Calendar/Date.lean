/-!
# Calendar dates

Dates of the proleptic Gregorian calendar, which also has a year zero and years before it.

- `Date`: a day that exists, in a year of the supported range.
- `Date.ofParts?`: the date of a year, a month and a day, if it exists.
-/

namespace LoanGateway

namespace Calendar

/-- Every fourth year is a leap year, except for three of every four centuries. -/
def isLeapYear (year : Int) : Bool :=
  year % 4 == 0 && (year % 100 != 0 || year % 400 == 0)

/-- How many days a month has; there is no thirteenth month. -/
def daysInMonth (year : Int) (month : Nat) : Nat :=
  if month = 2 then (if isLeapYear year then 29 else 28)
  else if month = 4 || month = 6 || month = 9 || month = 11 then 30
  else if 1 ≤ month && month ≤ 12 then 31
  else 0

def firstYear : Int := -262143
def lastYear : Int := 262142

/-- Whether the parts name a day that exists, in a year of the supported range. -/
def isDate (year : Int) (month day : Nat) : Bool :=
  firstYear ≤ year && year ≤ lastYear && 1 ≤ day && day ≤ daysInMonth year month

end Calendar

open Calendar in
/-- A day of the calendar. -/
structure Date where
  year : Int
  month : Nat
  day : Nat
  exists_day : isDate year month day = true := by decide
  deriving DecidableEq

/-- The date of its parts, if there is such a day. -/
def Date.ofParts? (year : Int) (month day : Nat) : Option Date :=
  if h : Calendar.isDate year month day = true then some ⟨year, month, day, h⟩ else none

@[simp] theorem Date.ofParts?_self (d : Date) : Date.ofParts? d.year d.month d.day = some d := by
  simp [Date.ofParts?, d.exists_day]

end LoanGateway
