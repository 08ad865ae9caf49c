/-
The Gregorian calendar.

Years are counted from March, so that the leap day is the last day of its year
and every cut of the calendar, into 400 years, centuries, four years and years,
has its longer piece at the end.  Days are numbered from the first of January
1970.
-/
namespace Firewall

/-- A day of the calendar. -/
structure Date where
  year : Int
  month : Nat
  day : Nat
  deriving DecidableEq, Repr

namespace Date

/-- Whether a year has a leap day. -/
def isLeap (year : Int) : Bool := year % 4 == 0 && (year % 100 != 0 || year % 400 == 0)

/-- How many days a month has. -/
def daysInMonth (year : Int) (month : Nat) : Nat :=
  if month = 2 then if isLeap year then 29 else 28
  else if month = 4 ∨ month = 6 ∨ month = 9 ∨ month = 11 then 30
  else 31

/-- Whether the day exists. -/
def isValid (d : Date) : Bool :=
  1 ≤ d.month && d.month ≤ 12 && 1 ≤ d.day && d.day ≤ daysInMonth d.year d.month

/-- From the first of March of year zero to the first of January 1970. -/
def daysToEpoch : Int := 719468

/-- The number of days since the first of January 1970. -/
def toDays (d : Date) : Int :=
  let year := if d.month ≤ 2 then d.year - 1 else d.year
  let monthFromMarch := (d.month + 9) % 12
  let dayOfYear : Int := ((153 * monthFromMarch + 2) / 5 + d.day - 1 : Nat)
  let yearOfCycle := year % 400
  year / 400 * 146097 + yearOfCycle * 365 + yearOfCycle / 4 - yearOfCycle / 100 + dayOfYear
    - daysToEpoch

/-- The day with a number. -/
def ofDays (n : Int) : Date :=
  let n := n + daysToEpoch
  let cycle := n / 146097
  let dayOfCycle := n % 146097
  let century := min (dayOfCycle / 36524) 3
  let dayOfCentury := dayOfCycle - century * 36524
  let fourYears := dayOfCentury / 1461
  let dayOfFourYears := dayOfCentury % 1461
  let yearOfFour := min (dayOfFourYears / 365) 3
  let dayOfYear := (dayOfFourYears - yearOfFour * 365).toNat
  let year := cycle * 400 + century * 100 + fourYears * 4 + yearOfFour
  let monthFromMarch := (5 * dayOfYear + 2) / 153
  let day := dayOfYear - (153 * monthFromMarch + 2) / 5 + 1
  let month := if monthFromMarch < 10 then monthFromMarch + 3 else monthFromMarch - 9
  ⟨if month ≤ 2 then year + 1 else year, month, day⟩

end Date

end Firewall
