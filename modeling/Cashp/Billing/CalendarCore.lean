import Cashp.Billing.StateCore

/-!
Calendar arithmetic on Unix seconds in UTC, in the calendar of Go's `time` package. A month is named
by its ordinal `12 * year + month - 1`.
-/

namespace Cashp

def isLeapYear (year : Int) : Bool :=
  year % 4 == 0 && (year % 100 != 0 || year % 400 == 0)

def daysBeforeYear (year : Int) : Int :=
  365 * (year - 1) + (year - 1) / 4 - (year - 1) / 100 + (year - 1) / 400

def daysBeforeMonth (leap : Bool) (month : Int) : Int :=
  let extra : Int := if leap then 1 else 0
  if month ≤ 0 then 0
  else if month = 1 then 31
  else if month = 2 then 59 + extra
  else if month = 3 then 90 + extra
  else if month = 4 then 120 + extra
  else if month = 5 then 151 + extra
  else if month = 6 then 181 + extra
  else if month = 7 then 212 + extra
  else if month = 8 then 243 + extra
  else if month = 9 then 273 + extra
  else if month = 10 then 304 + extra
  else if month = 11 then 334 + extra
  else 365 + extra

def epochDay : Int := 719162

def monthStart (ordinal : Int) : Int :=
  daysBeforeYear (ordinal / 12) + daysBeforeMonth (isLeapYear (ordinal / 12)) (ordinal % 12) -
    epochDay

def daysInMonth (ordinal : Int) : Int :=
  monthStart (ordinal + 1) - monthStart ordinal

def yearOfDay (day : Int) : Int :=
  let shifted := day + epochDay
  let guess := 400 * shifted / 146097 + 1
  if shifted < daysBeforeYear guess then guess - 1
  else if daysBeforeYear (guess + 1) ≤ shifted then guess + 1
  else guess

def monthWithin (leap : Bool) (dayOfYear : Int) : Nat → Int
  | 0 => 0
  | month + 1 =>
    if daysBeforeMonth leap (month + 1) ≤ dayOfYear then month + 1
    else monthWithin leap dayOfYear month

def monthOfDay (day : Int) : Int :=
  let year := yearOfDay day
  12 * year + monthWithin (isLeapYear year) (day + epochDay - daysBeforeYear year) 11

def dayOfMonth (day : Int) : Int :=
  day - monthStart (monthOfDay day) + 1

def advancePeriod (start : Int) (cycle : Cycle) : Option Int :=
  let months := cycleMonths cycle
  if months ≤ 0 then none
  else
    let day := start / 86400
    let target := monthOfDay day + months
    let dom := min (dayOfMonth day) (daysInMonth target)
    some ((monthStart target + dom - 1) * 86400 + start % 86400)

def addDays (instant days : Int) : Int := instant + days * 86400

-- 2024-01-31T12:00:00Z renews monthly on 2024-02-29 and then on 2024-03-29.
example : advancePeriod 1706702400 .monthly = some 1709208000 := by decide
example : advancePeriod 1709208000 .monthly = some 1711713600 := by decide

end Cashp
