import Cashp.Billing.CalendarCore
import Mathlib.Order.Monotone.Basic
import Mathlib.Tactic.IntervalCases
import Mathlib.Data.Int.ConditionallyCompleteOrder

/-!
Periods end after their start: months follow each other without a gap, and a day lies before the
month after its own.
-/

namespace Cashp

theorem daysBeforeYear_next (year : Int) :
    daysBeforeYear (year + 1) = daysBeforeYear year + if isLeapYear year then 366 else 365 := by
  unfold daysBeforeYear isLeapYear
  simp only [Bool.and_eq_true, Bool.or_eq_true, beq_iff_eq, bne_iff_ne]
  split <;> omega

theorem day_before_next_year (day : Int) : day + epochDay < daysBeforeYear (yearOfDay day + 1) := by
  grind [daysBeforeYear, yearOfDay]

theorem daysBeforeMonth_next (leap : Bool) (month : Int) (first : 0 ≤ month) (last : month ≤ 11) :
    daysBeforeMonth leap month < daysBeforeMonth leap (month + 1) ∧
      daysBeforeMonth leap (month + 1) ≤ daysBeforeMonth leap month + 31 := by
  interval_cases month <;> cases leap <;> decide

theorem daysBeforeMonth_whole (leap : Bool) :
    daysBeforeMonth leap 12 = if leap then 366 else 365 := by
  cases leap <;> rfl

theorem monthStart_within (year month : Int) (first : 0 ≤ month) (last : month ≤ 12) :
    monthStart (12 * year + month) =
      daysBeforeYear year + daysBeforeMonth (isLeapYear year) month - epochDay := by
  unfold monthStart
  by_cases whole : month = 12
  · have next : (12 * year + month) / 12 = year + 1 := by omega
    have january : (12 * year + month) % 12 = 0 := by omega
    rw [next, january, daysBeforeYear_next, whole, daysBeforeMonth_whole]
    simp [daysBeforeMonth]
  · grind

theorem monthStart_next (ordinal : Int) : monthStart ordinal < monthStart (ordinal + 1) ∧
      monthStart (ordinal + 1) ≤ monthStart ordinal + 31 := by
  have split : ordinal = 12 * (ordinal / 12) + ordinal % 12 := by omega
  have longer := daysBeforeMonth_next (isLeapYear (ordinal / 12)) (ordinal % 12) (by omega)
    (by omega)
  have here := monthStart_within (ordinal / 12) (ordinal % 12) (by omega) (by omega)
  have next := monthStart_within (ordinal / 12) (ordinal % 12 + 1) (by omega) (by omega)
  rw [← split] at here
  rw [← Int.add_assoc, ← split] at next
  omega

theorem monthStart_strictMono : StrictMono monthStart :=
  strictMono_int_of_lt_succ fun ordinal => (monthStart_next ordinal).1

theorem monthWithin_bounds (leap : Bool) (dayOfYear : Int) (months : Nat)
    (inside : dayOfYear < daysBeforeMonth leap (months + 1)) :
    0 ≤ monthWithin leap dayOfYear months ∧ monthWithin leap dayOfYear months ≤ months ∧
      dayOfYear < daysBeforeMonth leap (monthWithin leap dayOfYear months + 1) := by
  induction months with
  | zero => exact ⟨le_rfl, le_rfl, inside⟩
  | succ month ih =>
    grind [monthWithin]

theorem day_inside_year (day : Int) : day + epochDay - daysBeforeYear (yearOfDay day) <
    daysBeforeMonth (isLeapYear (yearOfDay day)) ((11 : Nat) + 1) := by
  have bound := day_before_next_year day
  rw [daysBeforeYear_next, ← daysBeforeMonth_whole] at bound
  change _ < daysBeforeMonth _ 12
  omega

theorem day_before_next_month (day : Int) : day < monthStart (monthOfDay day + 1) := by
  obtain ⟨first, last, before⟩ := monthWithin_bounds _ _ 11 (day_inside_year day)
  unfold monthOfDay
  dsimp only
  rw [Int.add_assoc, monthStart_within _ _ (by omega) (by push_cast at last; omega)]
  omega

theorem year_start_le (day : Int) : daysBeforeYear (yearOfDay day) ≤ day + epochDay := by
  unfold yearOfDay
  generalize day + epochDay = shifted
  dsimp only
  split
  · unfold daysBeforeYear
    omega
  · split <;> omega

theorem monthWithin_start_le (leap : Bool) {dayOfYear : Int} (inside : 0 ≤ dayOfYear)
    (months : Nat) : daysBeforeMonth leap (monthWithin leap dayOfYear months) ≤ dayOfYear := by
  induction months with
  | zero => simpa [monthWithin, daysBeforeMonth] using inside
  | succ month ih =>
    simp only [monthWithin]
    split
    · assumption
    · exact ih

theorem monthStart_le (day : Int) : monthStart (monthOfDay day) ≤ day := by
  obtain ⟨first, last, _⟩ := monthWithin_bounds _ _ 11 (day_inside_year day)
  have month := monthWithin_start_le (isLeapYear (yearOfDay day))
    (sub_nonneg.mpr (year_start_le day)) 11
  unfold monthOfDay
  dsimp only
  rw [monthStart_within _ _ first (by push_cast at last; omega)]
  omega

theorem monthOfDay_eq {ordinal day : Int} (first : monthStart ordinal ≤ day)
    (last : day < monthStart (ordinal + 1)) : monthOfDay day = ordinal := by
  have begun := monthStart_strictMono.lt_iff_lt.mp (first.trans_lt (day_before_next_month day))
  have ended := monthStart_strictMono.lt_iff_lt.mp ((monthStart_le day).trans_lt last)
  omega

theorem dayOfMonth_pos (day : Int) : 1 ≤ dayOfMonth day := by
  have first := monthStart_le day
  unfold dayOfMonth
  omega

theorem daysInMonth_pos (ordinal : Int) : 1 ≤ daysInMonth ordinal := by
  have longer := (monthStart_next ordinal).1
  unfold daysInMonth
  omega

variable {cycle : Cycle}

theorem advancePeriod_date {start stop : Int} (renews : advancePeriod start cycle = some stop) :
    0 < cycleMonths cycle ∧
      monthOfDay (stop / 86400) = monthOfDay (start / 86400) + cycleMonths cycle ∧
      dayOfMonth (stop / 86400) = min (dayOfMonth (start / 86400))
        (daysInMonth (monthOfDay (start / 86400) + cycleMonths cycle)) ∧
      stop % 86400 = start % 86400 := by
  unfold advancePeriod at renews
  dsimp only at renews
  split at renews
  · cases renews
  rename_i months
  have first := dayOfMonth_pos (start / 86400)
  have last := daysInMonth_pos (monthOfDay (start / 86400) + cycleMonths cycle)
  generalize monthOfDay (start / 86400) + cycleMonths cycle = target at *
  generalize dayOfMonth (start / 86400) = day at *
  obtain rfl := Option.some.inj renews
  have date : ((monthStart target + min day (daysInMonth target) - 1) * 86400 + start % 86400) /
      86400 = monthStart target + min day (daysInMonth target) - 1 := by
    omega
  have month : monthOfDay (monthStart target + min day (daysInMonth target) - 1) = target := by
    unfold daysInMonth at *
    exact monthOfDay_eq (by omega) (by omega)
  rw [date, dayOfMonth, month]
  exact ⟨by omega, rfl, by omega, by omega⟩

theorem advancePeriod_after {start stop : Int}
    (renews : advancePeriod start cycle = some stop) : start < stop := by
  obtain ⟨months, later, _⟩ := advancePeriod_date renews
  have here := day_before_next_month (start / 86400)
  have beyond : monthStart (monthOfDay (start / 86400) + 1) ≤
      monthStart (monthOfDay (stop / 86400)) := monthStart_strictMono.monotone (by omega)
  have there := monthStart_le (stop / 86400)
  omega

end Cashp
