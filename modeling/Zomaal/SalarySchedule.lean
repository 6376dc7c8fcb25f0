/-
**When a salary is due.**

A salary is due on its first day and then every day, every week or every month; in a month that is
too short for the day on which the first salary was due, on the last day of that month.

Main results:

* `Salary.advance_occurrence` — **the services step from one due date to the next**;
* `Salary.occurrence_strictMono` — no day is due twice;
* `Salary.occurrence_monthly` — the month and the day of a monthly salary.
-/

import Zomaal.CalendarMonths

set_option autoImplicit false

namespace Zomaal.Salary

inductive SalaryFrequency
  | daily
  | weekly
  | monthly
  deriving DecidableEq

/-! ### Days, the way dates are changed in place -/

/-- `date.setUTCDate(day)`. -/
def setUTCDate (date day : ℤ) : ℤ := Calendar.monthStart (Calendar.monthOf date) + day - 1

/-- `date.setUTCMonth(month, day)`, where the month is counted from the January of the year zero. -/
def setUTCMonth (month day : ℤ) : ℤ := Calendar.monthStart month + day - 1

def addMonthClamped (date anchorDay : ℤ) : ℤ :=
  let first := setUTCDate date 1
  let firstOfTargetMonth := setUTCMonth (Calendar.monthOf first + 1) (Calendar.dateOf first)
  let endOfTargetMonth := setUTCMonth (Calendar.monthOf firstOfTargetMonth + 1) 0
  let lastDayOfTargetMonth := Calendar.dateOf endOfTargetMonth
  setUTCDate firstOfTargetMonth (min anchorDay lastDayOfTargetMonth)

def advance (date : ℤ) (frequency : SalaryFrequency) (anchorDay : ℤ) : ℤ :=
  match frequency with
  | .daily => setUTCDate date (Calendar.dateOf date + 1)
  | .weekly => setUTCDate date (Calendar.dateOf date + 7)
  | .monthly => addMonthClamped date anchorDay

/-! ### Where the steps lead -/

def dueInMonth (month anchorDay : ℤ) : ℤ :=
  Calendar.monthStart month + min anchorDay (Calendar.monthLength month) - 1

variable (startDate : ℤ)

def occurrence (frequency : SalaryFrequency) (n : ℕ) : ℤ :=
  match frequency with
  | .daily => startDate + n
  | .weekly => startDate + 7 * n
  | .monthly => dueInMonth (Calendar.monthOf startDate + n) (Calendar.dateOf startDate)

theorem setUTCDate_add (date days : ℤ) :
    setUTCDate date (Calendar.dateOf date + days) = date + days := by
  rw [setUTCDate, Calendar.dateOf]
  omega

theorem monthOf_dueInMonth {month anchorDay : ℤ} (hanchor : 1 ≤ anchorDay) :
    Calendar.monthOf (dueInMonth month anchorDay) = month ∧
      Calendar.dateOf (dueInMonth month anchorDay) =
        min anchorDay (Calendar.monthLength month) := by
  have hlength := (Calendar.monthLength_bounds month).1
  exact Calendar.monthOf_add (by omega) (min_le_right _ _)

theorem addMonthClamped_eq (date anchorDay : ℤ) :
    addMonthClamped date anchorDay = dueInMonth (Calendar.monthOf date + 1) anchorDay := by
  have hlength := (Calendar.monthLength_bounds (Calendar.monthOf date)).1
  have hnextLength := (Calendar.monthLength_bounds (Calendar.monthOf date + 1)).1
  obtain ⟨hfirst, hone⟩ := @Calendar.monthOf_add (Calendar.monthOf date) 1 le_rfl (by omega)
  obtain ⟨htarget, _⟩ := @Calendar.monthOf_add (Calendar.monthOf date + 1) 1 le_rfl (by omega)
  obtain ⟨_, hlast⟩ := @Calendar.monthOf_add (Calendar.monthOf date + 1)
    (Calendar.monthLength (Calendar.monthOf date + 1)) (by omega) le_rfl
  have hend : setUTCMonth (Calendar.monthOf date + 1 + 1) 0 =
      Calendar.monthStart (Calendar.monthOf date + 1) +
        Calendar.monthLength (Calendar.monthOf date + 1) - 1 := by
    rw [setUTCMonth, Calendar.monthStart_succ (Calendar.monthOf date + 1)]
    omega
  have htargetFirst : setUTCMonth (Calendar.monthOf (setUTCDate date 1) + 1)
      (Calendar.dateOf (setUTCDate date 1)) =
        Calendar.monthStart (Calendar.monthOf date + 1) + 1 - 1 := by
    rw [setUTCDate, hfirst, hone, setUTCMonth]
  rw [addMonthClamped]
  rw [htargetFirst, htarget, hend, hlast, setUTCDate, htarget, dueInMonth]

theorem occurrence_zero (frequency : SalaryFrequency) :
    occurrence startDate frequency 0 = startDate := by
  cases frequency with
  | daily => exact Int.add_zero startDate
  | weekly => exact Int.add_zero startDate
  | monthly =>
    have hday := Calendar.monthStart_add_dateOf startDate
    have hlength := (Calendar.dateOf_bounds startDate).2
    rw [occurrence, Nat.cast_zero, add_zero, dueInMonth, min_eq_left hlength]
    exact hday

/-- **The services step from one due date to the next.** -/
theorem advance_occurrence (frequency : SalaryFrequency) (n : ℕ) :
    advance (occurrence startDate frequency n) frequency (Calendar.dateOf startDate) =
      occurrence startDate frequency (n + 1) := by
  cases frequency with
  | daily =>
    rw [advance, setUTCDate_add, occurrence, occurrence]
    push_cast
    omega
  | weekly =>
    rw [advance, setUTCDate_add, occurrence, occurrence]
    push_cast
    omega
  | monthly =>
    have hmonth := (@monthOf_dueInMonth (Calendar.monthOf startDate + n)
      (Calendar.dateOf startDate) (Calendar.dateOf_bounds startDate).1).1
    rw [advance, addMonthClamped_eq, occurrence, hmonth, occurrence]
    push_cast
    rw [add_assoc]

theorem lt_advance (date : ℤ) (frequency : SalaryFrequency) {anchorDay : ℤ}
    (hanchor : 1 ≤ anchorDay) : date < advance date frequency anchorDay := by
  cases frequency with
  | daily =>
    rw [advance, setUTCDate_add]
    omega
  | weekly =>
    rw [advance, setUTCDate_add]
    omega
  | monthly =>
    have hlength := (Calendar.monthLength_bounds (Calendar.monthOf date + 1)).1
    have hdate := (Calendar.monthOf_spec date).2
    rw [advance, addMonthClamped_eq, dueInMonth]
    omega

/-- **No day is due twice.** -/
theorem occurrence_strictMono (frequency : SalaryFrequency) :
    StrictMono (occurrence startDate frequency) := by
  refine strictMono_nat_of_lt_succ fun n => ?_
  rw [← advance_occurrence]
  exact lt_advance _ _ (Calendar.dateOf_bounds startDate).1

/-- **A monthly salary** is due in every month, on the day it was first due, or on the last day. -/
theorem occurrence_monthly (n : ℕ) :
    Calendar.monthOf (occurrence startDate .monthly n) = Calendar.monthOf startDate + n ∧
      Calendar.dateOf (occurrence startDate .monthly n) =
        min (Calendar.dateOf startDate)
          (Calendar.monthLength (Calendar.monthOf startDate + n)) :=
  monthOf_dueInMonth (Calendar.dateOf_bounds startDate).1

end Zomaal.Salary
