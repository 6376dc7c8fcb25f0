/-
**Days and months of the Gregorian calendar.**

A day is a number, counted from the first of January 1970, and a month is a number, counted from the
January of the year zero; both may be negative.  Each month begins where the one before ends.

Main results:

* `Calendar.monthStart_succ` — **months follow one another**;
* `Calendar.monthOf_eq` — **a day is in one month only**.
-/

import Mathlib.Tactic.Linarith
import Mathlib.Data.Int.ConditionallyCompleteOrder

set_option autoImplicit false

namespace Calendar

/-! ### Years -/

def isLeap (year : ℤ) : Bool := year % 4 = 0 && (year % 100 ≠ 0 || year % 400 = 0)

def yearStart (year : ℤ) : ℤ :=
  365 * (year - 1970) + (year - 1969) / 4 - (year - 1901) / 100 + (year - 1601) / 400

def yearLength (leap : Bool) : ℤ := if leap then 366 else 365

theorem isLeap_iff (year : ℤ) :
    isLeap year = true ↔ year % 4 = 0 ∧ (year % 100 ≠ 0 ∨ year % 400 = 0) := by
  simp [isLeap]

theorem yearStart_succ (year : ℤ) :
    yearStart (year + 1) = yearStart year + yearLength (isLeap year) := by
  have hleap := isLeap_iff year
  unfold yearStart yearLength
  split
  · rename_i h
    have hyear := hleap.1 h
    omega
  · rename_i h
    have hyear : ¬ (year % 4 = 0 ∧ (year % 100 ≠ 0 ∨ year % 400 = 0)) := fun hyear =>
      h (hleap.2 hyear)
    omega

/-- The year of a day: an estimate that is off by one at most, and then corrected. -/
def yearOf (day : ℤ) : ℤ :=
  let year := 1970 + 400 * day / 146097
  if day < yearStart year then year - 1
  else if yearStart (year + 1) ≤ day then year + 1
  else year

theorem yearOf_spec (day : ℤ) : yearStart (yearOf day) ≤ day ∧ day < yearStart (yearOf day + 1) := by
  unfold yearOf
  dsimp only
  generalize hyear : 1970 + 400 * day / 146097 = year
  split
  · rw [Int.sub_add_cancel]
    unfold yearStart at *
    omega
  · split <;> unfold yearStart at * <;> omega

/-! ### Months of a year -/

def daysInMonth (leap : Bool) : ℕ → ℤ
  | 1 => if leap then 29 else 28
  | 3 | 5 | 8 | 10 => 30
  | _ => 31

def daysBefore (leap : Bool) : ℕ → ℤ
  | 0 => 0
  | month + 1 => daysBefore leap month + daysInMonth leap month

theorem daysInMonth_bounds (leap : Bool) (month : ℕ) :
    28 ≤ daysInMonth leap month ∧ daysInMonth leap month ≤ 31 := by
  unfold daysInMonth
  split
  · split <;> omega
  · omega
  · omega
  · omega
  · omega
  · omega

theorem daysBefore_twelve (leap : Bool) : daysBefore leap 12 = yearLength leap := by
  cases leap <;> rfl

def monthWithin (leap : Bool) (offset : ℤ) : ℕ :=
  ((List.range 11).find? fun month => offset < daysBefore leap (month + 1)).getD 11

theorem monthWithin_spec {leap : Bool} {offset : ℤ} (hlow : 0 ≤ offset)
    (hhigh : offset < yearLength leap) :
    monthWithin leap offset < 12 ∧ daysBefore leap (monthWithin leap offset) ≤ offset ∧
      offset < daysBefore leap (monthWithin leap offset + 1) := by
  rw [monthWithin]
  cases hfound : (List.range 11).find? fun month => offset < daysBefore leap (month + 1) with
  | none =>
    rw [List.find?_eq_none] at hfound
    have hlast := hfound 10 (by simp)
    refine ⟨by decide, by simpa using hlast, ?_⟩
    rw [Option.getD_none, daysBefore_twelve]
    exact hhigh
  | some month =>
    rw [Option.getD_some]
    have hmonth := List.mem_range.1 (List.mem_of_find?_eq_some hfound)
    have hnext : offset < daysBefore leap (month + 1) := by simpa using List.find?_some hfound
    refine ⟨by omega, ?_, hnext⟩
    cases month with
    | zero => exact hlow
    | succ month =>
      -- the month before was not found
      have hbefore := List.find?_eq_some_iff_getElem.1 hfound
      obtain ⟨_, i, hi, heq, hearlier⟩ := hbefore
      rw [List.getElem_range] at heq
      have hprev := hearlier month (by omega)
      rw [List.getElem_range] at hprev
      simpa using hprev

/-! ### Months -/

def monthStart (month : ℤ) : ℤ :=
  yearStart (month / 12) + daysBefore (isLeap (month / 12)) (month % 12).toNat

def monthLength (month : ℤ) : ℤ := daysInMonth (isLeap (month / 12)) (month % 12).toNat

theorem monthLength_bounds (month : ℤ) : 28 ≤ monthLength month ∧ monthLength month ≤ 31 :=
  daysInMonth_bounds _ _

/-- **Months follow one another.** -/
theorem monthStart_succ (month : ℤ) :
    monthStart (month + 1) = monthStart month + monthLength month := by
  unfold monthStart monthLength
  by_cases hlast : month % 12 = 11
  · have hyear : (month + 1) / 12 = month / 12 + 1 := by omega
    have hfirst : (month + 1) % 12 = 0 := by omega
    have hlength := daysBefore_twelve (isLeap (month / 12))
    rw [daysBefore] at hlength
    rw [hyear, hfirst, hlast, yearStart_succ, ← hlength]
    change _ + (_ + _) + 0 = _ + _ + _
    rw [add_zero, add_assoc]
    rfl
  · have hyear : (month + 1) / 12 = month / 12 := by omega
    have hnext : ((month + 1) % 12).toNat = (month % 12).toNat + 1 := by omega
    rw [hyear, hnext, daysBefore, add_assoc]

theorem monthStart_strictMono : StrictMono monthStart := by
  refine strictMono_int_of_lt_succ fun month => ?_
  have hlength := (monthLength_bounds month).1
  rw [monthStart_succ]
  omega

def monthOf (day : ℤ) : ℤ :=
  let year := yearOf day
  12 * year + monthWithin (isLeap year) (day - yearStart year)

def dateOf (day : ℤ) : ℤ := day - monthStart (monthOf day) + 1

theorem monthOf_spec (day : ℤ) :
    monthStart (monthOf day) ≤ day ∧ day < monthStart (monthOf day + 1) := by
  obtain ⟨hlow, hhigh⟩ := yearOf_spec day
  rw [yearStart_succ] at hhigh
  obtain ⟨hmonth, hbefore, hafter⟩ :=
    @monthWithin_spec (isLeap (yearOf day)) (day - yearStart (yearOf day)) (by omega) (by omega)
  have hyear : monthOf day / 12 = yearOf day := by
    unfold monthOf
    dsimp only
    omega
  have hwithin : (monthOf day % 12).toNat =
      monthWithin (isLeap (yearOf day)) (day - yearStart (yearOf day)) := by
    unfold monthOf
    dsimp only
    omega
  rw [daysBefore] at hafter
  rw [monthStart_succ]
  unfold monthStart monthLength
  rw [hyear, hwithin]
  constructor <;> omega

/-- **A day is in one month only.** -/
theorem monthOf_eq {day month : ℤ} (hlow : monthStart month ≤ day)
    (hhigh : day < monthStart (month + 1)) : monthOf day = month := by
  obtain ⟨hlow', hhigh'⟩ := monthOf_spec day
  have hle := monthStart_strictMono.lt_iff_lt.1 (hlow.trans_lt hhigh')
  have hge := monthStart_strictMono.lt_iff_lt.1 (hlow'.trans_lt hhigh)
  omega

theorem monthOf_add {month date : ℤ} (hlow : 1 ≤ date) (hhigh : date ≤ monthLength month) :
    monthOf (monthStart month + date - 1) = month ∧ dateOf (monthStart month + date - 1) = date := by
  have hmonth : monthOf (monthStart month + date - 1) = month := by
    refine monthOf_eq (by omega) ?_
    rw [monthStart_succ]
    omega
  refine ⟨hmonth, ?_⟩
  rw [dateOf, hmonth]
  omega

theorem dateOf_bounds (day : ℤ) : 1 ≤ dateOf day ∧ dateOf day ≤ monthLength (monthOf day) := by
  obtain ⟨hlow, hhigh⟩ := monthOf_spec day
  rw [monthStart_succ] at hhigh
  unfold dateOf
  constructor <;> omega

theorem monthStart_add_dateOf (day : ℤ) : monthStart (monthOf day) + dateOf day - 1 = day := by
  rw [dateOf]
  omega

end Calendar
