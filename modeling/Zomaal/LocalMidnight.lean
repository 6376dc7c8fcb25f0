/-
**The instant at which a day begins.**

The services find the first instant of a calendar day in a time zone by bisection.  Clocks that are
put back across midnight bring an earlier day back, and then the search may end at the second of two
midnights.  This module embeds `dateInZone` of `calendar-date.util.ts` and the day ranges of
`expense-date.util.ts`.

Main results:

* `LocalTime.le_firstInstant_iff` — where the search ends;
* `LocalTime.localMidnight` — **days begin where they are found to, and ranges of days have the
  instants of their days**.
-/

import Mathlib.Order.Bounds.Basic
import Mathlib.Tactic.Ring
import Zomaal.Command

set_option autoImplicit false

namespace Zomaal.LocalTime

/-! ### Bisection -/

/-- The loop of the search, with `early mid` for `localDay(mid) < local`. -/
def bisect (early : ℤ → Bool) (low high : ℤ) : ℤ :=
  if low < high then
    if early ((low + high) / 2) then bisect early ((low + high) / 2 + 1) high
    else bisect early low ((low + high) / 2)
  else low
termination_by (high - low).toNat
decreasing_by all_goals omega

theorem bisect_spec (early : ℤ → Bool) {low high : ℤ} (hle : low ≤ high) :
    low ≤ bisect early low high ∧ bisect early low high ≤ high ∧
      (low < bisect early low high → early (bisect early low high - 1) = true) ∧
      (bisect early low high < high → early (bisect early low high) = false) := by
  induction low, high using bisect.induct early with
  | case1 low high hlt hearly ih =>
    rw [bisect, if_pos hlt, if_pos hearly]
    obtain ⟨hlow, hhigh, hbefore, hafter⟩ := ih (by omega)
    refine ⟨by omega, hhigh, fun _ => ?_, hafter⟩
    rcases hlow.eq_or_lt with hsame | hless
    · rw [← hsame, Int.add_sub_cancel]
      exact hearly
    · exact hbefore hless
  | case2 low high hlt hearly ih =>
    rw [bisect, if_pos hlt, if_neg hearly]
    obtain ⟨hlow, hhigh, hbefore, hafter⟩ := ih (by omega)
    refine ⟨hlow, by omega, hbefore, fun _ => ?_⟩
    rcases hhigh.eq_or_lt with hsame | hless
    · rw [hsame]
      exact Bool.eq_false_iff.2 hearly
    · exact hafter hless
  | case3 low high hlt =>
    rw [bisect, if_neg hlt]
    exact ⟨le_rfl, hle, fun h => absurd h (lt_irrefl _), fun h => absurd h hlt⟩

/-! ### Days -/

def hourMs : ℤ := 60 * 60 * 1000

def dayMs : ℤ := 24 * hourMs

structure TimeZone where
  offset : ℤ → ℤ
  offset_bounds : ∀ instant, -(14 * hourMs) ≤ offset instant ∧ offset instant ≤ 14 * hourMs

section Zone

variable (zone : TimeZone)

/-- The calendar day of an instant.  The service compares the midnights, in UTC, of such days. -/
def localDay (instant : ℤ) : ℤ := (instant + zone.offset instant) / dayMs

def firstInstant (day : ℤ) : ℤ :=
  bisect (fun instant => localDay zone instant < day) (day * dayMs - 48 * hourMs)
    (day * dayMs + 48 * hourMs)

def dateInZone (day : ℤ) : Except String ℤ :=
  if localDay zone (firstInstant zone day) ≠ day then
    .error "Calendar date does not exist in the requested timezone"
  else .ok (firstInstant zone day)

/-- A bound of a range: a day, or an instant with its own offset. -/
inductive DateText
  | day (day : ℤ)
  | instant (instant : ℤ)

structure ExpenseRange where
  start : Option ℤ
  stop : Option ℤ
  /-- whether the end belongs to the range -/
  inclusiveTo : Bool

/-- `inclusiveTo ? from > to : from >= to` -/
def ExpenseRange.isBackward (range : ExpenseRange) : Bool :=
  range.start.any fun first => range.stop.any fun last =>
    if range.inclusiveTo then last < first else last ≤ first

def rangeStart : Option DateText → Except String (Option ℤ)
  | none => .ok none
  | some (.day day) => (dateInZone zone day).map some
  | some (.instant instant) => .ok (some instant)

/-- A range that ends with a day ends before the next one begins. -/
def rangeStop : Option DateText → Except String (Option ℤ)
  | some (.day day) => (dateInZone zone (day + 1)).map some
  | dateTo => rangeStart zone dateTo

def isInclusive : Option DateText → Bool
  | some (.instant _) => true
  | _ => false

def expenseRange (dateFrom dateTo : Option DateText) : Except String ExpenseRange := do
  let start ← rangeStart zone dateFrom
  let stop ← rangeStop zone dateTo
  let range : ExpenseRange := { start, stop, inclusiveTo := isInclusive dateTo }
  if range.isBackward then .error "dateFrom must be before or equal to dateTo" else .ok range

def ExpenseRange.selects (range : ExpenseRange) (instant : ℤ) : Bool :=
  (range.start.all fun first => first ≤ instant) &&
    range.stop.all fun last => if range.inclusiveTo then instant ≤ last else instant < last

/-- **No clock is put back across the midnight** at which a day begins. -/
def Onward (day : ℤ) : Prop :=
  ∀ instant later, instant ≤ later → day ≤ localDay zone instant → day ≤ localDay zone later

variable {zone} {day : ℤ}

/-- **The instants from the one that is found on** are those of the day and of later ones. -/
theorem firstInstant_le_iff (h : Onward zone day) (instant : ℤ) :
    firstInstant zone day ≤ instant ↔ day ≤ localDay zone instant := by
  have hbounds := zone.offset_bounds
  have hday : dayMs = 86400000 := rfl
  have hhour : hourMs = 3600000 := rfl
  obtain ⟨hlow, hhigh, hbefore, hafter⟩ := bisect_spec (fun instant => localDay zone instant < day)
    (show day * dayMs - 48 * hourMs ≤ day * dayMs + 48 * hourMs by omega)
  have hstart : localDay zone (day * dayMs - 48 * hourMs) < day := by
    have hoffset := hbounds (day * dayMs - 48 * hourMs)
    rw [localDay]
    generalize zone.offset _ = ahead at hoffset ⊢
    rw [hhour] at hoffset ⊢
    rw [hday]
    omega
  have hstop : day ≤ localDay zone (day * dayMs + 48 * hourMs) := by
    have hoffset := hbounds (day * dayMs + 48 * hourMs)
    rw [localDay]
    generalize zone.offset _ = ahead at hoffset ⊢
    rw [hhour] at hoffset ⊢
    rw [hday]
    omega
  rw [← firstInstant] at hlow hhigh hbefore hafter
  have hreached : day ≤ localDay zone (firstInstant zone day) := by
    rcases hhigh.eq_or_lt with hsame | hless
    · rwa [hsame]
    · exact not_lt.1 (of_decide_eq_false (hafter hless))
  have hprevious : localDay zone (firstInstant zone day - 1) < day := by
    rcases hlow.eq_or_lt with hsame | hless
    · rw [← hsame] at hreached
      exact absurd hstart (not_lt.2 hreached)
    · exact of_decide_eq_true (hbefore hless)
  constructor
  · intro hle
    exact h _ _ hle hreached
  · intro hlater
    by_contra hnot
    exact absurd hprevious (not_lt.2 (h instant _ (by omega) hlater))

/-- **The first instant of a day is found, or it is found that there is none.** -/
def Exact (zone : TimeZone) (day : ℤ) : Prop :=
  (∀ instant, dateInZone zone day = .ok instant ↔
    IsLeast {instant | localDay zone instant = day} instant) ∧
    ((∃ error, dateInZone zone day = .error error) ↔ ∀ instant, localDay zone instant ≠ day)

theorem dateInZone_exact (h : Onward zone day) (hnext : Onward zone (day + 1)) :
    Exact zone day := by
  have hfirst := firstInstant_le_iff h
  by_cases hday : localDay zone (firstInstant zone day) = day
  · have hok : dateInZone zone day = .ok (firstInstant zone day) := if_neg (not_not.2 hday)
    have hleast : IsLeast {instant | localDay zone instant = day} (firstInstant zone day) :=
      ⟨hday, fun instant hsame => (hfirst instant).2 (ge_of_eq hsame)⟩
    constructor
    · intro instant
      rw [hok, Except.ok.injEq]
      exact ⟨fun heq => heq ▸ hleast, fun hother => hleast.unique hother⟩
    · rw [hok]
      exact iff_of_false nofun fun hnone => hnone _ hday
  · have herror : ∃ error, dateInZone zone day = .error error := ⟨_, if_pos hday⟩
    -- the day is skipped: when it would have begun, it is later already
    have hskipped : ∀ instant, localDay zone instant ≠ day := fun instant hsame => by
      have hreached := (hfirst _).1 le_rfl
      have hafter := hnext _ instant ((hfirst instant).2 (ge_of_eq hsame)) (by omega)
      omega
    refine ⟨fun instant => ?_, iff_of_true herror hskipped⟩
    obtain ⟨error, herror⟩ := herror
    rw [herror]
    exact iff_of_false nofun fun hleast => hskipped instant hleast.1

theorem dateInZone_ok {instant : ℤ} (h : dateInZone zone day = .ok instant) :
    instant = firstInstant zone day := by
  rw [dateInZone] at h
  split at h
  · exact nomatch h
  · exact (Except.ok.inj h).symm

theorem expenseRange_selects {first last : ℤ} (hfirst : Onward zone first)
    (hlast : Onward zone (last + 1)) {range : ExpenseRange}
    (h : expenseRange zone (some (.day first)) (some (.day last)) = .ok range) (instant : ℤ) :
    range.selects instant = true ↔
      first ≤ localDay zone instant ∧ localDay zone instant ≤ last := by
  obtain ⟨_, hfrom, h⟩ := Except.bind_eq_ok h
  obtain ⟨_, hto, h⟩ := Except.bind_eq_ok h
  obtain ⟨start, hstart, rfl⟩ := Except.map_eq_ok hfrom
  obtain ⟨stop, hstop, rfl⟩ := Except.map_eq_ok hto
  dsimp only at h
  split at h
  · exact nomatch h
  · obtain rfl := Except.ok.inj h
    have hbefore := firstInstant_le_iff hfirst instant
    have hafter := firstInstant_le_iff hlast instant
    rw [← dateInZone_ok hstart] at hbefore
    rw [← dateInZone_ok hstop] at hafter
    simp only [ExpenseRange.selects, isInclusive, Option.all_some, Bool.and_eq_true,
      Bool.false_eq_true, if_false, decide_eq_true_eq]
    omega

end Zone

/-- **Local midnight is found**, or it is found that a day does not exist, where no clock is put
back across the midnights at which the day begins and ends; and a range of days that is accepted
selects the instants of its days, if that is so of the first midnight and of the last one. -/
theorem localMidnight (zone : TimeZone) :
    (∀ day, Onward zone day → Onward zone (day + 1) → Exact zone day) ∧
    (∀ day start stop, Onward zone day → Onward zone (day + 1) →
      dateInZone zone day = .ok start → dateInZone zone (day + 1) = .ok stop →
      ∀ instant, start ≤ instant ∧ instant < stop ↔ localDay zone instant = day) ∧
    ∀ first last range, Onward zone first → Onward zone (last + 1) →
      expenseRange zone (some (.day first)) (some (.day last)) = .ok range →
      ∀ instant, range.selects instant = true ↔
        first ≤ localDay zone instant ∧ localDay zone instant ≤ last := by
  refine ⟨fun day => dateInZone_exact, ?_, ?_⟩
  · intro day start stop hday hnext hstart hstop instant
    rw [dateInZone_ok hstart, dateInZone_ok hstop, firstInstant_le_iff hday, ← not_le,
      firstInstant_le_iff hnext]
    omega
  · intro first last range hfirst hlast h instant
    exact expenseRange_selects hfirst hlast h instant

def hourAhead : TimeZone where
  offset _ := hourMs
  offset_bounds _ := by decide

theorem hourAhead_onward (day : ℤ) : Onward hourAhead day := fun instant later hle h =>
  h.trans (Int.ediv_le_ediv (by decide) (Int.add_le_add_right hle _))

/-- Where clocks stay an hour ahead, days begin an hour earlier. -/
theorem localMidnight_hourAhead :
    Exact hourAhead 0 ∧
      (∀ start stop, dateInZone hourAhead 0 = .ok start → dateInZone hourAhead 1 = .ok stop →
        ∀ instant, start ≤ instant ∧ instant < stop ↔ localDay hourAhead instant = 0) ∧
      ∀ range, expenseRange hourAhead (some (.day 0)) (some (.day 1)) = .ok range →
        ∀ instant, range.selects instant = true ↔
          0 ≤ localDay hourAhead instant ∧ localDay hourAhead instant ≤ 1 :=
  ⟨(localMidnight hourAhead).1 0 (hourAhead_onward 0) (hourAhead_onward 1),
    fun start stop => (localMidnight hourAhead).2.1 0 start stop (hourAhead_onward 0)
      (hourAhead_onward 1),
    fun range => (localMidnight hourAhead).2.2 0 1 range (hourAhead_onward 0) (hourAhead_onward 2)⟩

/-- Newfoundland in the autumn of 2010: a minute after the midnight at which the seventh of November
begins, clocks are put back by an hour. -/
def newfoundland : TimeZone where
  offset instant := if instant < 14920 * dayMs + 9060000 then -9000000 else -12600000
  offset_bounds instant := by
    split <;> decide

/-- The day begins at half past two in UTC, and again an hour later, which is what is found. -/
theorem localMidnight_newfoundland : ¬ Exact newfoundland 14920 := by
  intro h
  have hfirst : IsLeast {instant | localDay newfoundland instant = 14920}
      (14920 * dayMs + 9000000) := by
    refine ⟨by decide +kernel, fun instant hday => ?_⟩
    by_contra hnot
    have hbefore : localDay newfoundland instant = (instant + -9000000) / dayMs := by
      rw [localDay, newfoundland]
      dsimp only
      rw [if_pos (by omega)]
    change localDay newfoundland instant = 14920 at hday
    rw [hbefore] at hday
    have hms : dayMs = 86400000 := rfl
    rw [hms] at hday hnot
    omega
  have hfound := (h.1 _).2 hfirst
  have hlate : 14920 * dayMs + 10800001 ≤ firstInstant newfoundland 14920 := by
    rw [firstInstant, bisect, if_pos (by decide), if_pos (by decide +kernel)]
    rw [bisect, if_pos (by decide), if_neg (by decide +kernel)]
    rw [bisect, if_pos (by decide), if_neg (by decide +kernel)]
    rw [bisect, if_pos (by decide), if_neg (by decide +kernel)]
    rw [bisect, if_pos (by decide), if_pos (by decide +kernel)]
    exact le_trans (by decide) (bisect_spec _ (by decide)).1
  rw [← dateInZone_ok hfound] at hlate
  exact absurd hlate (by decide)

end Zomaal.LocalTime
