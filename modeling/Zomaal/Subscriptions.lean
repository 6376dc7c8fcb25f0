/-
**Subscriptions.**

This module has the rows of a subscription and its invoices, the status that is derived from them,
and the arithmetic of periods: so many months later, on the same day of the month or on its last
one, at the same time of the day.

Main results:

* `lt_addInterval` — **a period ends after it begins**.
-/

import Zomaal.CalendarMonths
import Zomaal.Store

set_option autoImplicit false

namespace Zomaal

/-! ### Rows -/

inductive BillingInterval
  | monthly
  | yearly
  deriving DecidableEq

def BillingInterval.lower : BillingInterval → String
  | .monthly => "monthly"
  | .yearly => "yearly"

/-- Who is paid: a bank transfer that an admin records, or Stripe. -/
inductive BillingProvider
  | manual
  | stripe
  deriving DecidableEq

structure Plan where
  id : String
  code : String
  name : String := ""
  monthlyPrice : Option Decimal := none
  yearlyPrice : Option Decimal := none
  currency : String := "MAD"
  deriving DecidableEq

def Plan.price (plan : Plan) : BillingInterval → Option Decimal
  | .monthly => plan.monthlyPrice
  | .yearly => plan.yearlyPrice

/-- The subscription of an owner; without a plan it is the free trial. -/
structure Subscription where
  id : String
  planId : Option String := none
  interval : Option BillingInterval := none
  trialEndsAt : Option ℤ := none
  currentPeriodStart : Option ℤ := none
  currentPeriodEnd : Option ℤ := none
  cancelAtPeriodEnd : Bool := false
  canceledAt : Option ℤ := none
  accessEndsAt : ℤ
  provider : BillingProvider := .manual
  providerReference : Option String := none
  stripeCustomerId : Option String := none
  stripeSubscriptionId : Option String := none
  stripeCheckoutRequestId : Option String := none
  deriving DecidableEq

structure BillingInvoice where
  planId : String
  planName : String
  interval : BillingInterval
  amount : Decimal
  currency : String
  periodStart : ℤ
  periodEnd : ℤ
  paidAt : ℤ
  provider : BillingProvider
  providerReference : Option String := none
  stripeInvoiceId : Option String := none
  note : Option String := none
  recordedByAdminId : Option String := none
  createdAt : ℤ
  deriving DecidableEq

inductive SubscriptionStatus
  | trialing
  | active
  | trialEnded
  | expired

def deriveSubscriptionStatus (sub : Subscription) (now : ℤ) : SubscriptionStatus :=
  if sub.planId = none then if now < sub.accessEndsAt then .trialing else .trialEnded
  else if now < sub.accessEndsAt then .active else .expired

/-! ### Periods -/

def msPerDay : ℤ := 24 * 60 * 60 * 1000

def trialDays : ℤ := 7

/-- So many months after a day, as `addInterval` finds it: from the first of the month, and back to
the day or to the last day of the month. -/
def addMonths (date months : ℤ) : ℤ :=
  let first := Calendar.monthStart (Calendar.monthOf date)
  let moved := Calendar.monthStart (Calendar.monthOf first + months) + Calendar.dateOf first - 1
  let lastDay := Calendar.dateOf (Calendar.monthStart (Calendar.monthOf moved + 1) - 1)
  Calendar.monthStart (Calendar.monthOf moved) + min (Calendar.dateOf date) lastDay - 1

def addInterval (start : ℤ) (interval : BillingInterval) (count : ℤ) : ℤ :=
  let months := match interval with
    | .monthly => count
    | .yearly => count * 12
  addMonths (start / msPerDay) months * msPerDay + start % msPerDay

theorem addMonths_eq (date months : ℤ) :
    addMonths date months =
      Calendar.monthStart (Calendar.monthOf date + months) +
        min (Calendar.dateOf date) (Calendar.monthLength (Calendar.monthOf date + months)) - 1 := by
  generalize hmonth : Calendar.monthOf date = month
  have hfirst : Calendar.monthOf (Calendar.monthStart month) = month ∧
      Calendar.dateOf (Calendar.monthStart month) = 1 := by
    have hlength := (Calendar.monthLength_bounds month).1
    have hday := @Calendar.monthOf_add month 1 le_rfl (by omega)
    rwa [add_sub_cancel_right] at hday
  have hmoved : Calendar.monthOf (Calendar.monthStart (month + months)) = month + months := by
    have hlength := (Calendar.monthLength_bounds (month + months)).1
    have hday := @Calendar.monthOf_add (month + months) 1 le_rfl (by omega)
    rw [add_sub_cancel_right] at hday
    exact hday.1
  have hlast : Calendar.dateOf (Calendar.monthStart (month + months + 1) - 1) =
      Calendar.monthLength (month + months) := by
    have hlength := (Calendar.monthLength_bounds (month + months)).1
    have hday := @Calendar.monthOf_add (month + months) (Calendar.monthLength (month + months))
      (by omega) le_rfl
    rw [← Calendar.monthStart_succ] at hday
    exact hday.2
  rw [addMonths]
  rw [hmonth, hfirst.1, hfirst.2, add_sub_cancel_right, hmoved, hlast]

/-- **A period ends after it begins.** -/
theorem lt_addInterval (start : ℤ) (interval : BillingInterval) {count : ℤ} (hcount : 0 < count) :
    start < addInterval start interval count := by
  have hmonths : ∀ months : ℤ, 0 < months →
      start < addMonths (start / msPerDay) months * msPerDay + start % msPerDay := by
    intro months hpos
    have hday := (Calendar.monthOf_spec (start / msPerDay)).2
    have hnext := Calendar.monthStart_strictMono.monotone
      (show Calendar.monthOf (start / msPerDay) + 1 ≤
        Calendar.monthOf (start / msPerDay) + months by omega)
    have hdate := (Calendar.dateOf_bounds (start / msPerDay)).1
    have hlength := (Calendar.monthLength_bounds
      (Calendar.monthOf (start / msPerDay) + months)).1
    have hlater : start / msPerDay + 1 ≤ addMonths (start / msPerDay) months := by
      rw [addMonths_eq]
      omega
    unfold msPerDay at *
    omega
  cases interval with
  | monthly => exact hmonths count hcount
  | yearly => exact hmonths (count * 12) (by omega)

/-- The 31st of January, and a month later the last of February. -/
example : addInterval 1706659200000 .monthly 1 = 1709164800000 := by decide +kernel

end Zomaal
