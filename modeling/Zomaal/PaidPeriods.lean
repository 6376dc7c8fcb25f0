/-
**Time that is bought in parts.**

The end of a period keeps the day of the month it began on, or the last day of a shorter month.
Where a renewal goes on from such an end, it knows the shorter day only.

Main results:

* `addInterval_addInterval_iff` — when two periods in a row are one;
* `paidPeriods` — **when the access depends on the number of periods only**.
-/

import Zomaal.ManualBilling

set_option autoImplicit false

namespace Zomaal

/-! ### Two periods in a row -/

def BillingInterval.months (interval : BillingInterval) (count : ℤ) : ℤ :=
  match interval with
  | .monthly => count
  | .yearly => count * 12

theorem BillingInterval.months_add (interval : BillingInterval) (a b : ℤ) :
    interval.months (a + b) = interval.months a + interval.months b := by
  cases interval with
  | monthly => rfl
  | yearly => exact add_mul a b 12

theorem addInterval_eq (start : ℤ) (interval : BillingInterval) (count : ℤ) :
    addInterval start interval count =
      addMonths (start / msPerDay) (interval.months count) * msPerDay + start % msPerDay := by
  cases interval with
  | monthly => rfl
  | yearly => rfl

/-- **The day is not shortened on the way**: the month in which the first periods end has the day
that all of them end on. -/
def KeepsDay (start : ℤ) (interval : BillingInterval) (a b : ℤ) : Prop :=
  let month := Calendar.monthOf (start / msPerDay)
  min (Calendar.dateOf (start / msPerDay))
      (Calendar.monthLength (month + interval.months a + interval.months b)) ≤
    Calendar.monthLength (month + interval.months a)

instance (start : ℤ) (interval : BillingInterval) (a b : ℤ) :
    Decidable (KeepsDay start interval a b) :=
  inferInstanceAs (Decidable (_ ≤ _))

theorem monthOf_addMonths (date months : ℤ) :
    Calendar.monthOf (addMonths date months) = Calendar.monthOf date + months ∧
      Calendar.dateOf (addMonths date months) =
        min (Calendar.dateOf date) (Calendar.monthLength (Calendar.monthOf date + months)) := by
  have hdate := (Calendar.dateOf_bounds date).1
  have hlength := (Calendar.monthLength_bounds (Calendar.monthOf date + months)).1
  rw [addMonths_eq]
  exact Calendar.monthOf_add (by omega) (min_le_right _ _)

/-- **Two periods in a row are one** exactly if the day is not shortened on the way. -/
theorem addInterval_addInterval_iff (start : ℤ) (interval : BillingInterval) (a b : ℤ) :
    addInterval (addInterval start interval a) interval b = addInterval start interval (a + b) ↔
      KeepsDay start interval a b := by
  have hday : 0 < msPerDay := by decide
  have hrest := Int.emod_nonneg start hday.ne'
  have hrest' := Int.emod_lt_of_pos start hday
  have hsplit : addInterval start interval a / msPerDay =
        addMonths (start / msPerDay) (interval.months a) ∧
      addInterval start interval a % msPerDay = start % msPerDay := by
    rw [addInterval_eq]
    constructor
    · rw [add_comm, Int.add_mul_ediv_right _ _ hday.ne', Int.ediv_eq_zero_of_lt hrest hrest',
        zero_add]
    · rw [add_comm, Int.add_mul_emod_self_right, Int.emod_eq_of_lt hrest hrest']
  obtain ⟨hmonth, hdate⟩ := monthOf_addMonths (start / msPerDay) (interval.months a)
  have hscale : ∀ x y : ℤ, x * msPerDay + start % msPerDay = y * msPerDay + start % msPerDay ↔
      x = y := fun x y => by
    rw [add_left_inj, mul_left_inj' hday.ne']
  rw [addInterval_eq (addInterval start interval a), hsplit.1, hsplit.2,
    addInterval_eq start interval (a + b), hscale, interval.months_add,
    addMonths_eq (addMonths _ _), hmonth, hdate, addMonths_eq, ← add_assoc, KeepsDay]
  omega

/-! ### Renewals -/

structure Renewal where
  elapsed : ℕ
  input : ManualActivationInput
  adminId : String

def Renewal.actions (renewal : Renewal) (call : ℕ) : List BillingAction :=
  [.tick renewal.elapsed, .activate call renewal.input renewal.adminId, .read call, .write call]

def renewalActions : ℕ → List Renewal → List BillingAction
  | _, [] => []
  | call, renewal :: renewals => renewal.actions call ++ renewalActions (call + 1) renewals

/-- The account has the plan, and its access has not ended when the payment is recorded. -/
def RenewedInTime (s : BillingDb) : BillingAction → Prop
  | .activate _ input _ => ∃ row, s.subscription = some row ∧ row.planId = some input.planId ∧
      row.interval = some input.interval ∧ s.clock < row.accessEndsAt
  | _ => True

/-- No payment of some ends in a month that shortens the day of the next. -/
def KeepsDays (start : ℤ) (interval : BillingInterval) : ℤ → List Renewal → Prop
  | _, [] => True
  | paid, renewal :: renewals =>
    KeepsDay start interval paid renewal.input.periods ∧
      KeepsDays start interval (paid + renewal.input.periods) renewals

def periodsOf (renewals : List Renewal) : ℤ :=
  (renewals.map fun renewal => (renewal.input.periods : ℤ)).sum

theorem run_renewal {s : BillingDb} {plan : Plan} {renewal : Renewal} {call : ℕ}
    (hcheck : s.checkActivation renewal.input = .ok plan) (hwaiting : s.phases call = .waiting)
    (hintime : Machine.Along BillingDb.step RenewedInTime s (renewal.actions call)) :
    ∃ row row' t, s.subscription = some row ∧ row.interval = some renewal.input.interval ∧
      Machine.run BillingDb.step s (renewal.actions call) = t ∧ t.subscription = some row' ∧
      row'.accessEndsAt =
        addInterval row.accessEndsAt renewal.input.interval renewal.input.periods ∧
      t.hasStore = s.hasStore ∧ t.plans = s.plans ∧
      ∀ other, other ≠ call → t.phases other = s.phases other := by
  obtain ⟨-, ⟨row, hrow, hplan, hinterval, htime⟩, -⟩ := hintime
  have hrow : s.subscription = some row := hrow
  have hid : plan.id = renewal.input.planId := by
    rw [BillingDb.checkActivation] at hcheck
    split at hcheck
    · split at hcheck
      · cases hcheck
      · rename_i found hfound
        split at hcheck
        · cases hcheck
        · obtain rfl := Except.ok.inj hcheck
          simpa using List.find?_some hfound
    · cases hcheck
  have hrenews : row.renewsFrom plan.id renewal.input.interval (s.clock + renewal.elapsed) =
      some row.accessEndsAt := if_pos ⟨hid ▸ hplan, hinterval, htime⟩
  -- the call checks, reads the row, and writes it
  have hcheck' : BillingDb.checkActivation { s with clock := s.clock + renewal.elapsed }
      renewal.input = .ok plan := hcheck
  refine ⟨row, renewal.input.activate plan row (s.clock + renewal.elapsed) row,
    ({ s with clock := s.clock + renewal.elapsed }.setPhase call (.activating plan renewal.input
      renewal.adminId (s.clock + renewal.elapsed))).setPhase call (.activationRead plan
        renewal.input renewal.adminId (s.clock + renewal.elapsed) row false) |>.commitActivation
          call plan renewal.input renewal.adminId (s.clock + renewal.elapsed) row row,
    hrow, hinterval, ?_, rfl, ?_, rfl, rfl, fun other hother => ?_⟩
  · simp only [Renewal.actions, Machine.run_cons, Machine.run_nil, BillingDb.step, hwaiting,
      hcheck']
    simp only [BillingDb.setPhase, Function.update_self, hrow]
  · change renewal.input.periodEnd plan row (s.clock + renewal.elapsed) = _
    rw [ManualActivationInput.periodEnd, ManualActivationInput.periodStart, hrenews]
    rfl
  · simp [BillingDb.commitActivation, BillingDb.setPhase, Function.update_of_ne hother]

theorem run_renewals {plan : Plan} {interval : BillingInterval} {start : ℤ}
    {renewals : List Renewal} {s : BillingDb} {row : Subscription} {call : ℕ} {paid : ℤ}
    (hrow : s.subscription = some row)
    (haccess : row.accessEndsAt = addInterval start interval paid)
    (hwaiting : ∀ other, call ≤ other → s.phases other = .waiting)
    (hsold : ∀ renewal ∈ renewals, renewal.input.interval = interval ∧
      s.checkActivation renewal.input = .ok plan)
    (hintime : Machine.Along BillingDb.step RenewedInTime s (renewalActions call renewals))
    (hkeeps : KeepsDays start interval paid renewals) :
    ∃ row', (Machine.run BillingDb.step s (renewalActions call renewals)).subscription =
      some row' ∧ row'.accessEndsAt = addInterval start interval (paid + periodsOf renewals) := by
  induction renewals generalizing s row call paid with
  | nil => exact ⟨row, hrow, by rw [haccess, periodsOf, List.map_nil, List.sum_nil, add_zero]⟩
  | cons renewal renewals ih =>
    obtain ⟨⟨hinterval, hcheck⟩, hsold⟩ := List.forall_mem_cons.1 hsold
    rw [renewalActions, Machine.Along.append] at hintime
    obtain ⟨old, row', t, hold, -, hrun, hrow', hends, hstore, hplans, hphases⟩ :=
      run_renewal hcheck (hwaiting call le_rfl) hintime.1
    obtain rfl := Option.some.inj (hrow.symm.trans hold)
    rw [hinterval, haccess, (addInterval_addInterval_iff _ _ _ _).2 hkeeps.1] at hends
    obtain ⟨final, hfinal, hlast⟩ := ih hrow' hends
      (fun other hother => (hphases other (by omega)).trans (hwaiting other (by omega)))
      (fun other hother => ⟨(hsold other hother).1, by
        rw [BillingDb.checkActivation, hstore, hplans]
        exact (hsold other hother).2⟩)
      (hrun ▸ hintime.2) hkeeps.2
    refine ⟨final, ?_, ?_⟩
    · rw [renewalActions, Machine.run_append, hrun]
      exact hfinal
    · have htotal : periodsOf (renewal :: renewals) =
          renewal.input.periods + periodsOf renewals := rfl
      rw [hlast, htotal, ← add_assoc]

/-- **Time that is bought in parts** is the time that is bought at once, exactly when the day is not
shortened on the way; and so after any renewals in time that do not shorten it. -/
theorem paidPeriods (start : ℤ) (interval : BillingInterval) :
    (∀ a b : ℕ, 0 < a → 0 < b →
      (addInterval (addInterval start interval a) interval b =
        addInterval start interval ((a : ℤ) + b) ↔ KeepsDay start interval a b)) ∧
    ∀ (plan : Plan) (renewals : List Renewal) (s : BillingDb) (row : Subscription) (call : ℕ)
      (paid : ℤ),
      s.subscription = some row → row.accessEndsAt = addInterval start interval paid →
      (∀ other, call ≤ other → s.phases other = .waiting) →
      (∀ renewal ∈ renewals, renewal.input.interval = interval ∧
        s.checkActivation renewal.input = .ok plan) →
      Machine.Along BillingDb.step RenewedInTime s (renewalActions call renewals) →
      KeepsDays start interval paid renewals →
      ∃ row', (Machine.run BillingDb.step s (renewalActions call renewals)).subscription =
        some row' ∧ row'.accessEndsAt = addInterval start interval (paid + periodsOf renewals) :=
  ⟨fun a b _ _ => addInterval_addInterval_iff start interval a b,
    fun _ _ _ _ _ _ hrow haccess hwaiting hsold hintime hkeeps =>
      run_renewals hrow haccess hwaiting hsold hintime hkeeps⟩

def monthlyPlan : Plan where
  id := "basic"
  code := "BASIC"
  monthlyPrice := some 199

def paidAccount : BillingDb where
  plans := [monthlyPlan]
  subscription := some
    { id := "subscription", planId := some "basic", interval := some .monthly
      accessEndsAt := 1709164800000 }
  clock := 1709000000000

def oneMonth : Renewal where
  elapsed := 1000
  input := { planId := "basic", interval := .monthly, amount := 199, periods_pos := Nat.one_pos }
  adminId := "admin"

theorem paidPeriods_february :
    (addInterval (addInterval 1706486400000 .monthly 1) .monthly 1 =
        addInterval 1706486400000 .monthly 2 ↔ KeepsDay 1706486400000 .monthly 1 1) ∧
      ∃ row', (Machine.run BillingDb.step paidAccount (renewalActions 0 [oneMonth])).subscription =
        some row' ∧ row'.accessEndsAt = addInterval 1706486400000 .monthly (1 + 1) :=
  ⟨(paidPeriods 1706486400000 .monthly).1 1 1 (by decide) (by decide),
    (paidPeriods 1706486400000 .monthly).2 monthlyPlan [oneMonth] paidAccount _ 0 1 rfl
      (by decide +kernel) (fun _ _ => rfl)
      (fun renewal hrenewal => by
        obtain rfl := List.mem_singleton.1 hrenewal
        exact ⟨rfl, rfl⟩)
      ⟨trivial, ⟨_, rfl, rfl, rfl, by decide⟩, trivial, trivial, trivial⟩
      ⟨by decide +kernel, trivial⟩⟩

/-- A month from the 31st of January, and then another one, end on the 29th of March; two months end
on the 31st. -/
theorem paidPeriods_shortened :
    addInterval (addInterval 1706659200000 .monthly 1) .monthly 1 ≠
      addInterval 1706659200000 .monthly (1 + 1) := by
  decide +kernel

end Zomaal
