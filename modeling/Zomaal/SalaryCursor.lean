/-
**The cursor of a salary.**

When a profile is saved with another first day, the schedule begins anew; when it is saved with the
same first day, the date that is due is kept, whatever else is changed.

Main results:

* `Salary.salary_cursor` — **the cursor is on the schedule of its anchor**, in every run;
* `Salary.salary_cursor_kept` — a change of the frequency keeps the date.
-/

import Zomaal.SalaryAccrual

set_option autoImplicit false

namespace Zomaal.Salary

/-! ### Due dates from an anchor on -/

def scheduleFrom (anchor : ℤ) (frequency : SalaryFrequency) (anchorDay : ℤ) : ℕ → ℤ
  | 0 => anchor
  | n + 1 =>
    match frequency with
    | .daily => anchor + (n + 1)
    | .weekly => anchor + 7 * (n + 1)
    | .monthly => dueInMonth (Calendar.monthOf anchor + (n + 1)) anchorDay

theorem advance_scheduleFrom (anchor : ℤ) (frequency : SalaryFrequency) {anchorDay : ℤ}
    (hanchor : 1 ≤ anchorDay) (n : ℕ) :
    advance (scheduleFrom anchor frequency anchorDay n) frequency anchorDay =
      scheduleFrom anchor frequency anchorDay (n + 1) := by
  cases frequency with
  | daily =>
    cases n with
    | zero =>
      rw [advance, setUTCDate_add]
      simp [scheduleFrom]
    | succ n =>
      rw [advance, setUTCDate_add, scheduleFrom, scheduleFrom]
      push_cast
      omega
  | weekly =>
    cases n with
    | zero =>
      rw [advance, setUTCDate_add]
      simp [scheduleFrom]
    | succ n =>
      rw [advance, setUTCDate_add, scheduleFrom, scheduleFrom]
      push_cast
      omega
  | monthly =>
    rw [advance, addMonthClamped_eq]
    cases n with
    | zero => simp [scheduleFrom]
    | succ n =>
      have hmonth := (@monthOf_dueInMonth (Calendar.monthOf anchor + (n + 1)) anchorDay hanchor).1
      rw [scheduleFrom, scheduleFrom, hmonth]
      push_cast
      rw [add_assoc]

theorem scheduleFrom_startDate (startDate : ℤ) (frequency : SalaryFrequency) (n : ℕ) :
    scheduleFrom startDate frequency (Calendar.dateOf startDate) n =
      occurrence startDate frequency n := by
  induction n with
  | zero => exact (occurrence_zero startDate frequency).symm
  | succ n ih =>
    rw [← advance_scheduleFrom _ _ (Calendar.dateOf_bounds startDate).1, ih, advance_occurrence]

/-! ### What a call does to a profile -/

namespace SalaryDb

variable {env : SalaryEnv} {db db' : SalaryDb} {storeId : String} {staff : StaffMember}

theorem linkExpense_profiles {userId : Option String} {payment : StaffSalaryPayment}
    (hrun : db.linkExpense storeId userId staff payment = .ok db') : db'.profiles = db.profiles := by
  rcases linkExpense_eq hrun with ⟨_, rfl⟩ | ⟨_, e, categories, _, _, _, rfl⟩
  · rfl
  · rfl

theorem payWith_profiles {userId : Option String} {payment : StaffSalaryPayment}
    (hrun : db.payWith storeId userId staff payment = .ok db') : db'.profiles = db.profiles :=
  (linkExpense_profiles hrun).trans rfl

variable {now : ℤ} {count : ℕ}

theorem accruePeriod_profiles {profile : StaffSalaryProfile} {date : ℤ}
    (hrun : db.accruePeriod storeId staff profile date now = .ok (db', count)) :
    db'.profiles = db.profiles := by
  unfold accruePeriod at hrun
  split at hrun
  · dsimp only at hrun
    split at hrun
    · obtain ⟨db₁, hlink, heq⟩ := Except.map_eq_ok hrun
      obtain ⟨rfl, _⟩ := Prod.mk.inj heq
      exact (linkExpense_profiles hlink).trans rfl
    · obtain ⟨rfl, _⟩ := Prod.mk.inj (Except.ok.inj hrun)
      rfl
  · split at hrun
    · obtain ⟨db₁, hpay, heq⟩ := Except.map_eq_ok hrun
      obtain ⟨rfl, _⟩ := Prod.mk.inj heq
      exact payWith_profiles hpay
    · obtain ⟨rfl, _⟩ := Prod.mk.inj (Except.ok.inj hrun)
      rfl

variable {userId : String}

theorem createPayments_profiles {dto : CreateSalaryPaymentDto}
    (hrun : db.createPayments env userId storeId dto now = .ok db') :
    db'.profiles = db.profiles := by
  obtain ⟨date, _, hrun⟩ := Except.bind_eq_ok hrun
  dsimp only at hrun
  split at hrun
  · refine Except.foldlM_keeps (I := fun db₁ => db₁.profiles = db.profiles) ?_ rfl hrun
    intro db₁ staffMemberId db₂ hprofiles hone
    obtain ⟨staff, _, hone⟩ := Except.bind_eq_ok hone
    obtain ⟨amount, _, hone⟩ := Except.bind_eq_ok hone
    obtain ⟨db₃, hattach, hone⟩ := Except.bind_eq_ok hone
    obtain ⟨receipts, rfl⟩ := attachGivenReceipt_eq hattach
    split at hone
    · exact (linkExpense_profiles hone).trans hprofiles
    · obtain rfl := Except.ok.inj hone
      exact hprofiles
  · split at hrun
    · cases hrun
    · obtain rfl := Except.ok.inj hrun
      rfl

theorem confirmPayment_profiles {paymentId : ℕ} {dto : ConfirmSalaryPaymentDto}
    (hrun : db.confirmPayment env userId storeId paymentId dto now = .ok db') :
    db'.profiles = db.profiles := by
  obtain ⟨paidAt, _, hrun⟩ := Except.bind_eq_ok hrun
  obtain ⟨⟨payment, staff⟩, _, hrun⟩ := Except.bind_eq_ok hrun
  dsimp only at hrun
  split at hrun
  · obtain rfl := Except.ok.inj hrun
    rfl
  split at hrun
  · cases hrun
  split at hrun
  · cases hrun
  obtain ⟨db₁, hattach, hpay⟩ := Except.bind_eq_ok hrun
  obtain ⟨receipts, rfl⟩ := attachGivenReceipt_eq hattach
  exact (payWith_profiles hpay).trans rfl

theorem recordExpense_profiles {paymentId : ℕ}
    (hrun : db.recordExpense userId storeId paymentId now = .ok db') :
    db'.profiles = db.profiles := by
  obtain ⟨⟨payment, staff⟩, _, hrun⟩ := Except.bind_eq_ok hrun
  dsimp only at hrun
  split at hrun
  · exact linkExpense_profiles hrun
  · exact payWith_profiles hrun

theorem accruePeriods_cursor {profile : StaffSalaryProfile} {today : ℤ} {fuel : ℕ} {date date' : ℤ}
    {count' : ℕ} (hrun : accruePeriods storeId staff profile today now fuel db date count =
      .ok (db', date', count')) :
    (∃ m, date' = (fun d => advance d profile.frequency profile.anchorDay)^[m] date) ∧
      db'.profiles = db.profiles := by
  induction fuel generalizing db date count with
  | zero =>
    obtain ⟨rfl, rfl, _⟩ : db = db' ∧ date = date' ∧ count = count' := by
      simpa [accruePeriods] using hrun
    exact ⟨⟨0, rfl⟩, rfl⟩
  | succ fuel ih =>
    rw [accruePeriods] at hrun
    split at hrun
    · split at hrun
      · cases hrun
      · rename_i db₁ created hperiod
        obtain ⟨⟨m, hdate⟩, hprofiles⟩ := ih hrun
        exact ⟨⟨m + 1, hdate⟩, hprofiles.trans (accruePeriod_profiles hperiod)⟩
    · obtain ⟨rfl, rfl, _⟩ : db = db' ∧ date = date' ∧ count = count' := by
        simpa using hrun
      exact ⟨⟨0, rfl⟩, rfl⟩

theorem accrue_cursor {staffMemberId : String}
    (hrun : db.accrue env storeId staffMemberId now = .ok (db', count)) (other : String) :
    db'.findProfile other = db.findProfile other ∨
      ∃ profile cursor m, db.findProfile other = some profile ∧
        profile.nextPaymentDate = some cursor ∧
        db'.findProfile other = some { profile with
          nextPaymentDate := some (midnight
            ((fun d => advance d profile.frequency profile.anchorDay)^[m] (salaryDay cursor))) } := by
  obtain ⟨staff, _, hrun⟩ := Except.bind_eq_ok hrun
  split at hrun
  · obtain ⟨rfl, _⟩ := Prod.mk.inj (Except.ok.inj hrun)
    exact .inl rfl
  · rename_i profile hprofile
    dsimp only at hrun
    split at hrun
    · obtain ⟨rfl, _⟩ := Prod.mk.inj (Except.ok.inj hrun)
      exact .inl rfl
    · rename_i cursor hcursor
      split at hrun
      · obtain ⟨rfl, _⟩ := Prod.mk.inj (Except.ok.inj hrun)
        exact .inl rfl
      · obtain ⟨⟨db₁, date, count'⟩, hperiods, hrun⟩ := Except.bind_eq_ok hrun
        obtain ⟨rfl, _⟩ := Prod.mk.inj (Except.ok.inj hrun)
        obtain ⟨⟨m, rfl⟩, hprofiles⟩ := accruePeriods_cursor hperiods
        have hsame : db₁.findProfile other = db.findProfile other := by
          rw [SalaryDb.findProfile, hprofiles]
          rfl
        rw [findProfile_moved, hsame]
        by_cases hstaff : other = staffMemberId
        · subst hstaff
          rw [hprofile, Option.map_some, if_pos rfl]
          exact .inr ⟨profile, cursor, m, rfl, hcursor, rfl⟩
        · left
          simp only [if_neg hstaff, Option.map_id']

end SalaryDb

/-! ### The anchor of a schedule -/

/-- **The anchor that a call leaves**: a first day that is new, or the date that was due when the
frequency was changed and the first day was not. -/
def reanchor (before after : Option StaffSalaryProfile) (anchor : ℤ) : ℤ :=
  match before, after with
  | none, some profile => salaryDay profile.startDate
  | some old, some profile =>
    if salaryDay old.startDate ≠ salaryDay profile.startDate then salaryDay profile.startDate
    else if old.frequency ≠ profile.frequency then
      (old.nextPaymentDate.map salaryDay).getD (salaryDay profile.startDate)
    else anchor
  | _, none => anchor

/-- The rows, and the anchor of the profile of a staff member. -/
structure AnchoredDb where
  db : SalaryDb
  anchor : ℤ

def anchoredStep (env : SalaryEnv) (staffMemberId : String) (state : AnchoredDb)
    (action : SalaryAction) : AnchoredDb :=
  let db := SalaryAction.step env state.db action
  { db, anchor := reanchor (state.db.findProfile staffMemberId) (db.findProfile staffMemberId)
      state.anchor }

theorem anchoredRun_db (env : SalaryEnv) (staffMemberId : String) (state : AnchoredDb)
    (actions : List SalaryAction) :
    (Machine.run (anchoredStep env staffMemberId) state actions).db =
      Machine.run (SalaryAction.step env) state.db actions := by
  induction actions generalizing state with
  | nil => rfl
  | cons action actions ih => exact ih (anchoredStep env staffMemberId state action)

def OnSchedule (profile : StaffSalaryProfile) (anchor : ℤ) : Prop :=
  ∃ cursor n, profile.nextPaymentDate = some cursor ∧
    salaryDay cursor = scheduleFrom anchor profile.frequency profile.anchorDay n

theorem OnSchedule.advance {profile : StaffSalaryProfile} {anchor cursor : ℤ}
    (h : OnSchedule profile anchor) (hcursor : profile.nextPaymentDate = some cursor) (m : ℕ) :
    OnSchedule { profile with
      nextPaymentDate := some (midnight
        ((fun d => advance d profile.frequency profile.anchorDay)^[m] (salaryDay cursor))) }
      anchor := by
  obtain ⟨cursor', n, hcursor', hn⟩ := h
  obtain rfl := Option.some.inj (hcursor'.symm.trans hcursor)
  refine ⟨_, n + m, rfl, ?_⟩
  rw [SalaryDb.salaryDay_midnight, hn]
  have hanchor : 1 ≤ profile.anchorDay := (Calendar.dateOf_bounds _).1
  induction m with
  | zero => rfl
  | succ m ih =>
    rw [Function.iterate_succ_apply', ih]
    exact advance_scheduleFrom _ _ hanchor _

theorem salaryProfileData_cursor {env : SalaryEnv} {staffMemberId : String}
    {dto : SetSalaryProfileDto} {existing : Option StaffSalaryProfile} {data : StaffSalaryProfile}
    (hdata : salaryProfileData env staffMemberId dto existing = .ok data) :
    data.nextPaymentDate = some (((existing.filter fun profile =>
      salaryDay profile.startDate = salaryDay data.startDate).bind
        StaffSalaryProfile.nextPaymentDate).getD data.startDate) := by
  obtain ⟨day, _, hdata⟩ := Except.bind_eq_ok hdata
  obtain rfl := Except.ok.inj hdata
  simp only [SalaryDb.salaryDay_midnight]

theorem OnSchedule.saved {env : SalaryEnv} {staffMemberId : String} {dto : SetSalaryProfileDto}
    {existing : Option StaffSalaryProfile} {data : StaffSalaryProfile} {anchor : ℤ}
    (h : ∀ profile ∈ existing, OnSchedule profile anchor)
    (hdata : salaryProfileData env staffMemberId dto existing = .ok data) :
    OnSchedule data (reanchor existing (some data) anchor) := by
  have hcursor := salaryProfileData_cursor hdata
  cases existing with
  | none => exact ⟨data.startDate, 0, hcursor, rfl⟩
  | some old =>
    rw [reanchor]
    by_cases hday : salaryDay old.startDate = salaryDay data.startDate
    · obtain ⟨cursor, n, hold, hn⟩ := h old rfl
      rw [Option.filter_some, if_pos (decide_eq_true hday), Option.bind_some, hold,
        Option.getD_some] at hcursor
      rw [if_neg (not_not.2 hday)]
      by_cases hfrequency : old.frequency = data.frequency
      · rw [if_neg (not_not.2 hfrequency)]
        refine ⟨cursor, n, hcursor, hn.trans ?_⟩
        rw [StaffSalaryProfile.anchorDay, hday, hfrequency]
        rfl
      · rw [if_pos hfrequency, hold]
        exact ⟨cursor, 0, hcursor, rfl⟩
    · rw [Option.filter_some, if_neg (by simpa using hday)] at hcursor
      rw [if_pos hday]
      exact ⟨data.startDate, 0, hcursor, rfl⟩

def terms (profile : StaffSalaryProfile) : StaffSalaryProfile :=
  { profile with nextPaymentDate := none }

theorem reanchor_terms {before after : Option StaffSalaryProfile}
    (hterms : after.map terms = before.map terms) (anchor : ℤ) :
    reanchor before after anchor = anchor := by
  cases before with
  | none =>
    obtain rfl : after = none := by simpa using hterms
    rfl
  | some old =>
    obtain ⟨profile, rfl, heq⟩ := Option.map_eq_some_iff.1 hterms
    have hstart : profile.startDate = old.startDate := congrArg (·.startDate) heq
    have hfrequency : profile.frequency = old.frequency := congrArg (·.frequency) heq
    rw [reanchor, hstart, hfrequency, if_neg (by simp), if_neg (by simp)]

namespace AnchoredDb

variable {env : SalaryEnv} {staffMemberId : String} {anchor : ℤ} {db : SalaryDb}

def Kept (staffMemberId : String) (anchor : ℤ) (db db' : SalaryDb) : Prop :=
  (∀ profile ∈ db.findProfile staffMemberId, OnSchedule profile anchor) →
    ∀ profile ∈ db'.findProfile staffMemberId, OnSchedule profile
      (reanchor (db.findProfile staffMemberId) (db'.findProfile staffMemberId) anchor)

theorem kept_of_same {db' : SalaryDb}
    (hsame : db'.findProfile staffMemberId = db.findProfile staffMemberId) :
    Kept staffMemberId anchor db db' := by
  intro h
  rw [reanchor_terms (congrArg _ hsame), hsame]
  exact h

theorem kept_commit {result : Except SalaryError SalaryDb}
    (hprofiles : ∀ db', result = .ok db' → db'.profiles = db.profiles) :
    Kept staffMemberId anchor db (commit db result) := by
  refine kept_of_same ?_
  cases result with
  | error error => rfl
  | ok db' =>
    rw [commit, SalaryDb.findProfile, hprofiles db' rfl]
    rfl

theorem accrue_kept {db' : SalaryDb} {storeId other : String} {now : ℤ} {count : ℕ}
    (hrun : db.accrue env storeId other now = .ok (db', count))
    (h : ∀ profile ∈ db.findProfile staffMemberId, OnSchedule profile anchor) :
    (db'.findProfile staffMemberId).map terms = (db.findProfile staffMemberId).map terms ∧
      ∀ profile ∈ db'.findProfile staffMemberId, OnSchedule profile anchor := by
  rcases SalaryDb.accrue_cursor hrun staffMemberId with
    hsame | ⟨profile, cursor, m, hprofile, hcursor, hmoved⟩
  · rw [hsame]
    exact ⟨rfl, h⟩
  · rw [hmoved, hprofile]
    refine ⟨rfl, ?_⟩
    rintro _ ⟨⟩
    exact (h profile hprofile).advance hcursor m

theorem accrueEach_kept {now : ℤ} (candidates : List (String × String)) (processed : ℕ)
    (h : ∀ profile ∈ db.findProfile staffMemberId, OnSchedule profile anchor) :
    let db' := (SalaryDb.accrueEach env now candidates db processed).1
    (db'.findProfile staffMemberId).map terms = (db.findProfile staffMemberId).map terms ∧
      ∀ profile ∈ db'.findProfile staffMemberId, OnSchedule profile anchor := by
  induction candidates generalizing db processed with
  | nil => exact ⟨rfl, h⟩
  | cons candidate candidates ih =>
    intro db'
    obtain ⟨storeId, other⟩ := candidate
    cases hrun : db.accrue env storeId other now with
    | error error =>
      have hstop : db' = db := by
        simp only [db', SalaryDb.accrueEach, hrun]
      rw [hstop]
      exact ⟨rfl, h⟩
    | ok result =>
      obtain ⟨db₁, count⟩ := result
      have hnext : db' = (SalaryDb.accrueEach env now candidates db₁ (processed + count)).1 := by
        simp only [db', SalaryDb.accrueEach, hrun]
      obtain ⟨hterms, hkept⟩ := accrue_kept hrun h
      obtain ⟨hterms', hkept'⟩ := ih (processed + count) hkept
      rw [hnext]
      exact ⟨hterms'.trans hterms, hkept'⟩

theorem step_kept (action : SalaryAction) :
    Kept staffMemberId anchor db (SalaryAction.step env db action) := by
  cases action with
  | setProfile storeId other dto =>
    rw [SalaryAction.step]
    cases hrun : db.setProfile env storeId other dto with
    | error error => exact kept_of_same rfl
    | ok db' =>
      obtain ⟨data, profiles, hdata, rfl, hprofiles⟩ := SalaryDb.setProfile_eq hrun
      by_cases hstaff : staffMemberId = other
      · subst hstaff
        intro h
        have hsaved : ({ db with profiles } : SalaryDb).findProfile staffMemberId = some data :=
          (hprofiles staffMemberId).trans (if_pos rfl)
        rw [commit, hsaved]
        rintro _ ⟨⟩
        exact OnSchedule.saved h hdata
      · exact kept_of_same ((hprofiles staffMemberId).trans (if_neg hstaff))
  | createPayments userId storeId dto now =>
    exact kept_commit fun _ hrun => SalaryDb.createPayments_profiles hrun
  | confirmPayment userId storeId paymentId dto now =>
    exact kept_commit fun _ hrun => SalaryDb.confirmPayment_profiles hrun
  | recordExpense userId storeId paymentId now =>
    exact kept_commit fun _ hrun => SalaryDb.recordExpense_profiles hrun
  | accrue storeId other now =>
    rw [SalaryAction.step]
    cases hrun : db.accrue env storeId other now with
    | error error => exact kept_of_same rfl
    | ok result =>
      intro h
      obtain ⟨hterms, hkept⟩ := accrue_kept hrun h
      rw [Except.map, commit, reanchor_terms hterms]
      exact hkept
  | runAutomaticPayments now =>
    intro h
    obtain ⟨hterms, hkept⟩ := @accrueEach_kept env staffMemberId anchor db now (db.due env now) 0 h
    rw [SalaryAction.step, SalaryDb.runAutomaticPayments, reanchor_terms hterms]
    exact hkept

end AnchoredDb

/-! ### Every run -/

/-- **The cursor is on the schedule of its anchor**, in every run from rows that have no profile of the
staff member: the date that is due is some steps of the profile's frequency from its anchor.  As long as
the anchor is the first day, it is one of the due dates of the profile. -/
theorem salary_cursor (env : SalaryEnv) {start : AnchoredDb} {staffMemberId : String}
    (hstart : start.db.findProfile staffMemberId = none) (actions : List SalaryAction) :
    let state := Machine.run (anchoredStep env staffMemberId) start actions
    state.db = Machine.run (SalaryAction.step env) start.db actions ∧
      ∀ profile, state.db.findProfile staffMemberId = some profile → ∃ cursor n,
        profile.nextPaymentDate = some cursor ∧
        salaryDay cursor = scheduleFrom state.anchor profile.frequency profile.anchorDay n ∧
        (state.anchor = salaryDay profile.startDate → salaryDay cursor = profile.occurrence n) := by
  refine ⟨anchoredRun_db env staffMemberId start actions, fun profile hprofile => ?_⟩
  have hkept : ∀ profile ∈ (Machine.run (anchoredStep env staffMemberId) start actions).db.findProfile
      staffMemberId, OnSchedule profile
        (Machine.run (anchoredStep env staffMemberId) start actions).anchor := by
    refine Machine.run_keeps (I := fun state : AnchoredDb =>
      ∀ profile ∈ state.db.findProfile staffMemberId, OnSchedule profile state.anchor) (fun state action h => ?_) ?_ actions
    · exact AnchoredDb.step_kept action h
    · rw [hstart]
      exact fun _ h => nomatch h
  obtain ⟨cursor, n, hcursor, hn⟩ := hkept profile hprofile
  refine ⟨cursor, n, hcursor, hn, fun hanchor => hn.trans ?_⟩
  rw [hanchor]
  exact scheduleFrom_startDate _ _ _

/-- A daily salary is saved, is due on five days, and is saved as a weekly one with the same first
day. -/
def weeklyAfterAll : List SalaryAction :=
  [.setProfile "store" "staff"
      { baseSalary := 10, frequency := .daily, paymentMethod := .cash, startDate := .label 20484 },
    .runAutomaticPayments (midnight 20488),
    .setProfile "store" "staff"
      { baseSalary := 70, frequency := .weekly, paymentMethod := .cash, startDate := .label 20484 }]

def salariless : SalaryDb := { staff := [{ id := "staff", storeId := "store", name := "Sara" }] }

theorem salary_cursor_weekly : ∃ profile cursor n,
    (Machine.run (anchoredStep utcOnly "staff") ⟨salariless, 0⟩
      (weeklyAfterAll ++ [.runAutomaticPayments (midnight 20500)])).db.findProfile "staff" =
        some profile ∧
    profile.nextPaymentDate = some cursor ∧
    salaryDay cursor = scheduleFrom (Machine.run (anchoredStep utcOnly "staff") ⟨salariless, 0⟩
      (weeklyAfterAll ++ [.runAutomaticPayments (midnight 20500)])).anchor
        profile.frequency profile.anchorDay n := by
  have hsome : ((Machine.run (anchoredStep utcOnly "staff") ⟨salariless, 0⟩
      (weeklyAfterAll ++ [.runAutomaticPayments (midnight 20500)])).db.findProfile
        "staff").isSome = true := by
    decide +kernel
  obtain ⟨profile, hprofile⟩ := Option.isSome_iff_exists.1 hsome
  obtain ⟨cursor, n, hcursor, hn, _⟩ := (@salary_cursor utcOnly ⟨salariless, 0⟩ "staff" rfl
    (weeklyAfterAll ++ [.runAutomaticPayments (midnight 20500)])).2 profile hprofile
  exact ⟨profile, cursor, n, hprofile, hcursor, hn⟩

/-- **A change of the frequency keeps the date**, which is then not on the profile's own schedule. -/
theorem salary_cursor_kept : ∃ profile,
    (Machine.run (SalaryAction.step utcOnly) salariless weeklyAfterAll).findProfile "staff" =
      some profile ∧
    ∀ n, profile.nextPaymentDate.map salaryDay ≠ some (profile.occurrence n) := by
  have hrow : ((Machine.run (SalaryAction.step utcOnly) salariless weeklyAfterAll).findProfile
      "staff").map (fun profile => (profile.frequency, salaryDay profile.startDate,
        profile.nextPaymentDate.map salaryDay)) = some (.weekly, 20484, some 20489) := by
    decide +kernel
  obtain ⟨profile, hprofile, heq⟩ := Option.map_eq_some_iff.1 hrow
  obtain ⟨hfrequency, heq⟩ := Prod.mk.inj heq
  obtain ⟨hstart, hdate⟩ := Prod.mk.inj heq
  refine ⟨profile, hprofile, fun n hn => ?_⟩
  rw [hdate, StaffSalaryProfile.occurrence, hstart, hfrequency, occurrence] at hn
  have hday := Option.some.inj hn
  omega

end Zomaal.Salary
