/-
**Salaries accrue.**

The scheduler steps from one due date to the next.  At each it creates a payment, unless there is
one, and for automatic salaries it sees to it that the payment is paid.

Main results:

* `Salary.SalaryDb.accrue_spec` — one transaction of the scheduler;
* `Salary.salary_accrual` — **every due date has one payment**, after every run.
-/

import Zomaal.MachineRun
import Zomaal.SalaryBooks

set_option autoImplicit false

namespace Zomaal.Salary

namespace SalaryDb

variable {env : SalaryEnv} {db db' : SalaryDb} {storeId : String} {staff : StaffMember}

/-! ### A payment is created and paid -/

theorem createAndLink_step {userId : Option String} {payment : StaffSalaryPayment}
    (h : SalaryBooks none db) (hid : payment.id = db.freshPaymentId)
    (hexpense : payment.expenseId = none)
    (hfree : ∀ r ∈ db.payments, r.staffMemberId = payment.staffMemberId → r.day ≠ payment.day)
    {receipts : List ReceiptAsset}
    (hrun : (if payment.status = .paid then
        { db.createPayment payment with receipts }.linkExpense storeId userId staff payment
      else .ok { db.createPayment payment with receipts }) = .ok db') :
    SalaryStep (Later payment) db db' ∧ ∃ r' ∈ db'.payments, Later payment r' := by
  have hbooks := createPayment_books h hid hexpense hfree
  have hmem : payment ∈ (db.createPayment payment).payments := by
    rw [createPayment]
    simp
  have hstep : SalaryStep (fun _ => False) { db.createPayment payment with receipts } db' := by
    split at hrun
    · exact linkExpense_step (hbooks.receipts receipts) hmem hrun
    · rename_i hpending
      obtain rfl := Except.ok.inj hrun
      refine SalaryStep.refl ⟨hbooks.ids, hbooks.days, hbooks.expenseIds, hbooks.linked,
        hbooks.distinct, hbooks.used, fun r hr hpaid _ => hbooks.paid r hr hpaid fun heq => ?_⟩
      obtain rfl := hbooks.eq_of_id hr hmem (Option.some.inj heq)
      exact hpending hpaid
  refine ⟨⟨hstep.books, hstep.staff, hstep.profiles, fun r hr => ?_, fun r' hr' => ?_⟩,
    hstep.kept payment hmem⟩
  · exact hstep.kept r (List.mem_append_left _ hr)
  · rcases hstep.rows r' hr' with ⟨r, hr, hlater⟩ | hnew
    · rcases Ledger.mem_concat.1 hr with hr | hr
      · exact .inl ⟨r, hr, hlater⟩
      · exact .inr (hr ▸ hlater)
    · exact hnew.elim

/-! ### The scheduler -/

/-- A payment that the scheduler has created for one of the dates. -/
def AccruedFor (staffMemberId : String) (dates : ℤ → Prop) (r : StaffSalaryPayment) : Prop :=
  r.staffMemberId = staffMemberId ∧ r.createdByUserId = none ∧
    ∃ date, r.scheduledFor = some date ∧ dates date

variable {staffMemberId : String}

theorem AccruedFor.later {dates : ℤ → Prop} {r r' : StaffSalaryPayment}
    (h : AccruedFor staffMemberId dates r) (hlater : Later r r') :
    AccruedFor staffMemberId dates r' := by
  obtain ⟨hstaff, hcreated, date, hscheduled, hdate⟩ := h
  exact ⟨hlater.staffMemberId.trans hstaff, hlater.createdByUserId.trans hcreated, date,
    hlater.scheduledFor.trans hscheduled, hdate⟩

def HasPayment (db : SalaryDb) (profile : StaffSalaryProfile) (date : ℤ) : Prop :=
  ∃ r ∈ db.payments, r.staffMemberId = profile.staffMemberId ∧ r.day = date ∧
    (profile.expenseHandling = .automatic → r.status = .paid)

variable {profile : StaffSalaryProfile} {date : ℤ}

theorem HasPayment.step {New : StaffSalaryPayment → Prop} (h : db.HasPayment profile date)
    (hstep : SalaryStep New db db') : db'.HasPayment profile date := by
  obtain ⟨r, hr, hstaff, hday, hpaid⟩ := h
  obtain ⟨r', hr', hlater⟩ := hstep.kept r hr
  exact ⟨r', hr', hlater.staffMemberId.trans hstaff, hlater.day.trans hday,
    fun hautomatic => hlater.paid (hpaid hautomatic)⟩

variable {now : ℤ} {count : ℕ}

theorem accruePeriod_spec (h : SalaryBooks none db)
    (hrun : db.accruePeriod storeId staff profile date now = .ok (db', count)) :
    SalaryStep (AccruedFor profile.staffMemberId (· = date)) db db' ∧ db'.HasPayment profile date := by
  unfold accruePeriod at hrun
  split at hrun
  · rename_i hnone
    -- no payment yet: it is created, and paid if salaries are automatic
    have hcreate : (if (accruedPayment db.freshPaymentId profile date now).status = .paid then
        { db.createPayment (accruedPayment db.freshPaymentId profile date now) with
          receipts := db.receipts }.linkExpense storeId none staff
            (accruedPayment db.freshPaymentId profile date now)
      else .ok { db.createPayment (accruedPayment db.freshPaymentId profile date now) with
        receipts := db.receipts }) = .ok db' := by
      by_cases hautomatic : profile.expenseHandling = .automatic
      · simp only [if_pos hautomatic] at hrun
        obtain ⟨db₁, hlink, heq⟩ := Except.map_eq_ok hrun
        obtain ⟨rfl, _⟩ := Prod.mk.inj heq
        exact (if_pos (if_pos hautomatic)).trans hlink
      · simp only [if_neg hautomatic] at hrun
        obtain ⟨rfl, _⟩ := Prod.mk.inj (Except.ok.inj hrun)
        have hpending : (accruedPayment db.freshPaymentId profile date now).status = .pending :=
          if_neg hautomatic
        exact if_neg fun hpaid => by cases hpending.symm.trans hpaid
    obtain ⟨hstep, r, hr, hlater⟩ := createAndLink_step h rfl rfl (findSalaryForDay_none hnone) hcreate
    refine ⟨hstep.mono fun r' hlater' => ?_, r, hr, hlater.staffMemberId, hlater.day,
      fun hautomatic => ?_⟩
    · exact AccruedFor.later ⟨rfl, rfl, date, rfl, rfl⟩ hlater'
    · exact hlater.paid (if_pos hautomatic)
  · rename_i existing hfound
    obtain ⟨hmem, hstaff, hday⟩ := findSalaryForDay_some hfound
    split at hrun
    · -- a payment that was pending is paid
      rename_i hpending
      rw [Bool.and_eq_true, decide_eq_true_iff, decide_eq_true_iff] at hpending
      obtain ⟨db₁, hpay, heq⟩ := Except.map_eq_ok hrun
      obtain ⟨rfl, _⟩ := Prod.mk.inj heq
      have hlater : Later existing { existing with status := .paid, paidAt := some now } :=
        ⟨rfl, rfl, rfl, rfl, rfl, rfl, fun _ => rfl⟩
      obtain ⟨hstep, r, hr, hpaid⟩ := payWith_step h hmem hlater rfl hpay
      exact ⟨hstep.mono fun _ hnew => hnew.elim, r, hr, hpaid.staffMemberId.trans hstaff,
        hpaid.day.trans hday, fun _ => hpaid.paid rfl⟩
    · rename_i hnot
      obtain ⟨rfl, _⟩ := Prod.mk.inj (Except.ok.inj hrun)
      refine ⟨SalaryStep.refl h, existing, hmem, hstaff, hday, fun hautomatic => ?_⟩
      cases hstatus : existing.status with
      | paid => rfl
      | pending => exact absurd (by rw [hautomatic, hstatus]; rfl) hnot

theorem accruePeriods_spec {today : ℤ} {fuel : ℕ} {date' : ℤ} {count' : ℕ} (h : SalaryBooks none db)
    (hrun : accruePeriods storeId staff profile today now fuel db date count =
      .ok (db', date', count')) :
    ∃ m ≤ fuel, date' = (fun d => advance d profile.frequency profile.anchorDay)^[m] date ∧
      SalaryStep (AccruedFor profile.staffMemberId fun d =>
        ∃ k < m, d = (fun d => advance d profile.frequency profile.anchorDay)^[k] date) db db' ∧
      (∀ k < m, db'.HasPayment profile
        ((fun d => advance d profile.frequency profile.anchorDay)^[k] date)) ∧
      (today < date' ∨ m = fuel) := by
  induction fuel generalizing db date count with
  | zero =>
    obtain ⟨rfl, rfl, _⟩ : db = db' ∧ date = date' ∧ count = count' := by
      simpa [accruePeriods] using hrun
    exact ⟨0, le_rfl, rfl, SalaryStep.refl h, fun k hk => absurd hk (Nat.not_lt_zero k), .inr rfl⟩
  | succ fuel ih =>
    rw [accruePeriods] at hrun
    split at hrun
    · rename_i hdue
      split at hrun
      · cases hrun
      · rename_i db₁ created hperiod
        obtain ⟨hstep, hhas⟩ := accruePeriod_spec h hperiod
        obtain ⟨m, hm, hdate, hsteps, hall, hend⟩ := ih hstep.books hrun
        refine ⟨m + 1, Nat.succ_le_succ hm, hdate, ?_, ?_, hend.imp_right (congrArg _)⟩
        · refine (hstep.mono fun r hr => ?_).trans (hsteps.mono fun r hr => ?_)
            fun r r' hr hlater => hr.later hlater
          · obtain ⟨hstaff, hcreated, d, hscheduled, rfl⟩ := hr
            exact ⟨hstaff, hcreated, _, hscheduled, 0, Nat.succ_pos m, rfl⟩
          · obtain ⟨hstaff, hcreated, d, hscheduled, k, hk, rfl⟩ := hr
            exact ⟨hstaff, hcreated, _, hscheduled, k + 1, Nat.succ_lt_succ hk, rfl⟩
        · intro k hk
          cases k with
          | zero => exact hhas.step hsteps
          | succ k => exact hall k (Nat.lt_of_succ_lt_succ hk)
    · rename_i hlate
      obtain ⟨rfl, rfl, _⟩ : db = db' ∧ date = date' ∧ count = count' := by
        simpa using hrun
      exact ⟨0, Nat.zero_le _, rfl, SalaryStep.refl h, fun k hk => absurd hk (Nat.not_lt_zero k),
        .inl (not_le.1 hlate)⟩

theorem findProfile_staffMemberId (h : db.findProfile staffMemberId = some profile) :
    profile.staffMemberId = staffMemberId :=
  (KeyedRows.lookup_some _ h).2

theorem findProfile_moved (staffMemberId other : String) (nextPaymentDate : Option ℤ) :
    (db.updateProfile staffMemberId fun row => { row with nextPaymentDate }).findProfile other =
      (db.findProfile other).map fun row =>
        if other = staffMemberId then { row with nextPaymentDate } else row := by
  refine KeyedRows.lookup_change StaffSalaryProfile.staffMemberId ?_ db.profiles
  exact fun _ => rfl

/-- **One transaction of the scheduler**: it does nothing, or it takes the cursor some steps further,
and the dates that the cursor has left have their payments. -/
theorem accrue_spec (h : SalaryBooks none db)
    (hrun : db.accrue env storeId staffMemberId now = .ok (db', count)) :
    db' = db ∨ ∃ profile cursor m date db₁, db.findProfile staffMemberId = some profile ∧
      profile.nextPaymentDate = some cursor ∧
      date = (fun d => advance d profile.frequency profile.anchorDay)^[m] (salaryDay cursor) ∧
      SalaryStep (AccruedFor staffMemberId fun d =>
        ∃ k < m, d = (fun d => advance d profile.frequency profile.anchorDay)^[k]
          (salaryDay cursor)) db db₁ ∧
      (∀ k < m, db₁.HasPayment profile
        ((fun d => advance d profile.frequency profile.anchorDay)^[k] (salaryDay cursor))) ∧
      db' = db₁.updateProfile staffMemberId fun row =>
        { row with nextPaymentDate := some (midnight date) } := by
  obtain ⟨staff, _, hrun⟩ := Except.bind_eq_ok hrun
  split at hrun
  · exact .inl (congrArg Prod.fst (Except.ok.inj hrun)).symm
  · rename_i profile hprofile
    dsimp only at hrun
    split at hrun
    · exact .inl (congrArg Prod.fst (Except.ok.inj hrun)).symm
    · rename_i cursor hcursor
      split at hrun
      · exact .inl (congrArg Prod.fst (Except.ok.inj hrun)).symm
      · obtain ⟨⟨db₁, date, count'⟩, hperiods, hrun⟩ := Except.bind_eq_ok hrun
        obtain ⟨rfl, _⟩ := Prod.mk.inj (Except.ok.inj hrun)
        obtain ⟨m, _, hdate, hstep, hall, _⟩ := accruePeriods_spec h hperiods
        rw [findProfile_staffMemberId hprofile] at hstep
        exact .inr ⟨profile, cursor, m, date, db₁, hprofile, hcursor, hdate, hstep, hall, rfl⟩

/-! ### What owners do -/

theorem salaryDay_midnight (day : ℤ) : salaryDay (midnight day) = day := by
  rw [salaryDay, midnight]
  omega

def OwnerCreated (r : StaffSalaryPayment) : Prop := r.createdByUserId.isSome

theorem attachGivenReceipt_eq {assetId : Option String} {salaryPaymentId : ℕ}
    (hrun : db.attachGivenReceipt storeId assetId salaryPaymentId now = .ok db') :
    ∃ receipts, db' = { db with receipts } := by
  unfold attachGivenReceipt at hrun
  split at hrun
  · unfold attachReceipt at hrun
    split at hrun
    · obtain rfl := Except.ok.inj hrun
      exact ⟨_, rfl⟩
    · cases hrun
  · obtain rfl := Except.ok.inj hrun
    exact ⟨_, rfl⟩

variable {userId : String}

theorem createOne_step {dto : CreateSalaryPaymentDto} (h : SalaryBooks none db)
    (hrun : createOne env userId storeId dto date now db staffMemberId = .ok db') :
    SalaryStep OwnerCreated db db' := by
  obtain ⟨staff, _, hrun⟩ := Except.bind_eq_ok hrun
  obtain ⟨amount, hamount, hrun⟩ := Except.bind_eq_ok hrun
  obtain ⟨db₁, hattach, hrun⟩ := Except.bind_eq_ok hrun
  obtain ⟨receipts, rfl⟩ := attachGivenReceipt_eq hattach
  have hnone : db.findSalaryForDay staff.id date = none := by
    rw [batchAmount] at hamount
    split at hamount
    · cases hamount
    · assumption
  have hcreate := createAndLink_step h rfl rfl (findSalaryForDay_none hnone) hrun
  refine hcreate.1.mono fun r hr => ?_
  rw [OwnerCreated, hr.createdByUserId]
  rfl

theorem createPayments_step {dto : CreateSalaryPaymentDto} (h : SalaryBooks none db)
    (hrun : db.createPayments env userId storeId dto now = .ok db') :
    SalaryStep OwnerCreated db db' := by
  obtain ⟨date, _, hrun⟩ := Except.bind_eq_ok hrun
  dsimp only at hrun
  split at hrun
  · refine Except.foldlM_keeps (I := fun db₁ => SalaryStep OwnerCreated db db₁) ?_
      (SalaryStep.refl h) hrun
    intro db₁ staffMemberId db₂ hstep hone
    refine hstep.trans (createOne_step hstep.books hone) fun r r' hr hlater => ?_
    rw [OwnerCreated, hlater.createdByUserId]
    exact hr
  · split at hrun
    · cases hrun
    · obtain rfl := Except.ok.inj hrun
      exact SalaryStep.refl h

variable {paymentId : ℕ}

theorem lockPayment_mem {payment : StaffSalaryPayment}
    (h : db.lockPayment storeId paymentId = .ok (payment, staff)) : payment ∈ db.payments := by
  unfold lockPayment at h
  split at h
  · cases h
  · rename_i found hfound
    split at h
    · cases h
    · split at h
      · obtain ⟨rfl, _⟩ := Prod.mk.inj (Except.ok.inj h)
        exact (KeyedRows.lookup_some _ hfound).1
      · cases h

theorem confirmPayment_step {dto : ConfirmSalaryPaymentDto} (h : SalaryBooks none db)
    (hrun : db.confirmPayment env userId storeId paymentId dto now = .ok db') :
    SalaryStep OwnerCreated db db' := by
  obtain ⟨paidAt, _, hrun⟩ := Except.bind_eq_ok hrun
  obtain ⟨⟨payment, staff⟩, hlock, hrun⟩ := Except.bind_eq_ok hrun
  dsimp only at hrun
  split at hrun
  · obtain rfl := Except.ok.inj hrun
    exact SalaryStep.refl h
  split at hrun
  · cases hrun
  split at hrun
  · cases hrun
  obtain ⟨db₁, hattach, hpay⟩ := Except.bind_eq_ok hrun
  obtain ⟨receipts, rfl⟩ := attachGivenReceipt_eq hattach
  obtain ⟨hstep, _⟩ := payWith_step (h.receipts receipts) (lockPayment_mem hlock)
    (by exact ⟨rfl, rfl, rfl, rfl, rfl, rfl, fun _ => rfl⟩) (by rfl) hpay
  exact ⟨hstep.books, hstep.staff, hstep.profiles, hstep.kept,
    fun r hr => (hstep.rows r hr).imp_right False.elim⟩

theorem recordExpense_step (h : SalaryBooks none db)
    (hrun : db.recordExpense userId storeId paymentId now = .ok db') :
    SalaryStep OwnerCreated db db' := by
  obtain ⟨⟨payment, staff⟩, hlock, hrun⟩ := Except.bind_eq_ok hrun
  dsimp only at hrun
  have hmem := lockPayment_mem hlock
  split at hrun
  · exact (linkExpense_step (h.owe payment.id) hmem hrun).mono fun _ hnew => hnew.elim
  · obtain ⟨hstep, _⟩ := payWith_step h hmem
      (by exact ⟨rfl, rfl, rfl, rfl, rfl, rfl, fun _ => rfl⟩) (by rfl) hrun
    exact hstep.mono fun _ hnew => hnew.elim

end SalaryDb

/-! ### Every due date has one payment -/

def StaffSalaryProfile.occurrence (profile : StaffSalaryProfile) (n : ℕ) : ℤ :=
  Salary.occurrence (salaryDay profile.startDate) profile.frequency n

theorem StaffSalaryProfile.occurrence_add (profile : StaffSalaryProfile) (n k : ℕ) :
    (fun d => advance d profile.frequency profile.anchorDay)^[k] (profile.occurrence n) =
      profile.occurrence (n + k) := by
  induction k with
  | zero => rfl
  | succ k ih =>
    rw [Function.iterate_succ_apply', ih]
    exact advance_occurrence _ _ _

/-- **Between the due dates `first` and `n`**: the cursor is at the `n`-th, those before it have
their payments, and all other new payments are an owner's. -/
structure Accrued (profile : StaffSalaryProfile) (start : SalaryDb) (first n : ℕ) (db : SalaryDb) :
    Prop where
  books : SalaryBooks none db
  cursor : ∃ cursor, db.findProfile profile.staffMemberId =
    some { profile with nextPaymentDate := some cursor } ∧ salaryDay cursor = profile.occurrence n
  passed : ∀ k, first ≤ k → k < n → db.HasPayment profile (profile.occurrence k)
  rows : ∀ r ∈ db.payments, r.staffMemberId = profile.staffMemberId →
    (∃ r₀ ∈ start.payments, Later r₀ r) ∨ r.createdByUserId.isSome ∨
      ∃ k, first ≤ k ∧ k < n ∧ r.scheduledFor = some (profile.occurrence k)

namespace Accrued

variable {env : SalaryEnv} {profile : StaffSalaryProfile} {start : SalaryDb} {first n : ℕ}
  {db db' : SalaryDb}

theorem step (h : Accrued profile start first n db) {New : StaffSalaryPayment → Prop}
    (hstep : SalaryStep New db db')
    (hnew : ∀ r, New r → r.staffMemberId = profile.staffMemberId → r.createdByUserId.isSome) :
    Accrued profile start first n db' := by
  refine ⟨hstep.books, ?_, fun k hk hn => (h.passed k hk hn).step hstep, fun r' hr' hstaff => ?_⟩
  · rw [hstep.findProfile]
    exact h.cursor
  · rcases hstep.rows r' hr' with ⟨r, hr, hlater⟩ | hr'
    · rcases h.rows r hr (hlater.staffMemberId.symm.trans hstaff) with
        ⟨r₀, hr₀, hold⟩ | hcreated | ⟨k, hk, hn, hscheduled⟩
      · exact .inl ⟨r₀, hr₀, hold.trans hlater⟩
      · exact .inr (.inl (hlater.createdByUserId ▸ hcreated))
      · exact .inr (.inr ⟨k, hk, hn, hlater.scheduledFor.trans hscheduled⟩)
    · exact .inr (.inl (hnew r' hr' hstaff))

theorem otherProfile (h : Accrued profile start first n db) {profiles : List StaffSalaryProfile}
    (hprofiles : KeyedRows.lookup StaffSalaryProfile.staffMemberId profile.staffMemberId profiles =
      db.findProfile profile.staffMemberId) :
    Accrued profile start first n { db with profiles } := by
  refine ⟨⟨h.books.ids, h.books.days, h.books.expenseIds, h.books.linked, h.books.distinct,
    h.books.used, h.books.paid⟩, ?_, h.passed, h.rows⟩
  obtain ⟨cursor, hprofile, hcursor⟩ := h.cursor
  exact ⟨cursor, hprofiles.trans hprofile, hcursor⟩

theorem accrue (h : Accrued profile start first n db) (hfirst : first ≤ n)
    {storeId staffMemberId : String} {now : ℤ} {count : ℕ}
    (hrun : db.accrue env storeId staffMemberId now = .ok (db', count)) :
    ∃ n' ≥ n, Accrued profile start first n' db' := by
  rcases SalaryDb.accrue_spec h.books hrun with
    rfl | ⟨row, cursor, m, date, db₁, hrow, hcursor, hdate, hstep, hall, rfl⟩
  · exact ⟨n, le_rfl, h⟩
  by_cases hstaff : staffMemberId = profile.staffMemberId
  · subst hstaff
    -- the row is the profile, with its cursor on the due date `n`
    obtain ⟨cursor', hprofile, hoccurrence⟩ := h.cursor
    obtain rfl := Option.some.inj (hprofile.symm.trans hrow)
    obtain rfl := Option.some.inj hcursor
    have hdates : ∀ k, (fun d => advance d profile.frequency profile.anchorDay)^[k]
        (salaryDay cursor') = profile.occurrence (n + k) := fun k =>
      hoccurrence ▸ profile.occurrence_add n k
    refine ⟨n + m, Nat.le_add_right n m, ⟨?_, ?_, ?_, ?_⟩⟩
    · exact ⟨hstep.books.ids, hstep.books.days, hstep.books.expenseIds, hstep.books.linked,
        hstep.books.distinct, hstep.books.used, hstep.books.paid⟩
    · refine ⟨midnight date, ?_, ?_⟩
      · rw [SalaryDb.findProfile_moved, hstep.findProfile, hprofile, Option.map_some, if_pos rfl]
      · rw [SalaryDb.salaryDay_midnight, hdate]
        exact hdates m
    · intro k hk hlt
      by_cases hold : k < n
      · have hhas : db₁.HasPayment profile (profile.occurrence k) := (h.passed k hk hold).step hstep
        exact hhas
      · obtain ⟨r, hr, hstaff, hday, hpaid⟩ := hall (k - n) (by omega)
        have hk : profile.occurrence (n + (k - n)) = profile.occurrence k := congrArg _ (by omega)
        exact ⟨r, hr, hstaff, (hday.trans (hdates (k - n))).trans hk, hpaid⟩
    · intro r' hr' hstaff
      rcases hstep.rows r' hr' with ⟨r, hr, hlater⟩ | ⟨_, _, d, hscheduled, k, hk, rfl⟩
      · rcases h.rows r hr (hlater.staffMemberId.symm.trans hstaff) with
          ⟨r₀, hr₀, hold⟩ | hcreated | ⟨k, hk, hn, hscheduled⟩
        · exact .inl ⟨r₀, hr₀, hold.trans hlater⟩
        · exact .inr (.inl (hlater.createdByUserId ▸ hcreated))
        · exact .inr (.inr ⟨k, hk, Nat.lt_add_right m hn, hlater.scheduledFor.trans hscheduled⟩)
      · exact .inr (.inr ⟨n + k, hfirst.trans (Nat.le_add_right n k), Nat.add_lt_add_left hk n,
          hscheduled.trans (congrArg some (hdates k))⟩)
  · refine ⟨n, le_rfl, (h.step hstep fun r hr heq => ?_).otherProfile ?_⟩
    · exact absurd (hr.1.symm.trans heq) hstaff
    · refine (SalaryDb.findProfile_moved staffMemberId _ _).trans ?_
      simp only [if_neg fun heq => hstaff (Eq.symm heq), Option.map_id']

end Accrued

/-! ### Every run -/

def SalaryAction.leavesProfile (staffMemberId : String) : SalaryAction → Prop
  | .setProfile _ other _ => other ≠ staffMemberId
  | _ => True

theorem SalaryDb.setProfile_eq {env : SalaryEnv} {db db' : SalaryDb} {storeId staffMemberId : String}
    {dto : SetSalaryProfileDto} (hrun : db.setProfile env storeId staffMemberId dto = .ok db') :
    ∃ data profiles, salaryProfileData env staffMemberId dto (db.findProfile staffMemberId) = .ok data ∧
      db' = { db with profiles } ∧ ∀ other, KeyedRows.lookup StaffSalaryProfile.staffMemberId other
        profiles = if other = staffMemberId then some data else db.findProfile other := by
  obtain ⟨staff, _, hrun⟩ := Except.bind_eq_ok hrun
  obtain ⟨data, hdata, hrun⟩ := Except.bind_eq_ok hrun
  have hkey : data.staffMemberId = staffMemberId := by
    obtain ⟨day, _, hdata⟩ := Except.bind_eq_ok hdata
    rw [← Except.ok.inj hdata]
  split at hrun
  · rename_i hsome
    obtain rfl := Except.ok.inj hrun
    obtain ⟨existing, hexisting⟩ := Option.isSome_iff_exists.1 hsome
    refine ⟨data, _, hdata, rfl, fun other => ?_⟩
    rw [KeyedRows.lookup_change_of_key StaffSalaryProfile.staffMemberId (fun _ h => hkey.trans h.symm)]
    split
    · rename_i heq
      subst heq
      rw [show KeyedRows.lookup StaffSalaryProfile.staffMemberId other db.profiles = some existing from
        hexisting]
      rfl
    · exact Option.map_id'
  · rename_i hnone
    obtain rfl := Except.ok.inj hrun
    refine ⟨data, _, hdata, rfl, fun other => ?_⟩
    rw [KeyedRows.lookup, List.find?_append]
    split
    · rename_i heq
      subst heq
      have hfind := Option.not_isSome_iff_eq_none.1 hnone
      rw [SalaryDb.findProfile, KeyedRows.lookup] at hfind
      rw [hfind]
      simp [hkey]
    · rename_i hne
      have hlast : [data].find? (fun r => r.staffMemberId = other) = none := by
        simpa [hkey] using fun heq => hne (Eq.symm heq)
      rw [hlast, Option.or_none]
      rfl

/-! ### The books stay in order -/

namespace Accrued

variable {env : SalaryEnv} {profile : StaffSalaryProfile} {start : SalaryDb} {first n : ℕ}
  {db : SalaryDb}

theorem accrueEach (h : Accrued profile start first n db) (hfirst : first ≤ n) {now : ℤ}
    (candidates : List (String × String)) (processed : ℕ) :
    ∃ n' ≥ n, Accrued profile start first n'
      (SalaryDb.accrueEach env now candidates db processed).1 := by
  induction candidates generalizing db n processed with
  | nil => exact ⟨n, le_rfl, h⟩
  | cons candidate candidates ih =>
    obtain ⟨storeId, staffMemberId⟩ := candidate
    rw [SalaryDb.accrueEach]
    cases hrun : db.accrue env storeId staffMemberId now with
    | error error => exact ⟨n, le_rfl, h⟩
    | ok result =>
      obtain ⟨db', count⟩ := result
      obtain ⟨n₁, hn₁, h₁⟩ := h.accrue hfirst hrun
      obtain ⟨n₂, hn₂, h₂⟩ := ih h₁ (hfirst.trans hn₁) (processed + count)
      exact ⟨n₂, hn₁.trans hn₂, h₂⟩

theorem commit (h : Accrued profile start first n db) {result : Except SalaryError SalaryDb}
    (hstep : ∀ db', result = .ok db' → SalaryStep SalaryDb.OwnerCreated db db') :
    Accrued profile start first n (Salary.commit db result) := by
  cases result with
  | error error => exact h
  | ok db' => exact h.step (hstep db' rfl) fun r hr _ => hr

theorem action (h : Accrued profile start first n db) (hfirst : first ≤ n) {action : SalaryAction}
    (haction : action.leavesProfile profile.staffMemberId) :
    ∃ n' ≥ n, Accrued profile start first n' (SalaryAction.step env db action) := by
  cases action with
  | setProfile storeId staffMemberId dto =>
    refine ⟨n, le_rfl, ?_⟩
    rw [SalaryAction.step]
    cases hrun : db.setProfile env storeId staffMemberId dto with
    | error error => exact h
    | ok db' =>
      obtain ⟨data, profiles, _, rfl, hprofiles⟩ := SalaryDb.setProfile_eq hrun
      exact h.otherProfile ((hprofiles _).trans (if_neg fun heq => haction heq.symm))
  | createPayments userId storeId dto now =>
    exact ⟨n, le_rfl, h.commit fun _ hrun => SalaryDb.createPayments_step h.books hrun⟩
  | confirmPayment userId storeId paymentId dto now =>
    exact ⟨n, le_rfl, h.commit fun _ hrun => SalaryDb.confirmPayment_step h.books hrun⟩
  | recordExpense userId storeId paymentId now =>
    exact ⟨n, le_rfl, h.commit fun _ hrun => SalaryDb.recordExpense_step h.books hrun⟩
  | accrue storeId staffMemberId now =>
    rw [SalaryAction.step]
    cases hrun : db.accrue env storeId staffMemberId now with
    | error error => exact ⟨n, le_rfl, h⟩
    | ok result => exact h.accrue hfirst hrun
  | runAutomaticPayments now => exact h.accrueEach hfirst _ 0

end Accrued

/-- **What a run does for a profile**: the cursor is on the due date `n`, each due date it left has
one payment, for automatic salaries paid with one expense of its amount that no other payment has.
What the scheduler created else is due on one of these dates. -/
structure AccruedOnce (profile : StaffSalaryProfile) (start : SalaryDb) (first n : ℕ)
    (db : SalaryDb) : Prop where
  cursor : ∃ cursor, db.findProfile profile.staffMemberId =
    some { profile with nextPaymentDate := some cursor } ∧ salaryDay cursor = profile.occurrence n
  once : ∀ k, first ≤ k → k < n → ∃ r, (db.payments.filter fun r =>
      r.staffMemberId = profile.staffMemberId && r.day = profile.occurrence k) = [r] ∧
    (profile.expenseHandling = .automatic → r.status = .paid ∧
      ∃ e, (db.expenses.filter fun e => r.expenseId = some e.id) = [e] ∧ e.amount = r.amount ∧
        ∀ r' ∈ db.payments, r'.expenseId = some e.id → r' = r)
  others : ∀ r ∈ db.payments, r.staffMemberId = profile.staffMemberId → r.createdByUserId = none →
    (∃ r₀ ∈ start.payments, Later r₀ r) ∨
      ∃ k, first ≤ k ∧ k < n ∧ r.scheduledFor = some (profile.occurrence k)

theorem Accrued.once {profile : StaffSalaryProfile} {start : SalaryDb} {first n : ℕ} {db : SalaryDb}
    (h : Accrued profile start first n db) : AccruedOnce profile start first n db := by
  refine ⟨h.cursor, fun k hk hn => ?_, fun r hr hstaff hcreated => ?_⟩
  · obtain ⟨r, hr, hstaff, hday, hpaid⟩ := h.passed k hk hn
    refine ⟨r, ?_, fun hautomatic => ⟨hpaid hautomatic, ?_⟩⟩
    · rw [← hstaff, ← hday]
      exact h.books.one_a_day hr
    · obtain ⟨e, he, hamount, _, honly⟩ := h.books.linked_once hr (hpaid hautomatic)
      exact ⟨e, he, hamount, honly⟩
  · rcases h.rows r hr hstaff with hold | hsome | hnew
    · exact .inl hold
    · rw [hcreated] at hsome
      cases hsome
    · exact .inr hnew

/-- A salary of 100 a month that was first due on the 31st of January 2026, with a payment for the 28th
of February that is older than the schedule and pending. -/
def monthlyStaff : SalaryDb :=
  { staff := [{ id := "staff", storeId := "store", name := "Sara" }]
    profiles := [monthlyProfile]
    payments := [
      { id := 1, staffMemberId := "staff", amount := 90, paymentDate := midnight 20512 + 64800000
        paymentMethod := .cash }] }
where
  monthlyProfile : StaffSalaryProfile :=
    { staffMemberId := "staff", baseSalary := 100, frequency := .monthly, paymentMethod := .cash
      startDate := midnight 20484, nextPaymentDate := some (midnight 20484) }

def utcOnly : SalaryEnv :=
  { calendarDay := fun instant _ => salaryDay instant
    dayStart := fun day _ => some (midnight day)
    fingerprint := fun request => String.join request.ids }

/-- **The expenses are those of the payments**, each of the same person and amount. -/
theorem SalaryBooks.expenses_perm {db : SalaryDb} (h : SalaryBooks none db) :
    (db.expenses.map fun e => (some e.id, e.staffMemberId, e.amount)).Perm
      ((db.payments.filter fun r => r.expenseId.isSome).map fun r =>
        (r.expenseId, r.staffMemberId, r.amount)) := by
  refine (List.perm_ext_iff_of_nodup ?_ ?_).2 fun entry => ⟨fun hentry => ?_, fun hentry => ?_⟩
  · exact .of_map (fun entry => entry.1.getD 0) (by rw [List.map_map]; exact h.expenseIds)
  · -- no two payments have the same expense
    refine ((h.ids.of_map _).filter _).map_on fun r hr r' hr' heq => ?_
    obtain ⟨hr, hsome⟩ := List.mem_filter.1 hr
    have hr' := List.mem_of_mem_filter hr'
    exact h.eq_of_id hr hr' (h.distinct r hr r' hr' hsome (congrArg Prod.fst heq))
  · obtain ⟨e, he, rfl⟩ := List.mem_map.1 hentry
    obtain ⟨r, hr, hid⟩ := h.used e he
    obtain ⟨e', he', heq, hamount, hstaff⟩ := h.linked r hr e.id hid
    obtain rfl := List.inj_on_of_nodup_map h.expenseIds he' he heq
    exact List.mem_map.2 ⟨r, List.mem_filter.2 ⟨hr, hid ▸ rfl⟩, by rw [hid, hamount, hstaff]⟩
  · obtain ⟨r, hr, rfl⟩ := List.mem_map.1 hentry
    obtain ⟨hr, hsome⟩ := List.mem_filter.1 hr
    obtain ⟨id, hid⟩ := Option.isSome_iff_exists.1 hsome
    obtain ⟨e, he, rfl, hamount, hstaff⟩ := h.linked r hr id hid
    exact List.mem_map.2 ⟨e, he, by rw [hid, hamount, hstaff]⟩

theorem SalaryBooks.profiles {db : SalaryDb} (h : SalaryBooks none db)
    (profiles : List StaffSalaryProfile) : SalaryBooks none { db with profiles } :=
  ⟨h.ids, h.days, h.expenseIds, h.linked, h.distinct, h.used, h.paid⟩

theorem SalaryBooks.accrue {env : SalaryEnv} {db db' : SalaryDb} (h : SalaryBooks none db)
    {storeId staffMemberId : String} {now : ℤ} {count : ℕ}
    (hrun : db.accrue env storeId staffMemberId now = .ok (db', count)) : SalaryBooks none db' := by
  rcases SalaryDb.accrue_spec h hrun with rfl | ⟨_, _, _, _, db₁, _, _, _, hstep, _, rfl⟩
  · exact h
  · exact hstep.books.profiles _

theorem SalaryBooks.step {env : SalaryEnv} {db : SalaryDb} (h : SalaryBooks none db)
    (action : SalaryAction) : SalaryBooks none (action.step env db) := by
  have hcommit : ∀ result : Except SalaryError SalaryDb,
      (∀ db', result = .ok db' → SalaryBooks none db') → SalaryBooks none (commit db result) := by
    intro result hresult
    cases result with
    | error error => exact h
    | ok db' => exact hresult db' rfl
  cases action with
  | setProfile storeId staffMemberId dto =>
    refine hcommit _ fun db' hrun => ?_
    obtain ⟨_, _, _, rfl, _⟩ := SalaryDb.setProfile_eq hrun
    exact h.profiles _
  | createPayments userId storeId dto now =>
    exact hcommit _ fun _ hrun => (SalaryDb.createPayments_step h hrun).books
  | confirmPayment userId storeId paymentId dto now =>
    exact hcommit _ fun _ hrun => (SalaryDb.confirmPayment_step h hrun).books
  | recordExpense userId storeId paymentId now =>
    exact hcommit _ fun _ hrun => (SalaryDb.recordExpense_step h hrun).books
  | accrue storeId staffMemberId now =>
    rw [SalaryAction.step]
    cases hrun : db.accrue env storeId staffMemberId now with
    | error error => exact h
    | ok result => exact h.accrue hrun
  | runAutomaticPayments now =>
    have heach : ∀ (candidates : List (String × String)) (db : SalaryDb) (processed : ℕ),
        SalaryBooks none db →
        SalaryBooks none (SalaryDb.accrueEach env now candidates db processed).1 := by
      intro candidates
      induction candidates with
      | nil => exact fun _ _ h => h
      | cons candidate candidates ih =>
        intro db processed h
        rw [SalaryDb.accrueEach]
        cases hrun : db.accrue env candidate.1 candidate.2 now with
        | error error => exact h
        | ok result => exact ih _ _ (h.accrue hrun)
    exact heach _ db 0 h

/-- **Salaries cost what was paid.** After every run, whatever was saved, created, confirmed, recorded
and accrued in it, the expenses of a staff member add up to the payments that have one; and all that
are paid do. -/
theorem salaryExpenses_total (env : SalaryEnv) {start : SalaryDb} (hbooks : SalaryBooks none start)
    (actions : List SalaryAction) (staffMemberId : String) :
    let db := Machine.run (SalaryAction.step env) start actions
    ((db.expenses.filter fun e => e.staffMemberId = staffMemberId).map SalaryExpense.amount).sum =
      ((db.payments.filter fun r => r.expenseId.isSome && r.staffMemberId = staffMemberId).map
        StaffSalaryPayment.amount).sum ∧
    ∀ r ∈ db.payments, r.status = .paid → r.expenseId.isSome := by
  have h : SalaryBooks none (Machine.run (SalaryAction.step env) start actions) :=
    Machine.run_keeps (fun _ action h => h.step action) hbooks actions
  refine ⟨?_, fun r hr hpaid => h.paid r hr hpaid (by simp)⟩
  have hperm := ((h.expenses_perm.filter fun entry => entry.2.1 = staffMemberId).map
    fun entry => entry.2.2).sum_eq
  rw [List.filter_map, List.filter_map, List.filter_filter, List.map_map, List.map_map] at hperm
  simpa only [Function.comp_def, Bool.and_comm] using hperm

theorem salaryExpenses_total_monthly :
    let db := Machine.run (SalaryAction.step utcOnly) monthlyStaff
      [.accrue "store" "staff" (midnight 20573)]
    ∀ r ∈ db.payments, r.status = .paid → r.expenseId.isSome :=
  (@salaryExpenses_total utcOnly monthlyStaff
    ⟨by decide, by decide, by decide, by decide, by decide, by decide, by decide⟩ _ "staff").2

end Zomaal.Salary
