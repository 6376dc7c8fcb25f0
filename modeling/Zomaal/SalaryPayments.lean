/-
**Salaries and their payments.**

The scheduler creates the payments that have become due, an owner creates others, confirms them, and
records their expenses; each of these calls is one transaction here, since all of them hold the lock
of the staff member, and a call that throws leaves everything as it was.  A moment is a number of
milliseconds, a day a number of days, both counted from the first of January 1970.  A calendar
label, which the source encodes as a midnight, is the number of its day, save where older rows have
a time of day.
-/

import Zomaal.KeyedRows
import Zomaal.SalarySchedule
import Zomaal.Store

set_option autoImplicit false

namespace Zomaal.Salary

/-! ### The rows -/

inductive SalaryPaymentMethod
  | bankTransfer
  | cash

inductive ExpensePaymentMethod
  | bank
  | cash

def methods : SalaryPaymentMethod → ExpensePaymentMethod
  | .bankTransfer => .bank
  | .cash => .cash

inductive SalaryExpenseHandling
  | automatic
  | manual
  deriving DecidableEq

inductive SalaryPaymentStatus
  | pending
  | paid
  deriving DecidableEq

structure StaffMember where
  id : String
  storeId : String
  name : String

structure StaffSalaryProfile where
  staffMemberId : String
  timezone : String := "UTC"
  baseSalary : Decimal
  frequency : SalaryFrequency
  paymentMethod : SalaryPaymentMethod
  expenseHandling : SalaryExpenseHandling := .automatic
  startDate : ℤ
  nextPaymentDate : Option ℤ := none
  notes : Option String := none

/-- Older rows have no `scheduledFor`; their day is that of the `paymentDate`. -/
structure StaffSalaryPayment where
  id : ℕ
  staffMemberId : String
  amount : Decimal
  paymentDate : ℤ
  scheduledFor : Option ℤ := none
  paidAt : Option ℤ := none
  paymentMethod : SalaryPaymentMethod
  status : SalaryPaymentStatus := .pending
  expenseHandling : SalaryExpenseHandling := .automatic
  frequency : Option SalaryFrequency := none
  notes : Option String := none
  receiptUrl : Option String := none
  idempotencyKey : Option String := none
  requestHash : Option String := none
  createdByUserId : Option String := none
  paidByUserId : Option String := none
  expenseId : Option ℕ := none

/-- An expense of a staff member; such expenses are written here only. -/
structure SalaryExpense where
  id : ℕ
  storeId : String
  title : String
  amount : Decimal
  paymentMethod : ExpensePaymentMethod
  spentAt : Option ℤ
  categoryId : ℕ
  staffMemberId : String
  createdByUserId : Option String
  notes : Option String
  receiptUrl : Option String

structure ExpenseCategory where
  id : ℕ
  storeId : String
  name : String
  group : String
  isSystem : Bool := false

structure ReceiptAsset where
  id : String
  storeId : String
  /-- `TEMPORARY`, and not yet `ATTACHED` -/
  temporary : Bool
  expiresAt : Option ℤ
  salaryPaymentId : Option ℕ := none

structure SalaryDb where
  staff : List StaffMember := []
  profiles : List StaffSalaryProfile := []
  payments : List StaffSalaryPayment := []
  expenses : List SalaryExpense := []
  categories : List ExpenseCategory := []
  receipts : List ReceiptAsset := []

inductive SalaryError
  | notFound (message : String)
  | conflict (message : String)
  | badRequest (message : String)

def freshId (ids : List ℕ) : ℕ := ids.foldr max 0 + 1

/-! ### Days -/

def salaryDay (date : ℤ) : ℤ := date / 86400000

def midnight (day : ℤ) : ℤ := day * 86400000

def StaffSalaryPayment.day (payment : StaffSalaryPayment) : ℤ :=
  payment.scheduledFor.getD (salaryDay payment.paymentDate)

/-- The day of the month that a salary is anchored at: `startDate.getUTCDate()`. -/
def StaffSalaryProfile.anchorDay (profile : StaffSalaryProfile) : ℤ :=
  Calendar.dateOf (salaryDay profile.startDate)

inductive CalendarInput
  | label (day : ℤ)
  | timestamp (instant : ℤ)

structure SalaryRequest where
  ids : List String
  date : ℤ
  status : SalaryPaymentStatus
  amount : Option Decimal
  method : SalaryPaymentMethod
  handling : Option SalaryExpenseHandling
  frequency : Option SalaryFrequency
  notes : Option String
  receipt : Option String
  receiptOwner : Option String

structure SalaryEnv where
  /-- the day that it is at a moment -/
  calendarDay : ℤ → String → ℤ
  /-- the moment at which a day begins, if the timezone does not skip it -/
  dayStart : ℤ → String → Option ℤ
  fingerprint : SalaryRequest → String

namespace SalaryEnv

variable (env : SalaryEnv)

def dateInZone (day : ℤ) (timezone : String) : Except SalaryError ℤ :=
  match env.dayStart day timezone with
  | some instant => .ok instant
  | none => .error (.badRequest "Calendar date does not exist in the requested timezone")

def salaryCalendarInput (value : CalendarInput) (timezone : String) : Except SalaryError ℤ :=
  match value with
  | .label day => (env.dateInZone day timezone).map fun _ => day
  | .timestamp instant => .ok (env.calendarDay instant timezone)

end SalaryEnv

namespace SalaryDb

variable (db : SalaryDb)

/-! ### Reading -/

variable (staffMemberId : String)

def findStaff : Option StaffMember :=
  KeyedRows.lookup StaffMember.id staffMemberId db.staff

def findProfile : Option StaffSalaryProfile :=
  KeyedRows.lookup StaffSalaryProfile.staffMemberId staffMemberId db.profiles

def findPayment (id : ℕ) : Option StaffSalaryPayment :=
  KeyedRows.lookup StaffSalaryPayment.id id db.payments

def lockStaff (storeId staffMemberId : String) : Except SalaryError StaffMember :=
  match db.findStaff staffMemberId with
  | some staff =>
    if staff.storeId = storeId then .ok staff else .error (.notFound "Staff member not found")
  | none => .error (.notFound "Staff member not found")

def findSalaryForDay (day : ℤ) : Option StaffSalaryPayment :=
  (db.payments.find? fun payment =>
      payment.staffMemberId = staffMemberId && payment.scheduledFor = some day).or
    (db.payments.find? fun payment =>
      payment.staffMemberId = staffMemberId && payment.scheduledFor = none &&
        midnight day ≤ payment.paymentDate && payment.paymentDate < midnight day + 86400000)

/-! ### Writing -/

def updatePayment (id : ℕ) (change : StaffSalaryPayment → StaffSalaryPayment) : SalaryDb :=
  { db with payments := KeyedRows.change StaffSalaryPayment.id id change db.payments }

def updateProfile (change : StaffSalaryProfile → StaffSalaryProfile) : SalaryDb :=
  { db with
    profiles := KeyedRows.change StaffSalaryProfile.staffMemberId staffMemberId change db.profiles }

def createPayment (payment : StaffSalaryPayment) : SalaryDb :=
  { db with payments := db.payments ++ [payment] }

def freshPaymentId : ℕ := freshId (db.payments.map StaffSalaryPayment.id)

def receiptPreviewPath (assetId : String) : String := "/expenses/receipts/" ++ assetId

def attachable (storeId assetId : String) (now : ℤ) (asset : ReceiptAsset) : Bool :=
  asset.id = assetId && asset.storeId = storeId && asset.temporary &&
    asset.expiresAt.any fun expiresAt => now < expiresAt

def attachReceipt (storeId assetId : String) (salaryPaymentId : ℕ) (now : ℤ) :
    Except SalaryError SalaryDb :=
  if db.receipts.any (attachable storeId assetId now) then
    .ok { db with
      receipts := db.receipts.map fun asset =>
        if attachable storeId assetId now asset then
          { asset with
            temporary := false, expiresAt := none, salaryPaymentId := some salaryPaymentId }
        else asset }
  else .error (.badRequest "Receipt not found, already used, or expired. Upload it again.")

variable (storeId : String)

/-- The category of a store for salaries: one of their group, or else the one of that name. -/
def salaryCategory : Except SalaryError (SalaryDb × ℕ) :=
  match db.categories.find? fun category =>
      category.storeId = storeId && category.group = "SALARY" with
  | some category => .ok (db, category.id)
  | none =>
    match db.categories.find? fun category =>
        category.storeId = storeId && category.name = "Employee salary" with
    | some category =>
      if category.group = "SALARY" then .ok (db, category.id)
      else .error (.conflict "The Employee salary category must belong to the SALARY group")
    | none =>
      let id := freshId (db.categories.map ExpenseCategory.id)
      .ok ({ db with
        categories := db.categories ++
          [{ id, storeId, name := "Employee salary", group := "SALARY", isSystem := true }] }, id)

def expenseOf (userId : Option String) (staff : StaffMember) (categoryId : ℕ)
    (payment : StaffSalaryPayment) : SalaryExpense :=
  { id := freshId (db.expenses.map SalaryExpense.id)
    storeId, categoryId
    title := "Salary — " ++ staff.name
    amount := payment.amount
    paymentMethod := methods payment.paymentMethod
    spentAt := payment.paidAt
    staffMemberId := payment.staffMemberId
    createdByUserId := userId
    notes := payment.notes
    receiptUrl := payment.receiptUrl }

def linkExpense (userId : Option String) (staff : StaffMember) (payment : StaffSalaryPayment)
    : Except SalaryError SalaryDb :=
  if payment.expenseId.isSome then .ok db
  else
    match db.salaryCategory storeId with
    | .error error => .error error
    | .ok (db', categoryId) =>
      let expense := db'.expenseOf storeId userId staff categoryId payment
      .ok ({ db' with expenses := db'.expenses ++ [expense] }.updatePayment payment.id
        fun row => { row with expenseId := some expense.id })

def payWith (userId : Option String) (staff : StaffMember) (payment : StaffSalaryPayment)
    : Except SalaryError SalaryDb :=
  (db.updatePayment payment.id fun _ => payment).linkExpense storeId userId staff payment

end SalaryDb

/-! ### The profile -/

structure SetSalaryProfileDto where
  timezone : Option String := none
  baseSalary : Decimal
  frequency : SalaryFrequency
  paymentMethod : SalaryPaymentMethod
  expenseHandling : Option SalaryExpenseHandling := none
  startDate : CalendarInput
  notes : Option String := none

def salaryProfileData (env : SalaryEnv) (staffMemberId : String) (dto : SetSalaryProfileDto)
    (existing : Option StaffSalaryProfile) : Except SalaryError StaffSalaryProfile := do
  let timezone := (dto.timezone.or (existing.map StaffSalaryProfile.timezone)).getD "UTC"
  let startDay ← env.salaryCalendarInput dto.startDate timezone
  let unchanged := existing.filter fun profile => salaryDay profile.startDate = startDay
  .ok
    { staffMemberId, timezone
      baseSalary := dto.baseSalary
      frequency := dto.frequency
      paymentMethod := dto.paymentMethod
      expenseHandling := (dto.expenseHandling.or
        (existing.map StaffSalaryProfile.expenseHandling)).getD .automatic
      startDate := midnight startDay
      nextPaymentDate :=
        some ((unchanged.bind StaffSalaryProfile.nextPaymentDate).getD (midnight startDay))
      notes := dto.notes }

def SalaryDb.setProfile (env : SalaryEnv) (db : SalaryDb) (storeId staffMemberId : String)
    (dto : SetSalaryProfileDto) : Except SalaryError SalaryDb := do
  let _ ← db.lockStaff storeId staffMemberId
  let existing := db.findProfile staffMemberId
  let data ← salaryProfileData env staffMemberId dto existing
  if existing.isSome then .ok (db.updateProfile staffMemberId fun _ => data)
  else .ok { db with profiles := db.profiles ++ [data] }

/-! ### Payments that an owner creates -/

structure CreateSalaryPaymentDto where
  idempotencyKey : String
  timezone : Option String := none
  status : Option SalaryPaymentStatus := none
  expenseHandling : Option SalaryExpenseHandling := none
  frequency : Option SalaryFrequency := none
  staffMemberIds : List String
  amount : Option Decimal := none
  paymentDate : CalendarInput
  paymentMethod : SalaryPaymentMethod
  notes : Option String := none
  receiptUrl : Option String := none
  receiptAssetId : Option String := none

namespace CreateSalaryPaymentDto

variable (dto : CreateSalaryPaymentDto)

def ids : List String := dto.staffMemberIds.mergeSort fun a b => decide (a ≤ b)

def request (date : ℤ) : SalaryRequest :=
  { ids := dto.ids
    date
    status := dto.status.getD .pending
    amount := dto.amount
    method := dto.paymentMethod
    handling := dto.expenseHandling
    frequency := dto.frequency
    notes := dto.notes
    receipt := dto.receiptAssetId.or dto.receiptUrl
    receiptOwner := dto.receiptAssetId.bind fun _ => dto.staffMemberIds.head? }

def receiptFor (staffMemberId : String) : Option String :=
  if dto.staffMemberIds.head? = some staffMemberId then dto.receiptAssetId else none

def payment (id : ℕ) (userId fingerprint : String) (date now : ℤ) (amount : Decimal)
    (profile : Option StaffSalaryProfile) (staffMemberId : String) : StaffSalaryPayment :=
  let status := dto.status.getD .pending
  { id, staffMemberId, amount, status
    createdByUserId := some userId
    paidByUserId := if status = .paid then some userId else none
    paymentDate := midnight date
    scheduledFor := some date
    idempotencyKey := some dto.idempotencyKey
    requestHash := some fingerprint
    paidAt := if status = .paid then some now else none
    paymentMethod := dto.paymentMethod
    expenseHandling := (dto.expenseHandling.or
      (profile.map StaffSalaryProfile.expenseHandling)).getD .automatic
    frequency := dto.frequency.or (profile.map StaffSalaryProfile.frequency)
    notes := dto.notes
    receiptUrl := ((dto.receiptFor staffMemberId).map SalaryDb.receiptPreviewPath).or
      dto.receiptUrl }

end CreateSalaryPaymentDto

namespace SalaryDb

variable (env : SalaryEnv) (db : SalaryDb)

/-- What is due to a staff member of a batch, if there is no payment for the day yet. -/
def batchAmount (dto : CreateSalaryPaymentDto) (date : ℤ) (staff : StaffMember) :
    Except SalaryError Decimal :=
  match db.findSalaryForDay staff.id date with
  | some prior =>
    .error (.conflict ("Salary record " ++ toString prior.id ++
      " already exists for this staff member and date; confirm that record instead"))
  | none =>
    match dto.amount.or ((db.findProfile staff.id).map StaffSalaryProfile.baseSalary) with
    | some amount => .ok amount
    | none =>
      .error (.badRequest ("Amount is required for " ++ staff.name ++
        ": no salary profile is set"))

def attachGivenReceipt (storeId : String) (assetId : Option String) (salaryPaymentId : ℕ) (now : ℤ) :
    Except SalaryError SalaryDb :=
  match assetId with
  | some assetId => db.attachReceipt storeId assetId salaryPaymentId now
  | none => .ok db

def createOne (userId storeId : String) (dto : CreateSalaryPaymentDto) (date now : ℤ)
    (db : SalaryDb) (staffMemberId : String) : Except SalaryError SalaryDb := do
  let staff ← db.lockStaff storeId staffMemberId
  let amount ← db.batchAmount dto date staff
  let payment := dto.payment db.freshPaymentId userId (env.fingerprint (dto.request date)) date now
    amount (db.findProfile staff.id) staff.id
  let db ← (db.createPayment payment).attachGivenReceipt storeId
    (dto.receiptFor staff.id) payment.id now
  if payment.status = .paid then db.linkExpense storeId (some userId) staff payment else .ok db

def createPayments (userId storeId : String) (dto : CreateSalaryPaymentDto) (now : ℤ) :
    Except SalaryError SalaryDb := do
  let date ← env.salaryCalendarInput dto.paymentDate (dto.timezone.getD "UTC")
  let retry := db.payments.filter fun payment =>
    payment.idempotencyKey = some dto.idempotencyKey &&
      (db.findStaff payment.staffMemberId).any fun staff => staff.storeId = storeId
  if retry.isEmpty then dto.ids.foldlM (createOne env userId storeId dto date now) db
  else if retry.length ≠ dto.ids.length ||
      retry.any (fun payment => payment.requestHash ≠ some (env.fingerprint (dto.request date))) then
    .error (.conflict "Idempotency key was already used for a different salary batch")
  else .ok db

/-! ### Payments that an owner confirms -/

def lockPayment (storeId : String) (paymentId : ℕ) :
    Except SalaryError (StaffSalaryPayment × StaffMember) :=
  match db.findPayment paymentId with
  | none => .error (.notFound "Salary payment not found")
  | some payment =>
    match db.findStaff payment.staffMemberId with
    | none => .error (.notFound "Salary payment not found")
    | some staff =>
      if staff.storeId = storeId then .ok (payment, staff)
      else .error (.notFound "Salary payment not found")

end SalaryDb

structure ConfirmSalaryPaymentDto where
  timezone : Option String := none
  paidAt : Option CalendarInput := none
  paymentMethod : Option SalaryPaymentMethod := none
  receiptAssetId : Option String := none

def ConfirmSalaryPaymentDto.paidInstant (env : SalaryEnv) (dto : ConfirmSalaryPaymentDto)
    (now : ℤ) : Except SalaryError ℤ := do
  let paidAt ← match dto.paidAt with
    | none => .ok now
    | some (.label day) => env.dateInZone day (dto.timezone.getD "UTC")
    | some (.timestamp instant) => .ok instant
  if now < paidAt then .error (.badRequest "Payment timestamp cannot be in the future")
  else .ok paidAt

namespace SalaryDb

variable (env : SalaryEnv) (db : SalaryDb)

def confirmPayment (userId storeId : String) (paymentId : ℕ) (dto : ConfirmSalaryPaymentDto)
    (now : ℤ) : Except SalaryError SalaryDb := do
  let paidAt ← dto.paidInstant env now
  let (payment, staff) ← db.lockPayment storeId paymentId
  if payment.status = .paid then .ok db
  else if payment.expenseHandling = .manual then
    .error (.conflict "Manual salaries are marked paid when the owner records their expense.")
  else if dto.receiptAssetId.isSome && payment.receiptUrl.isSome then
    .error (.conflict "This salary record already has a receipt")
  else do
    let db ← db.attachGivenReceipt storeId dto.receiptAssetId paymentId now
    db.payWith storeId (some userId) staff
      { payment with
        status := .paid
        paidAt := some paidAt
        paidByUserId := some userId
        paymentMethod := dto.paymentMethod.getD payment.paymentMethod
        receiptUrl := (dto.receiptAssetId.map receiptPreviewPath).or payment.receiptUrl }

def recordExpense (userId storeId : String) (paymentId : ℕ) (now : ℤ) :
    Except SalaryError SalaryDb := do
  let (payment, staff) ← db.lockPayment storeId paymentId
  if payment.status = .paid && payment.paidAt.isSome then
    db.linkExpense storeId (some userId) staff payment
  else
    db.payWith storeId (some userId) staff
      { payment with
        status := .paid
        paidAt := some (payment.paidAt.getD now)
        paidByUserId := some (payment.paidByUserId.getD userId) }

/-! ### The scheduler -/

def accruedPayment (id : ℕ) (profile : StaffSalaryProfile) (date now : ℤ) : StaffSalaryPayment :=
  { id
    staffMemberId := profile.staffMemberId
    amount := profile.baseSalary
    paymentDate := midnight date
    scheduledFor := some date
    status := if profile.expenseHandling = .automatic then .paid else .pending
    paidAt := if profile.expenseHandling = .automatic then some now else none
    paymentMethod := profile.paymentMethod
    expenseHandling := profile.expenseHandling
    frequency := some profile.frequency
    notes := profile.notes }

def accruePeriod (storeId : String) (staff : StaffMember) (profile : StaffSalaryProfile)
    (date now : ℤ) : Except SalaryError (SalaryDb × ℕ) :=
  match db.findSalaryForDay profile.staffMemberId date with
  | none =>
    let payment := accruedPayment db.freshPaymentId profile date now
    if profile.expenseHandling = .automatic then
      ((db.createPayment payment).linkExpense storeId none staff payment).map fun db => (db, 1)
    else .ok (db.createPayment payment, 1)
  | some existing =>
    if profile.expenseHandling = .automatic && existing.status = .pending then
      (db.payWith storeId none staff { existing with status := .paid, paidAt := some now }).map
        fun db => (db, 1)
    else .ok (db, 0)

/-- The periods that are due, `fuel` of them at most: the rows, the next date, and how many payments
were created or paid. -/
def accruePeriods (storeId : String) (staff : StaffMember) (profile : StaffSalaryProfile)
    (today now : ℤ) : ℕ → SalaryDb → ℤ → ℕ → Except SalaryError (SalaryDb × ℤ × ℕ)
  | 0, db, date, count => .ok (db, date, count)
  | fuel + 1, db, date, count =>
    if date ≤ today then
      match db.accruePeriod storeId staff profile date now with
      | .error error => .error error
      | .ok (db', created) =>
        accruePeriods storeId staff profile today now fuel db'
          (advance date profile.frequency profile.anchorDay) (count + created)
    else .ok (db, date, count)

/-- The transaction of `runAutomaticPayments` for one candidate. -/
def accrue (storeId staffMemberId : String) (now : ℤ) : Except SalaryError (SalaryDb × ℕ) := do
  let staff ← db.lockStaff storeId staffMemberId
  match db.findProfile staffMemberId with
  | none => .ok (db, 0)
  | some profile =>
    let today := env.calendarDay now profile.timezone
    match profile.nextPaymentDate with
    | none => .ok (db, 0)
    | some nextPaymentDate =>
      if today < salaryDay nextPaymentDate then .ok (db, 0)
      else do
        let (db, date, count) ← accruePeriods storeId staff profile today now 366 db
          (salaryDay nextPaymentDate) 0
        .ok (db.updateProfile staffMemberId fun row =>
          { row with nextPaymentDate := some (midnight date) }, count)

/-- The profiles that are due, with their stores: the first 500 by date and staff member. -/
def due (now : ℤ) : List (String × String) :=
  let rows := db.profiles.filterMap fun profile =>
    match db.findStaff profile.staffMemberId, profile.nextPaymentDate with
    | some staff, some nextPaymentDate =>
      if salaryDay nextPaymentDate ≤ env.calendarDay now profile.timezone then
        some (nextPaymentDate, staff.id, staff.storeId)
      else none
    | _, _ => none
  let sorted := rows.mergeSort fun a b =>
    decide (a.1 < b.1) || (a.1 = b.1 && decide (a.2.1 ≤ b.2.1))
  (sorted.take 500).map fun row => (row.2.2, row.2.1)

/-- The candidates one after the other, until one of them fails; what was committed stays. -/
def accrueEach (now : ℤ) : List (String × String) → SalaryDb → ℕ → SalaryDb × Except SalaryError ℕ
  | [], db, processed => (db, .ok processed)
  | (storeId, staffMemberId) :: candidates, db, processed =>
    match db.accrue env storeId staffMemberId now with
    | .error error => (db, .error error)
    | .ok (db', count) => accrueEach now candidates db' (processed + count)

/-- `runAutomaticPayments`: the rows, and how many payments were processed. -/
def runAutomaticPayments (now : ℤ) : SalaryDb × Except SalaryError ℕ :=
  accrueEach env now (db.due env now) db 0

end SalaryDb

/-! ### The calls -/

/-- A call that writes salaries; `accrue` is one candidate of a scheduler that runs beside others. -/
inductive SalaryAction
  | setProfile (storeId staffMemberId : String) (dto : SetSalaryProfileDto)
  | createPayments (userId storeId : String) (dto : CreateSalaryPaymentDto) (now : ℤ)
  | confirmPayment (userId storeId : String) (paymentId : ℕ) (dto : ConfirmSalaryPaymentDto) (now : ℤ)
  | recordExpense (userId storeId : String) (paymentId : ℕ) (now : ℤ)
  | accrue (storeId staffMemberId : String) (now : ℤ)
  | runAutomaticPayments (now : ℤ)

def commit (db : SalaryDb) : Except SalaryError SalaryDb → SalaryDb
  | .ok db' => db'
  | .error _ => db

def SalaryAction.step (env : SalaryEnv) (db : SalaryDb) : SalaryAction → SalaryDb
  | .setProfile storeId staffMemberId dto => commit db (db.setProfile env storeId staffMemberId dto)
  | .createPayments userId storeId dto now => commit db (db.createPayments env userId storeId dto now)
  | .confirmPayment userId storeId paymentId dto now =>
    commit db (db.confirmPayment env userId storeId paymentId dto now)
  | .recordExpense userId storeId paymentId now =>
    commit db (db.recordExpense userId storeId paymentId now)
  | .accrue storeId staffMemberId now =>
    commit db ((db.accrue env storeId staffMemberId now).map Prod.fst)
  | .runAutomaticPayments now => (db.runAutomaticPayments env now).1

end Zomaal.Salary
