/-
**Expenses and their retry keys.**

With a key the transaction that creates an expense takes an advisory lock, looks for the row of an
earlier request with the key, and answers with that request's expense; without such a row it creates
the expense, attaches the uploaded receipt and stores a row of its own.  An expense is removed in
one transaction, which leaves the request's row without an expense; then its upload is deleted.
This module embeds `create` and `remove` of `expenses.service.ts`, `attachReceipt` and
`deleteAttachedAsset`, statement by statement.

Main results:

* `Expenses.WellFormed.commit`, `Expenses.WellFormed.removeExpense` — **what the two transactions
  keep**.
-/

import Zomaal.JsText
import Zomaal.KeyedRows
import Zomaal.MachineRun
import Zomaal.Store
import Zomaal.ThreadPool

set_option autoImplicit false

namespace Zomaal.Expenses

/-! ### Requests -/

inductive ExpenseGroup
  | shipping
  | ads
  | salary
  | purchases
  | other

inductive PaymentMethod
  | cash
  | bank
  deriving DecidableEq

/-- A request to create an expense; `spentAt` is the instant that its text stands for in its time
zone, and the amount has at most two decimals. -/
structure CreateExpenseDto where
  title : String
  amount : Decimal
  paymentMethod : PaymentMethod := .cash
  spentAt : ℤ := 0
  categoryId : String
  notes : Option String := none
  receiptUrl : Option String := none
  receiptAssetId : Option String := none
  idempotencyKey : Option String := none

inductive Receipt
  | asset (id : String)
  | url (url : Option String)
  deriving DecidableEq

variable (dto : CreateExpenseDto)

def CreateExpenseDto.receipt : Receipt :=
  match JsText.truthy dto.receiptAssetId with
  | some id => .asset id
  | none => .url dto.receiptUrl

structure Payload where
  title : String
  amount : Decimal
  paymentMethod : PaymentMethod
  spentAt : ℤ
  categoryId : String
  notes : Option String
  receipt : Receipt
  deriving DecidableEq

def CreateExpenseDto.payload : Payload where
  title := JsText.trim dto.title
  amount := dto.amount
  paymentMethod := dto.paymentMethod
  spentAt := dto.spentAt
  categoryId := dto.categoryId
  notes := dto.notes
  receipt := dto.receipt

/-- The hash of a payload, which is taken to be injective. -/
structure Environment (φ : Type) where
  requestHash : Payload → φ
  injective : Function.Injective requestHash

/-- `/^[A-Za-z0-9][A-Za-z0-9._:-]{7,99}$/`. -/
def isKeyText (text : String) : Bool :=
  match text.toList with
  | [] => false
  | first :: rest =>
    first.isAlphanum && decide (7 ≤ rest.length ∧ rest.length ≤ 99) &&
      rest.all fun c => c.isAlphanum || c = '.' || c = '_' || c = ':' || c = '-'

def resolveKey (headerKey : Option String) (dto : CreateExpenseDto) :
    Except ServiceError (Option String) :=
  if headerKey.any fun key => !isKeyText key then
    .error (.badRequest
      "Idempotency-Key must contain 8–100 letters, digits, dots, underscores, colons or hyphens")
  else
    match JsText.truthy headerKey, JsText.truthy dto.idempotencyKey with
    | some key, some other =>
      if key = other then .ok (some key)
      else .error (.badRequest "Body and header idempotency keys must match")
    | some key, none => .ok (some key)
    | none, other => .ok other

/-! ### Rows -/

structure Expense where
  id : String
  title : String
  amount : Decimal
  paymentMethod : PaymentMethod
  spentAt : ℤ
  categoryId : String
  notes : Option String
  receiptUrl : Option String
  staffMemberId : Option String := none
  merchantPurchaseId : Option String := none

structure ExpenseCreateRequest (φ : Type) where
  idempotencyKey : String
  requestHash : φ
  expenseId : Option String

/-- An upload; its status is `TEMPORARY` or `ATTACHED`. -/
structure MediaAsset where
  id : String
  isReceipt : Bool
  temporary : Bool
  expiresAt : Option ℤ
  expenseId : Option String := none

structure Creation where
  key : Option String
  payload : Payload
  expenseId : String
  deriving DecidableEq

/-- The rows of a store. The last two fields say which expenses were ever created, and which upload
was attached to which. -/
structure Books (φ : Type) where
  expenses : List Expense := []
  requests : List (ExpenseCreateRequest φ) := []
  media : List MediaAsset := []
  creations : List Creation := []
  attachments : List (String × String) := []

variable {φ : Type} [DecidableEq φ] (env : Environment φ)

/-- `where: { id, purpose: RECEIPT, status: TEMPORARY, expiresAt: { gt: now } }`. -/
def MediaAsset.attachable (now : ℤ) (id : String) (asset : MediaAsset) : Bool :=
  asset.id = id && asset.isReceipt && asset.temporary &&
    asset.expiresAt.any fun expiresAt => now < expiresAt

def MediaAsset.attachTo (expenseId : String) (asset : MediaAsset) : MediaAsset :=
  { asset with temporary := false, expiresAt := none, expenseId := some expenseId }

def receiptPreviewPath (assetId : String) : String := "/expenses/receipts/" ++ assetId

def CreateExpenseDto.expense (id : String) : Expense where
  id := id
  title := dto.title
  amount := dto.amount
  paymentMethod := dto.paymentMethod
  spentAt := dto.spentAt
  categoryId := dto.categoryId
  notes := dto.notes
  receiptUrl :=
    match dto.receipt with
    | .asset id => some (receiptPreviewPath id)
    | .url url => url

/-- An expense has, or had, the id; a random id is never that of an expense that was removed. -/
def Books.used (books : Books φ) (id : String) : Bool :=
  books.expenses.any (·.id = id) || books.creations.any (·.expenseId = id)

/-! ### Creating -/

/-- What a transaction holds until it ends: the advisory lock of a key, the id of an inserted row, a
row written or selected for update. -/
inductive Lock
  | key (key : String)
  | insert (id : String)
  | asset (id : String)
  | expense (id : String)
  deriving DecidableEq

/-- What a statement finds: whether it fails, the clock, the group of the category, the random id.
-/
structure Moment where
  failure : Option ServiceError := none
  now : ℤ := 0
  group : Option ExpenseGroup := some .other
  uuid : String := ""

variable (moment : Moment)

/-- The category is missing, or its expenses are recorded elsewhere. -/
def Moment.rejectCategory : Option ServiceError :=
  match moment.group with
  | none => some (.notFound "Expense category not found")
  | some .shipping | some .ads =>
    some (.conflict "Shipping and advertising costs are managed by their source modules")
  | some .salary =>
    some (.conflict
      "Salary expenses are recorded from Staff Salary, not created directly here.")
  | some .purchases =>
    some (.conflict "Purchase costs are recorded from Purchases, not created directly here.")
  | some .other => none

inductive CreatePhase
  | locking (key : String)
  | readingRequest (key : String)
  /-- The row of an earlier request was read; its expense is read next. -/
  | readingExpense (id : String)
  | readingCategory
  | inserting
  | attaching (expense : Expense) (assetId : String)
  | insertingRequest (expense : Expense)
  | committing (expense : Expense)
  | returned (id : String)
  | rejected (error : ServiceError)

structure CreateCall where
  dto : CreateExpenseDto
  key : Option String
  phase : CreatePhase
  locks : List Lock := []
  committed : Bool := false

namespace CreateCall

def start (headerKey : Option String) (dto : CreateExpenseDto) : CreateCall :=
  match resolveKey headerKey dto with
  | .error error => { dto, key := none, phase := .rejected error }
  | .ok none => { dto, key := none, phase := .readingCategory }
  | .ok (some key) => { dto, key := some key, phase := .locking key }

variable (call : CreateCall)

def goTo (phase : CreatePhase) : CreateCall := { call with phase }

def take (lock : Lock) (phase : CreatePhase) : CreateCall :=
  { call with phase, locks := call.locks ++ [lock] }

def reject (error : ServiceError) : CreateCall :=
  { call with phase := .rejected error, locks := [] }

def finish (id : String) : CreateCall := { call with phase := .returned id, locks := [] }

def attachOr (expense : Expense) : CreatePhase :=
  match call.dto.receipt with
  | .asset assetId => .attaching expense assetId
  | .url _ => .insertingRequest expense

end CreateCall

def Books.commit (books : Books φ) (call : CreateCall) (expense : Expense) : Books φ where
  expenses := books.expenses ++ [expense]
  requests := books.requests ++ call.key.toList.map fun key =>
    { idempotencyKey := key
      requestHash := env.requestHash call.dto.payload
      expenseId := some expense.id }
  media :=
    match call.dto.receipt with
    | .asset assetId =>
      books.media.map fun asset => if asset.id = assetId then asset.attachTo expense.id else asset
    | .url _ => books.media
  creations := books.creations ++
    [{ key := call.key, payload := call.dto.payload, expenseId := expense.id }]
  attachments :=
    match call.dto.receipt with
    | .asset assetId => books.attachments ++ [(assetId, expense.id)]
    | .url _ => books.attachments

def deletedExpense : ServiceError :=
  .conflict "This expense was deleted; use a new key for a new expense"

def CreateCall.statement (elsewhere : Lock → Bool) (books : Books φ) (call : CreateCall)
    : Books φ × CreateCall :=
  match call.phase with
  | .locking key =>
    (books,
      if elsewhere (.key key) then call else call.take (.key key) (.readingRequest key))
  | .readingRequest key =>
    (books,
      match books.requests.find? (·.idempotencyKey = key) with
      | none => call.goTo .readingCategory
      | some prior =>
        if prior.requestHash = env.requestHash call.dto.payload then
          match prior.expenseId with
          | none => call.reject deletedExpense
          | some id => call.goTo (.readingExpense id)
        else
          call.reject (.conflict
            "Idempotency key was already used with different expense data"))
  | .readingExpense id =>
    (books, if books.expenses.any (·.id = id) then call.finish id else call.reject deletedExpense)
  | .readingCategory =>
    (books,
      match moment.rejectCategory with
      | some error => call.reject error
      | none => call.goTo .inserting)
  | .inserting =>
    (books,
      if elsewhere (.insert moment.uuid) then call
      else if books.used moment.uuid then call.reject .uniqueConstraint
      else call.take (.insert moment.uuid) (call.attachOr (call.dto.expense moment.uuid)))
  | .attaching expense assetId =>
    (books,
      if books.media.any (·.attachable moment.now assetId) then
        if elsewhere (.asset assetId) then call
        else call.take (.asset assetId) (.insertingRequest expense)
      else
        call.reject (.badRequest
          "Receipt not found, already used, or expired. Upload it again."))
  | .insertingRequest expense =>
    (books,
      if call.key.any fun key => books.requests.any (·.idempotencyKey = key) then
        call.reject .uniqueConstraint
      else call.goTo (.committing expense))
  | .committing expense =>
    (books.commit env call expense, { call.finish expense.id with committed := true })
  | .returned _ | .rejected _ => (books, call)

/-! ### Removing -/

inductive RemovePhase
  | locking
  | reading
  | readingReceipt
  | deleting (receipt : Option String)
  | committing (receipt : Option String)
  /-- `deleteAttachedAsset`, whose errors are swallowed: the upload is read, and its object deleted.
  -/
  | readingAsset (assetId : String)
  | deletingAsset (assetId : String)
  | returned
  | rejected (error : ServiceError)

structure RemoveCall where
  expenseId : String
  phase : RemovePhase := .locking
  locks : List Lock := []
  committed : Bool := false

namespace RemoveCall

variable (call : RemoveCall)

def goTo (phase : RemovePhase) : RemoveCall := { call with phase }

def take (lock : Lock) (phase : RemovePhase) : RemoveCall :=
  { call with phase, locks := call.locks ++ [lock] }

def reject (error : ServiceError) : RemoveCall :=
  { call with phase := .rejected error, locks := [] }

def cleanUp (receipt : Option String) : RemoveCall where
  expenseId := call.expenseId
  phase :=
    match receipt with
    | none => .returned
    | some assetId => .readingAsset assetId
  committed := true

end RemoveCall

/-- `rejectIfSalaryGenerated` and `rejectIfPurchaseGenerated`. -/
def Expense.rejectGenerated (expense : Expense) : Option ServiceError :=
  if expense.staffMemberId.isSome then
    some (.conflict
      "This expense is linked to a confirmed salary payment and cannot be edited or deleted.")
  else if expense.merchantPurchaseId.isSome then
    some (.conflict
      "This expense comes from a purchase — edit or delete the purchase instead.")
  else none

/-- The transaction commits; the references to the expense become null. -/
def Books.removeExpense (books : Books φ) (id : String) : Books φ :=
  { books with
    expenses := books.expenses.filter fun expense => expense.id ≠ id
    requests := books.requests.map fun request =>
      if request.expenseId = some id then { request with expenseId := none } else request
    media := books.media.map fun asset =>
      if asset.expenseId = some id then { asset with expenseId := none } else asset }

def RemoveCall.statement (elsewhere : Lock → Bool) (books : Books φ) (call : RemoveCall) :
    Books φ × RemoveCall :=
  match call.phase with
  | .locking =>
    (books,
      if books.expenses.any (·.id = call.expenseId) then
        if elsewhere (.expense call.expenseId) then call
        else call.take (.expense call.expenseId) .reading
      else call.goTo .reading)
  | .reading =>
    (books,
      match books.expenses.find? (·.id = call.expenseId) with
      | none => call.reject (.notFound "Expense not found")
      | some expense =>
        match expense.rejectGenerated with
        | some error => call.reject error
        | none => call.goTo .readingReceipt)
  | .readingReceipt =>
    (books, call.goTo (.deleting
      ((books.media.find? fun asset => asset.expenseId = some call.expenseId).map MediaAsset.id)))
  | .deleting receipt =>
    (books,
      if books.expenses.any (·.id = call.expenseId) then
        if elsewhere (.expense call.expenseId) then call
        else call.take (.expense call.expenseId) (.committing receipt)
      else call.reject (.notFound "No record was found for a delete."))
  | .committing receipt => (books.removeExpense call.expenseId, call.cleanUp receipt)
  | .readingAsset assetId =>
    (books,
      call.goTo
        (if books.media.any (·.id = assetId) then .deletingAsset assetId else .returned))
  | .deletingAsset assetId =>
    ({ books with media := books.media.filter fun asset => asset.id ≠ assetId },
      call.goTo .returned)
  | .returned | .rejected _ => (books, call)

/-! ### Calls -/

inductive Call
  | create (call : CreateCall)
  | remove (call : RemoveCall)

def Call.locks : Call → List Lock
  | .create call => call.locks
  | .remove call => call.locks

def Call.holds (call : Call) (lock : Lock) : Bool := lock ∈ call.locks

def Call.committed : Call → Bool
  | .create call => call.committed
  | .remove call => call.committed

def Call.rejection : Call → Option ServiceError
  | .create { phase := .rejected error, .. } => some error
  | .remove { phase := .rejected error, .. } => some error
  | _ => none

def CreatePhase.rank : CreatePhase → ℕ
  | .locking _ => 8
  | .readingRequest _ => 7
  | .readingExpense _ | .readingCategory => 6
  | .inserting => 5
  | .attaching .. => 4
  | .insertingRequest _ => 3
  | .committing _ => 2
  | .returned _ | .rejected _ => 0

def RemovePhase.rank : RemovePhase → ℕ
  | .locking => 7
  | .reading => 6
  | .readingReceipt => 5
  | .deleting _ => 4
  | .committing _ => 3
  | .readingAsset _ => 2
  | .deletingAsset _ => 1
  | .returned | .rejected _ => 0

def Call.rank : Call → ℕ
  | .create call => call.phase.rank
  | .remove call => call.phase.rank

/-- A statement fails: the transaction is rolled back, and after the commit of a removal nothing
more is done. -/
def Call.fail (error : ServiceError) : Call → Call
  | .create call => .create (if call.phase.rank = 0 then call else call.reject error)
  | .remove call =>
    .remove
      (if call.phase.rank = 0 then call
      else if call.committed then call.goTo .returned
      else call.reject error)

def Call.turn (elsewhere : Lock → Bool) (books : Books φ) (call : Call) : Books φ × Call :=
  match moment.failure with
  | some error => (books, call.fail error)
  | none =>
    match call with
    | .create call =>
      let result := call.statement env moment elsewhere books
      (result.1, .create result.2)
    | .remove call =>
      let result := call.statement elsewhere books
      (result.1, .remove result.2)

/-! ### The rows -/

def Creation.Apart (creation other : Creation) : Prop :=
  creation.key ≠ none → creation.key ≠ other.key

instance : Std.Symm Creation.Apart where
  symm creation other h := by
    intro hkey hsame
    exact h (hsame ▸ hkey) hsame.symm

omit [DecidableEq φ] in
/-- **What is invariant of the rows**: a request row is that of the one creation with its key, and
says where its expense is; no upload was attached twice. -/
structure WellFormed (books : Books φ) : Prop where
  requestKeys : (books.requests.map ExpenseCreateRequest.idempotencyKey).Nodup
  requestOf : ∀ request ∈ books.requests, ∃ creation ∈ books.creations,
    creation.key = some request.idempotencyKey ∧
      request.requestHash = env.requestHash creation.payload ∧
      (request.expenseId = some creation.expenseId ∨
        request.expenseId = none ∧ ∀ expense ∈ books.expenses, expense.id ≠ creation.expenseId)
  keyed : ∀ creation ∈ books.creations, ∀ key, creation.key = some key →
    ∃ request ∈ books.requests, request.idempotencyKey = key
  once : books.creations.Pairwise Creation.Apart
  attachedOnce : (books.attachments.map Prod.fst).Nodup
  temporary : ∀ asset ∈ books.media, asset.temporary = true →
    asset.id ∉ books.attachments.map Prod.fst
  attachedTo : ∀ asset ∈ books.media, ∀ id, asset.expenseId = some id →
    (asset.id, id) ∈ books.attachments

variable {env} {books books' : Books φ}

omit [DecidableEq φ] in
theorem WellFormed.one (h : WellFormed env books) {creation other : Creation}
    (hcreation : creation ∈ books.creations) (hother : other ∈ books.creations)
    (hkey : creation.key ≠ none) (hsame : creation.key = other.key) : creation = other := by
  by_contra hne
  exact h.once.forall hcreation hother hne hkey hsame

omit [DecidableEq φ] in
theorem WellFormed.commit (h : WellFormed env books) {call : CreateCall} {expense : Expense}
    (halone : ∀ creation ∈ books.creations, call.key ≠ none → creation.key ≠ call.key)
    (hfresh : ∀ creation ∈ books.creations, creation.expenseId ≠ expense.id)
    (hreceipt : ∀ assetId, call.dto.receipt = .asset assetId →
      assetId ∉ books.attachments.map Prod.fst) :
    WellFormed env (books.commit env call expense) := by
  constructor
  case requestKeys =>
    cases hkey : call.key with
    | none =>
      rw [Books.commit, hkey]
      simpa using h.requestKeys
    | some key =>
      rw [Books.commit, hkey]
      refine KeyedRows.nodup_append ExpenseCreateRequest.idempotencyKey h.requestKeys
        fun hmem => ?_
      obtain ⟨request, hrequest, hsame⟩ := List.mem_map.1 hmem
      obtain ⟨creation, hcreation, hof, -⟩ := h.requestOf request hrequest
      refine halone creation hcreation (by rw [hkey]; exact Option.some_ne_none _) ?_
      rw [hof, hsame, hkey]
  case requestOf =>
    intro request hrequest
    rcases List.mem_append.1 hrequest with hold | hnew
    · obtain ⟨creation, hcreation, hkey, hhash, hwhere⟩ := h.requestOf request hold
      refine ⟨creation, List.mem_append_left _ hcreation, hkey, hhash, hwhere.imp_right ?_⟩
      rintro ⟨hnone, hgone⟩
      refine ⟨hnone, fun other hother => ?_⟩
      rcases List.mem_append.1 hother with hold' | hnew'
      · exact hgone other hold'
      · rw [List.mem_singleton.1 hnew']
        exact (hfresh creation hcreation).symm
    · obtain ⟨key, hkey, rfl⟩ := List.mem_map.1 hnew
      exact ⟨_, List.mem_append_right _ (List.mem_singleton_self _), Option.mem_toList.1 hkey, rfl,
        .inl rfl⟩
  case keyed =>
    intro creation hcreation key hkey
    rcases Ledger.mem_concat.1 hcreation with hold | rfl
    · obtain ⟨request, hrequest, hsame⟩ := h.keyed creation hold key hkey
      exact ⟨request, List.mem_append_left _ hrequest, hsame⟩
    · exact ⟨_, List.mem_append_right _ (List.mem_map_of_mem (Option.mem_toList.2 hkey)), rfl⟩
  case once =>
    refine List.pairwise_append.2 ⟨h.once, List.pairwise_singleton _ _, ?_⟩
    intro creation hcreation other hother
    obtain rfl := List.mem_singleton.1 hother
    intro hkey hsame
    dsimp only at hsame
    rw [hsame] at hkey
    exact halone creation hcreation hkey hsame
  case attachedOnce =>
    cases hcase : call.dto.receipt with
    | url url =>
      rw [Books.commit, hcase]
      exact h.attachedOnce
    | asset assetId =>
      rw [Books.commit, hcase]
      exact KeyedRows.nodup_append Prod.fst h.attachedOnce (hreceipt assetId hcase)
  case temporary =>
    intro asset hasset htemporary
    cases hcase : call.dto.receipt with
    | url url =>
      rw [Books.commit, hcase] at hasset ⊢
      exact h.temporary asset hasset htemporary
    | asset assetId =>
      rw [Books.commit, hcase] at hasset ⊢
      obtain ⟨before, hbefore, rfl⟩ := List.mem_map.1 hasset
      split at htemporary
      · cases htemporary
      · rename_i hne
        rw [if_neg hne, List.map_append, List.mem_append]
        rintro (hold | hnew)
        · exact h.temporary before hbefore htemporary hold
        · exact hne (List.mem_singleton.1 hnew)
  case attachedTo =>
    intro asset hasset id hid
    cases hcase : call.dto.receipt with
    | url url =>
      rw [Books.commit, hcase] at hasset ⊢
      exact h.attachedTo asset hasset id hid
    | asset assetId =>
      rw [Books.commit, hcase] at hasset ⊢
      obtain ⟨before, hbefore, rfl⟩ := List.mem_map.1 hasset
      split at hid
      · rename_i heq
        rw [if_pos heq]
        obtain rfl : expense.id = id := Option.some.inj hid
        obtain rfl : before.id = assetId := heq
        exact List.mem_append_right _ (List.mem_singleton_self _)
      · rename_i hne
        rw [if_neg hne]
        exact List.mem_append_left _ (h.attachedTo before hbefore id hid)

omit [DecidableEq φ] in
/-- **The transaction of a removal keeps the rows well formed.** -/
theorem WellFormed.removeExpense (h : WellFormed env books) (id : String) :
    WellFormed env (books.removeExpense id) := by
  refine
    { h with
      requestKeys := ?_
      requestOf := ?_
      keyed := ?_
      temporary := ?_
      attachedTo := ?_ }
  · have hkeys : (books.removeExpense id).requests.map ExpenseCreateRequest.idempotencyKey =
        books.requests.map ExpenseCreateRequest.idempotencyKey := by
      rw [Books.removeExpense, List.map_map]
      refine List.map_congr_left fun request _ => ?_
      rw [Function.comp_apply]
      split <;> rfl
    rw [hkeys]
    exact h.requestKeys
  · intro request hrequest
    obtain ⟨before, hbefore, rfl⟩ := List.mem_map.1 hrequest
    obtain ⟨creation, hcreation, hkey, hhash, hwhere⟩ := h.requestOf before hbefore
    refine ⟨creation, hcreation, ?_, ?_, ?_⟩
    · rw [hkey]
      split <;> rfl
    · rw [← hhash]
      split <;> rfl
    · split
      · rename_i hremoved
        rw [hremoved] at hwhere
        rcases hwhere with hsame | ⟨hnone, -⟩
        · refine .inr ⟨rfl, fun expense hexpense => ?_⟩
          have hne := (List.mem_filter.1 hexpense).2
          rw [← Option.some.inj hsame]
          exact of_decide_eq_true hne
        · cases hnone
      · refine hwhere.imp_right ?_
        rintro ⟨hnone, hgone⟩
        exact ⟨hnone, fun expense hexpense => hgone expense (List.mem_filter.1 hexpense).1⟩
  · intro creation hcreation key hkey
    obtain ⟨request, hrequest, hsame⟩ := h.keyed creation hcreation key hkey
    refine ⟨_, List.mem_map_of_mem hrequest, ?_⟩
    rw [← hsame]
    split <;> rfl
  · intro asset hasset htemporary
    obtain ⟨before, hbefore, rfl⟩ := List.mem_map.1 hasset
    split at htemporary
    · rename_i heq
      rw [if_pos heq]
      exact h.temporary before hbefore htemporary
    · rename_i hne
      rw [if_neg hne]
      exact h.temporary before hbefore htemporary
  · intro asset hasset other hother
    obtain ⟨before, hbefore, rfl⟩ := List.mem_map.1 hasset
    split at hother
    · cases hother
    · rename_i hne
      rw [if_neg hne]
      exact h.attachedTo before hbefore other hother

omit [DecidableEq φ] in
theorem WellFormed.deleteAsset (h : WellFormed env books) (p : MediaAsset → Bool) :
    WellFormed env { books with media := books.media.filter p } :=
  { h with
    temporary := fun asset hasset => h.temporary asset (List.mem_filter.1 hasset).1
    attachedTo := fun asset hasset => h.attachedTo asset (List.mem_filter.1 hasset).1 }

end Zomaal.Expenses
