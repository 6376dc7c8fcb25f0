/-
**Prepaid WhatsApp messages.**

Every send attempt is charged to an append-only ledger, and what could not be sent is given back.
Sending a message takes several commits — the charge, the count of attempts, the request to the
provider, and the result — and they may be interleaved with those of other workers, of the recovery
of rows that a crashed worker left behind, and of the provider's status webhooks.  A step of the
machine is one commit, or one request; what the provider answers, and whether the database does what
it is asked, are inputs of the steps.
-/

import Zomaal.JsText
import Zomaal.KeyedRows
import Zomaal.ShopPricing
import Zomaal.ThreadPool

set_option autoImplicit false

namespace Zomaal.WhatsApp

/-! ### The rows -/

inductive WhatsAppMessageStatus
  | scheduled
  | sending
  | sent
  | delivered
  | read
  | failed
  | skipped
  deriving DecidableEq

structure WhatsAppMessage where
  id : String
  storeId : String
  currency : String
  /-- the courier's status that the message is about -/
  trigger : String := ""
  orderId : Option String := none
  status : WhatsAppMessageStatus := .scheduled
  attempts : ℕ := 0
  providerMessageId : Option String := none
  cost : Option Decimal := none
  sentAt : Option ℤ := none
  deliveredAt : Option ℤ := none
  readAt : Option ℤ := none
  failedAt : Option ℤ := none
  errorCode : Option String := none
  errorMessage : Option String := none
  deriving DecidableEq

inductive WhatsAppBalanceEntryType
  | topUp
  | message
  | refund
  | adjustment

/-- A row of the ledger; credits are positive, and charges negative. -/
structure WhatsAppBalanceEntry where
  storeId : String
  messageId : Option String := none
  type : WhatsAppBalanceEntryType
  amount : Decimal
  currency : String
  idempotencyKey : String

structure WhatsAppDb where
  messages : List WhatsAppMessage := []
  entries : List WhatsAppBalanceEntry := []
  /-- the price of a message, for each currency -/
  pricing : String → Option Decimal := fun _ => none

/-! ### What can go wrong -/

/-- What the provider answers to a request it does not accept; `httpStatus` is zero when there was
no answer. -/
structure MetaGraphError where
  message : String
  httpStatus : ℕ
  code : Option ℤ := none

namespace MetaGraphError

variable (error : MetaGraphError)

def isAuthError : Bool :=
  error.httpStatus = 401 || error.code.any fun code => code ∈ [102, 190, 200, 10]

def isTransient : Bool :=
  error.httpStatus = 429 || 500 ≤ error.httpStatus || error.httpStatus = 0 ||
    error.code.any fun code =>
      code ∈ [1, 2, 4, 17, 341, 130429, 131000, 131016, 131048, 131056]

def errorCode : String :=
  match error.code with
  | some code => toString code
  | none => "HTTP_" ++ toString error.httpStatus

end MetaGraphError

inductive SendError
  /-- `StopSend`, which closes the message as failed, or else as skipped -/
  | stopSend (failed : Bool) (code message : String)
  | metaGraph (error : MetaGraphError)
  | other

inductive BalanceError
  | badRequest (message : String)
  | uniqueConstraint

namespace WhatsAppDb

variable (db : WhatsAppDb)

/-! ### Messages -/

def findMessage (id : String) : Option WhatsAppMessage :=
  db.messages.find? fun message => message.id = id

def findByProviderId (providerMessageId : String) : Option WhatsAppMessage :=
  db.messages.find? fun message => message.providerMessageId = some providerMessageId

def updateMessage (id : String) (change : WhatsAppMessage → WhatsAppMessage) : WhatsAppDb :=
  { db with
    messages := db.messages.map fun message => if message.id = id then change message else message }

/-- `updateMany({ where: { id, status } })`. -/
def updateWhere (id : String) (status : WhatsAppMessageStatus)
    (change : WhatsAppMessage → WhatsAppMessage) : WhatsAppDb :=
  db.updateMessage id fun message => if message.status = status then change message else message

/-! ### The ledger -/

def getBalance (storeId currency : String) : Decimal :=
  Ledger.total (·.amount)
    (fun entry : WhatsAppBalanceEntry => entry.storeId = storeId && entry.currency = currency)
    db.entries

variable (storeId messageId : String)

def entriesOf : List WhatsAppBalanceEntry :=
  db.entries.filter fun entry => entry.storeId = storeId && entry.messageId = some messageId

def net : Decimal :=
  ((db.entriesOf storeId messageId).map (·.amount)).sum

def createEntry (entry : WhatsAppBalanceEntry) : Except BalanceError WhatsAppDb :=
  if db.entries.any fun other =>
      other.storeId = entry.storeId && other.idempotencyKey = entry.idempotencyKey then
    .error .uniqueConstraint
  else .ok { db with entries := db.entries ++ [entry] }

/-- `debitForMessage`: the charge of an attempt, or nothing when the balance is too low. -/
def debitForMessage (attempt : ℕ) (amount : Decimal) (currency : String)
    : Except BalanceError (Option WhatsAppDb) :=
  if db.getBalance storeId currency < amount then .ok none
  else
    (db.createEntry
      { storeId, messageId := some messageId, type := .message, amount := -amount, currency
        idempotencyKey := "message:" ++ messageId ++ ":" ++ toString attempt }).map some

/-- `refundMessage`: whatever is still charged for the message is given back. -/
def refundMessage : Except BalanceError WhatsAppDb :=
  match db.entriesOf storeId messageId with
  | [] => .ok db
  | first :: rest =>
    let net := ((first :: rest).map (·.amount)).sum
    if net < 0 then
      db.createEntry
        { storeId, messageId := some messageId, type := .refund, amount := -net
          currency := first.currency
          idempotencyKey :=
            "refund:" ++ messageId ++ ":" ++ toString (first :: rest).length }
    else .ok db

/-- `adminCredit`, in the store's currency; a repeated request changes nothing. -/
def adminCredit (storeId currency : String) (topUp : Bool) (amount : Decimal)
    (idempotencyKey : String) : Except BalanceError WhatsAppDb :=
  if amount = 0 then .error (.badRequest "amount must not be zero")
  else if topUp && amount < 0 then
    .error (.badRequest "A top-up must be positive; use ADJUSTMENT to remove credit")
  else if db.entries.any fun other =>
      other.storeId = storeId && other.idempotencyKey = "admin:" ++ idempotencyKey then .ok db
  else if db.getBalance storeId currency + amount < 0 then
    .error (.badRequest ("Adjustment would make the balance negative (current " ++
      Shop.toFixed2 (db.getBalance storeId currency) ++ " " ++ currency ++ ")"))
  else
    db.createEntry
      { storeId, type := if topUp then .topUp else .adjustment, amount, currency
        idempotencyKey := "admin:" ++ idempotencyKey }

def setPricing (currency : String) (price : Decimal) : Except BalanceError WhatsAppDb :=
  if price ≤ 0 then .error (.badRequest "pricePerMessage must be greater than 0")
  else .ok { db with pricing := Function.update db.pricing currency (some price) }

/-! ### Closing a message -/

def slice500 (text : String) : String := String.ofList (text.toList.take 500)

/-- `finish`: a message that is being sent is closed. -/
def finish (id : String) (failed : Bool) (code message : String) (now : ℤ) : WhatsAppDb :=
  db.updateWhere id .sending fun row =>
    { row with
      status := if failed then .failed else .skipped
      errorCode := some code
      errorMessage := some (slice500 message)
      failedAt := if failed then some now else row.failedAt }

def reschedule (id : String) (error : MetaGraphError) : WhatsAppDb :=
  db.updateWhere id .sending fun row =>
    { row with
      status := .scheduled
      errorCode := some error.errorCode
      errorMessage := some error.message }

def maxSendAttempts : ℕ := 3

def handleFailure (message : WhatsAppMessage) (now : ℤ) : SendError → WhatsAppDb
  | .stopSend failed code text => db.finish message.id failed code text now
  | .metaGraph error =>
    if error.isAuthError then db.finish message.id true "NOT_AUTHORIZED" error.message now
    else if error.isTransient && message.attempts + 1 < maxSendAttempts then
      db.reschedule message.id error
    else db.finish message.id true error.errorCode error.message now
  | .other => db.finish message.id true "INTERNAL_ERROR" "The message could not be sent" now

end WhatsAppDb

/-! ### Workers, recoveries and webhooks -/

/-- The rows that `preflight` reads besides the message and the price. -/
structure PreflightRows where
  /-- the connection is `ACTIVE` and has a token -/
  connected : Bool := true
  /-- the automation of the message's status is on -/
  enabled : Bool := true
  /-- the courier's status of the order now -/
  currentStatus : Option String := none
  /-- Meta's status of the template, by its name and language -/
  templateStatus : Option String := some "APPROVED"
  /-- the template's name, and its language in parentheses -/
  template : String := ""

/-- `preflight`: the price of the message, if it should still be sent. -/
def preflight (rows : PreflightRows) (db : WhatsAppDb) (message : WhatsAppMessage) :
    Except SendError Decimal :=
  if !rows.connected then
    .error (.stopSend false "NOT_CONNECTED" "WhatsApp is not connected for this store")
  else if !rows.enabled then
    .error (.stopSend false "AUTOMATION_DISABLED"
      "This status message was turned off before it was sent")
  else if message.orderId.isNone then
    .error (.stopSend false "ORDER_REMOVED" "The order was deleted")
  else if rows.currentStatus ≠ some message.trigger then
    .error (.stopSend false "STATUS_CHANGED" ("The parcel moved to " ++
      rows.currentStatus.getD "an unknown status" ++ " before the message was due"))
  else if rows.templateStatus ≠ some "APPROVED" then
    .error (.stopSend true "TEMPLATE_NOT_APPROVED" ("Template " ++ rows.template ++ " is " ++
      rows.templateStatus.getD "NOT_SUBMITTED" ++ ", not approved by Meta"))
  else
    match db.pricing message.currency with
    | some price => .ok price
    | none =>
      .error (.stopSend true "PRICING_NOT_SET"
        ("No WhatsApp message price is set for " ++ message.currency))

/-- How far `processOne` has come with the message it read. -/
inductive SendPhase
  /-- the row was claimed, and `processOne` has not read it -/
  | claimed
  | loaded (message : WhatsAppMessage)
  | priced (message : WhatsAppMessage) (price : Decimal)
  /-- the charge is committed -/
  | charged (message : WhatsAppMessage) (price : Decimal)
  /-- and so is the count of attempts: the request is next -/
  | counted (message : WhatsAppMessage) (price : Decimal)
  /-- the provider has accepted the message: writing it down is next -/
  | answered (message : WhatsAppMessage) (price : Decimal) (providerMessageId : String)
  /-- something went wrong after the charge: the refund is next -/
  | refunding (message : WhatsAppMessage) (error : SendError)
  /-- and closing the message is next -/
  | handling (message : WhatsAppMessage) (error : SendError)

/-- A status webhook, as it was parsed; `error`: the code and the text of the first error. -/
structure StatusWebhook where
  providerMessageId : String
  status : String
  timestamp : ℤ := 0
  errorCode : Option String := none
  errorMessage : Option String := none

inductive Task
  /-- `processOne` -/
  | send (id : String) (phase : SendPhase)
  /-- a stale row of `recoverStale`; `refunded`: closing it is next -/
  | recover (storeId id : String) (refunded : Bool)
  /-- `applyStatus`, which has not read the message -/
  | webhook (status : StatusWebhook) (next : WhatsAppMessageStatus)
  /-- and which has -/
  | apply (status : StatusWebhook) (next : WhatsAppMessageStatus) (message : WhatsAppMessage)
  /-- and which has marked it as failed: the refund is next -/
  | takeBack (storeId id : String)
  | ended

/-- What a step depends on besides the rows of the messages. -/
structure TurnInput where
  now : ℤ := 0
  rows : PreflightRows := {}
  /-- whether the database does what it is asked -/
  stored : Bool := true
  /-- what the provider answers -/
  reply : Except SendError String := .ok ""

def statusRank : WhatsAppMessageStatus → ℕ
  | .sent => 1
  | .delivered => 2
  | .read => 3
  | _ => 0

def metaStatus : String → Option WhatsAppMessageStatus
  | "sent" => some .sent
  | "delivered" => some .delivered
  | "read" => some .read
  | "failed" => some .failed
  | _ => none

/-- `timestampField`. -/
def WhatsAppMessage.stamp (row : WhatsAppMessage) (status : WhatsAppMessageStatus) (at_ : ℤ) :
    WhatsAppMessage :=
  match status with
  | .sent => { row with sentAt := some at_ }
  | .delivered => { row with deliveredAt := some at_ }
  | .read => { row with readAt := some at_ }
  | _ => row

def WhatsAppDb.refunded (db : WhatsAppDb) (stored : Bool) (storeId id : String) : WhatsAppDb :=
  if stored then
    match db.refundMessage storeId id with
    | .ok db' => db'
    | .error _ => db
  else db

namespace Task

variable (input : TurnInput)

/-- One step of `processOne`. -/
def sendTurn (db : WhatsAppDb) (id : String) : SendPhase → Task × WhatsAppDb
  | .claimed =>
    match db.findMessage id with
    | none => (.ended, db)
    | some message =>
      if message.status = .sending then (.send id (.loaded message), db) else (.ended, db)
  | .loaded message =>
    match preflight input.rows db message with
    | .error error => (.send id (.handling message error), db)
    | .ok price => (.send id (.priced message price), db)
  | .priced message price =>
    if input.stored then
      match db.debitForMessage message.storeId id (message.attempts + 1) price
          message.currency with
      | .error _ => (.send id (.handling message .other), db)
      | .ok none =>
        (.send id (.handling message (.stopSend true "INSUFFICIENT_BALANCE"
          "Not enough WhatsApp balance to send this message")), db)
      | .ok (some charged) => (.send id (.charged message price), charged)
    else (.send id (.handling message .other), db)
  | .charged message price =>
    if input.stored then
      (.send id (.counted message price),
        db.updateMessage id fun row => { row with attempts := message.attempts + 1 })
    else (.send id (.refunding message .other), db)
  | .counted message price =>
    match input.reply with
    | .ok providerMessageId => (.send id (.answered message price providerMessageId), db)
    | .error error => (.send id (.refunding message error), db)
  | .answered message price providerMessageId =>
    if input.stored && !db.messages.any fun other =>
        other.id ≠ id && other.providerMessageId = some providerMessageId then
      (.ended, db.updateMessage id fun row =>
        { row with
          status := .sent
          providerMessageId := some providerMessageId
          sentAt := some input.now
          cost := some price
          errorCode := none
          errorMessage := none })
    else (.send id (.refunding message .other), db)
  | .refunding message error =>
    (.send id (.handling message error), db.refunded input.stored message.storeId id)
  | .handling message error =>
    (.ended, if input.stored then db.handleFailure message input.now error else db)

/-- One step of `applyStatus`, once the message is read. -/
def applyTurn (db : WhatsAppDb) (status : StatusWebhook) (next : WhatsAppMessageStatus)
    (message : WhatsAppMessage) : Task × WhatsAppDb :=
  let at_ := if 0 < status.timestamp then status.timestamp * 1000 else input.now
  if next = .failed then
    -- a failure after the delivery is noise
    if 2 ≤ statusRank message.status then (.ended, db)
    else if input.stored then
      (.takeBack message.storeId message.id, db.updateMessage message.id fun row =>
        { row with
          status := .failed
          failedAt := some at_
          errorCode := some (status.errorCode.getD "UNKNOWN")
          errorMessage := status.errorMessage })
    else (.ended, db)
  else if input.stored then
    (.ended, db.updateMessage message.id fun row =>
      { row.stamp next at_ with
        status := if statusRank message.status < statusRank next then next else row.status })
  else (.ended, db)

def turn (db : WhatsAppDb) : Task → Task × WhatsAppDb
  | .send id phase => sendTurn input db id phase
  | .recover storeId id false =>
    (.recover storeId id true, db.refunded input.stored storeId id)
  | .recover _ id true =>
    (.ended, if input.stored then
      db.finish id true "SEND_INTERRUPTED" "Sending was interrupted; the charge was refunded"
        input.now
      else db)
  | .webhook status next =>
    match db.findByProviderId status.providerMessageId with
    | none => (.ended, db)
    | some message =>
      if message.status = .failed then (.ended, db) else (.apply status next message, db)
  | .apply status next message => applyTurn input db status next message
  | .takeBack storeId id => (.ended, db.refunded input.stored storeId id)
  | .ended => (.ended, db)

end Task

/-! ### One step of any of them -/

abbrev WhatsAppWorld := ThreadPool WhatsAppDb Task

inductive WhatsAppAction
  /-- a message is put in the queue, or skipped for want of a phone number -/
  | schedule (id storeId currency trigger orderId : String) (hasPhone : Bool)
  /-- a queued message is skipped because the store is disconnected -/
  | disconnect (id : String)
  /-- a due row is claimed by a worker -/
  | claim (id : String)
  /-- `recoverStale` comes upon a row that is being sent -/
  | recover (id : String)
  /-- a status webhook arrives -/
  | webhook (status : StatusWebhook)
  /-- the next step of a task -/
  | turn (i : ℕ) (input : TurnInput)
  /-- a task is cut off -/
  | crash (i : ℕ)
  | adminCredit (storeId currency : String) (topUp : Bool) (amount : Decimal) (key : String)
  | setPricing (currency : String) (price : Decimal)

namespace WhatsAppDb

def settle (db : WhatsAppDb) : Except BalanceError WhatsAppDb → WhatsAppDb
  | .ok db' => db'
  | .error _ => db

def createMessage (db : WhatsAppDb) (message : WhatsAppMessage) : WhatsAppDb :=
  if (db.findMessage message.id).isSome then db
  else { db with messages := db.messages ++ [message] }

end WhatsAppDb

namespace WhatsAppAction

def step (w : WhatsAppWorld) : WhatsAppAction → WhatsAppWorld
  | .schedule id storeId currency trigger orderId hasPhone =>
    w.write (w.shared.createMessage
      { id, storeId, currency, trigger, orderId := some orderId
        status := if hasPhone then .scheduled else .skipped
        errorCode := if hasPhone then none else some "NO_VALID_PHONE"
        errorMessage :=
          if hasPhone then none
          else some "The order has no valid mobile number for the customer" })
  | .disconnect id =>
    w.write (w.shared.updateWhere id .scheduled fun row =>
      { row with
        status := .skipped
        errorCode := some "NOT_CONNECTED"
        errorMessage := some "WhatsApp was disconnected before the message was sent" })
  | .claim id =>
    match w.shared.findMessage id with
    | none => w
    | some message =>
      if message.status = .scheduled then
        (w.write (w.shared.updateMessage id fun row => { row with status := .sending })).spawn
          (.send id .claimed)
      else w
  | .recover id =>
    match w.shared.findMessage id with
    | none => w
    | some message =>
      if message.status = .sending then w.spawn (.recover message.storeId id false) else w
  | .webhook status =>
    match metaStatus status.status with
    | none => w
    | some next => w.spawn (.webhook status next)
  | .turn i input =>
    match w.threads[i]? with
    | none => w
    | some task => w.move i (task.turn input w.shared).2 (task.turn input w.shared).1
  | .crash i =>
    match w.threads[i]? with
    | none => w
    | some _ => w.move i w.shared .ended
  | .adminCredit storeId currency topUp amount key =>
    w.write (w.shared.settle (w.shared.adminCredit storeId currency topUp amount key))
  | .setPricing currency price => w.write (w.shared.settle (w.shared.setPricing currency price))

end WhatsAppAction

/-! ### Changing a message -/

namespace WhatsAppDb

variable {db : WhatsAppDb}

theorem findMessage_some {id : String} {row : WhatsAppMessage} (h : db.findMessage id = some row) :
    row ∈ db.messages ∧ row.id = id :=
  KeyedRows.lookup_some WhatsAppMessage.id h

theorem findMessage_updateMessage (db : WhatsAppDb) (id other : String)
    {change : WhatsAppMessage → WhatsAppMessage} (hid : ∀ row, (change row).id = row.id) :
    (db.updateMessage id change).findMessage other =
      (db.findMessage other).map fun row => if other = id then change row else row :=
  KeyedRows.lookup_change WhatsAppMessage.id hid db.messages

end WhatsAppDb

theorem WhatsAppMessage.stamp_keeps (row : WhatsAppMessage) (status : WhatsAppMessageStatus)
    (at_ : ℤ) :
    (row.stamp status at_).id = row.id ∧ (row.stamp status at_).storeId = row.storeId ∧
      (row.stamp status at_).cost = row.cost ∧
      (row.stamp status at_).providerMessageId = row.providerMessageId := by
  cases status <;> exact ⟨rfl, rfl, rfl, rfl⟩

end Zomaal.WhatsApp
