/-
**The owner's stock alerts.**

A worker claims a row of the outbox that is due, reads what it needs, and then blocks the alert,
ends it, or counts an attempt and sends a message; a row that has been claimed for ten minutes is
taken from its worker, which does not know that.  This module runs `PackagingOwnerAlertService`
about one alert, statement by statement, with any number of workers; clock readings are arbitrary.
-/

import Zomaal.Store
import Zomaal.ThreadPool

set_option autoImplicit false

namespace Zomaal

/-! ### The answers of the provider -/

structure MetaGraphError where
  httpStatus : ℕ
  code : Option ℤ := none

def transientErrorCodes : List ℤ := [1, 2, 4, 17, 341, 130429, 131000, 131016, 131048, 131056]

def MetaGraphError.isTransient (error : MetaGraphError) : Bool :=
  error.httpStatus = 429 || 500 ≤ error.httpStatus || error.httpStatus = 0 ||
    error.code.any (· ∈ transientErrorCodes)

def MetaGraphError.errorCode (error : MetaGraphError) : String :=
  match error.code with
  | some code => toString code
  | none => "HTTP_" ++ toString error.httpStatus

/-- How a call ends: with the id of a message, or an error, which is one of Meta's or another. -/
abbrev SendAnswer := Except (Option MetaGraphError) String

def SendAnswer.rejected : SendAnswer → Option MetaGraphError
  | .error (some error) =>
    if 400 ≤ error.httpStatus ∧ error.httpStatus < 500 then some error else none
  | _ => none

/-- What becomes of a message, and what the worker hears of it.  A message that is explicitly
rejected is known not to have been accepted. -/
structure SendOutcome where
  accepted : Bool
  answer : SendAnswer
  rejected_not_accepted : answer.rejected.isSome → accepted = false

/-! ### What is decided before -/

inductive AlertStatus
  | pending | sending | blocked | sent | unknown | failed | cancelled
  deriving DecidableEq

inductive StockNotificationType
  | lowStock | outOfStock
  deriving DecidableEq

structure MaterialBalance where
  onHand : ℤ
  reserved : ℤ
  damaged : ℤ

/-- An active packaging material with its alert switched on. -/
structure AlertMaterial where
  name : String
  unit : String
  minimumLevel : ℤ
  balances : Option (List MaterialBalance)

structure AlertConnection where
  active : Bool
  encryptedAccessToken : Option String
  accessTokenExpiresAt : Option ℤ

structure AlertTemplate where
  name : String
  language : String
  approved : Bool

/-- What `deliver` reads besides the alert: valid phone numbers in international form, and the
templates if the token could be read and Meta has listed them. -/
structure AlertView where
  type : StockNotificationType
  material : Option AlertMaterial
  enabled : Bool
  connection : Option AlertConnection
  templateName : String
  language : String
  recipient : Option String
  sender : Option String
  templates : Option (List AlertTemplate)

inductive AlertVerdict
  | finish (status : AlertStatus) (code : String)
  | block (code : String)
  | send

def AlertView.available (view : AlertView) : ℤ :=
  match view.material.bind (·.balances) with
  | some balances => balances.foldl (fun sum b => sum + b.onHand - b.reserved - b.damaged) 0
  | none => 0

def AlertView.current (view : AlertView) : Bool :=
  match view.material with
  | none => false
  | some material =>
    view.available ≤ material.minimumLevel &&
      decide (view.type = .outOfStock) == decide (view.available ≤ 0)

def AlertConnection.usable (now : ℤ) (connection : AlertConnection) : Bool :=
  connection.active && connection.encryptedAccessToken.any (· ≠ "") &&
    connection.accessTokenExpiresAt.all (now < ·)

/-- What `deliver` decides before it looks at the notification once more. -/
def preflight (now : ℤ) (resolved : Bool) (view : AlertView) : AlertVerdict :=
  if resolved || !view.current then .finish .cancelled "CONDITION_RESOLVED"
  else if !view.enabled then .block "WHATSAPP_DISABLED"
  else if !view.connection.any (·.usable now) then .block "WHATSAPP_NOT_CONNECTED"
  else if view.templateName = "" then .block "TEMPLATE_NOT_CONFIGURED"
  else
    match view.recipient with
    | none => .block "OWNER_PHONE_INVALID"
    | some recipient =>
      if view.sender = some recipient then .block "SENDER_IS_RECIPIENT"
      else
        match view.templates with
        | none => .block "WHATSAPP_PREFLIGHT_FAILED"
        | some templates =>
          if templates.any fun template => template.name = view.templateName &&
              template.language = view.language && template.approved
          then .send
          else .block "TEMPLATE_NOT_APPROVED"

/-! ### The statements -/

def alertRetryMs : ℤ := 15 * 60 * 1000

structure OwnerAlert where
  status : AlertStatus := .pending
  attempts : ℕ := 0
  nextAttemptAt : ℤ
  providerMessageId : Option String := none
  lastErrorCode : Option String := none
  sentAt : Option ℤ := none
  updatedAt : ℤ

structure AlertRows where
  resolved : Bool := false
  alert : Option OwnerAlert := none
  accepted : ℕ := 0

/-- A worker at work on the alert, and how far `deliver` has come; with the number of attempts that
it has read. -/
inductive AlertWorker
  | claimed
  | checking (attempts : ℕ) (resolved : Bool)
  | rechecking (attempts : ℕ)
  | counting (attempts : ℕ)
  | sending (attempts : ℕ)
  | finishing (status : AlertStatus) (code : String)
  | blocking (code : String)
  | retrying (code : String)
  | sent (messageId : String)
  | done
  deriving DecidableEq

variable (rows : AlertRows)

def AlertRows.update (change : OwnerAlert → OwnerAlert) : AlertRows :=
  { rows with alert := rows.alert.map change }

def AlertWorker.answered (attempts : ℕ) (answer : SendAnswer) : AlertWorker :=
  match answer with
  | .ok messageId => .sent messageId
  | .error _ =>
    match answer.rejected with
    | none => .finishing .unknown "SEND_OUTCOME_UNKNOWN"
    | some error =>
      if error.isTransient && attempts + 1 < 3 then .retrying error.errorCode
      else .finishing .failed error.errorCode

def AlertVerdict.next (attempts : ℕ) : AlertVerdict → AlertWorker
  | .finish status code => .finishing status code
  | .block code => .blocking code
  | .send => .rechecking attempts

/-- The next statement of `deliver`, at a time. -/
def AlertWorker.turn (now : ℤ) (view : AlertView) (outcome : SendOutcome) (rows : AlertRows) :
    AlertWorker → AlertRows × AlertWorker
  | .claimed =>
    (rows,
      match rows.alert with
      | none => .done
      | some alert => .checking alert.attempts rows.resolved)
  | .checking attempts resolved => (rows, (preflight now resolved view).next attempts)
  | .rechecking attempts =>
    (rows,
      if rows.resolved then .finishing .cancelled "CONDITION_RESOLVED" else .counting attempts)
  | .counting attempts =>
    (rows.update fun alert => { alert with attempts := alert.attempts + 1, updatedAt := now },
      .sending attempts)
  | .sending attempts =>
    ({ rows with accepted := rows.accepted + if outcome.accepted then 1 else 0 },
      .answered attempts outcome.answer)
  | .finishing status code =>
    (rows.update fun alert =>
      { alert with status := status, lastErrorCode := some code, updatedAt := now }, .done)
  | .blocking code =>
    (rows.update fun alert =>
      { alert with
        status := .blocked, lastErrorCode := some code
        nextAttemptAt := now + alertRetryMs, updatedAt := now }, .done)
  | .retrying code =>
    (rows.update fun alert =>
      { alert with
        status := .pending, lastErrorCode := some code
        nextAttemptAt := now + alertRetryMs, updatedAt := now }, .done)
  | .sent messageId =>
    (rows.update fun alert =>
      { alert with
        status := .sent, providerMessageId := some messageId, sentAt := some now
        lastErrorCode := none, updatedAt := now }, .done)
  | .done => (rows, .done)

/-- The rows that `dispatchDue` may claim. -/
def AlertRows.due (now : ℤ) : Bool :=
  !rows.resolved && rows.alert.any fun alert =>
    (alert.status = .pending || alert.status = .blocked) && alert.nextAttemptAt ≤ now

/-- The notification is resolved or raised again; `syncStore` cancels and creates alerts;
`dispatchDue` takes rows from slow workers and claims rows; a worker has its turn. -/
inductive AlertAction
  | resolve (resolved : Bool)
  | cancelResolved (now : ℤ)
  | createAlert (now : ℤ)
  | sweep (now : ℤ)
  | claim (now : ℤ)
  | turn (i : ℕ) (now : ℤ) (view : AlertView) (outcome : SendOutcome)

abbrev AlertPool := ThreadPool AlertRows AlertWorker

def AlertRows.updateIf (condition : OwnerAlert → Bool) (change : OwnerAlert → OwnerAlert)
    : AlertRows :=
  rows.update fun alert => if condition alert then change alert else alert

def AlertPool.step (w : AlertPool) : AlertAction → AlertPool
  | .resolve resolved => w.write { w.shared with resolved }
  | .cancelResolved now =>
    w.write (w.shared.updateIf
      (fun alert => w.shared.resolved &&
        (alert.status = .pending || alert.status = .blocked || alert.status = .failed))
      fun alert =>
        { alert with
          status := .cancelled, lastErrorCode := some "CONDITION_RESOLVED", updatedAt := now })
  | .createAlert now =>
    w.write { w.shared with
      alert := w.shared.alert.or (some { nextAttemptAt := now, updatedAt := now }) }
  | .sweep now =>
    w.write (w.shared.updateIf
      (fun alert => alert.status = .sending && alert.updatedAt < now - 10 * 60 * 1000)
      fun alert =>
        { alert with
          status := .unknown, lastErrorCode := some "SEND_OUTCOME_UNKNOWN", updatedAt := now })
  | .claim now =>
    if w.shared.due now then
      (w.write (w.shared.update fun alert =>
        { alert with status := .sending, updatedAt := now })).spawn .claimed
    else w
  | .turn i now view outcome =>
    match w.threads[i]? with
    | some worker =>
      let turn := worker.turn now view outcome w.shared
      w.move i turn.1 turn.2
    | none => w

end Zomaal
