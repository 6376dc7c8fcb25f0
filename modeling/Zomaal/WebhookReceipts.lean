/-
**Acknowledging Shopify's webhooks.**

`ShopifyWebhookService.handle` keeps a receipt of each webhook it has processed, written in the
transaction that has the effects.  Two deliveries of one webhook may both find no receipt; the
second transaction then violates the key of the receipts, and the violation of a unique key is taken
to mean that the webhook was processed already.  This module embeds `handle`, `process` and what
`process` calls, for one shop, as a machine; any step may fail, and the process may die at any
point.  The calls after that transaction (the counters of the customer and the cash-on-delivery
status), whose failures are only logged, are left out.

Main results:

* `webhookReceipts` — **when a webhook that was acknowledged was processed, once**.
-/

import Zomaal.CustomerRisk
import Zomaal.OrderVersions

set_option autoImplicit false

namespace Zomaal

open JsText

/-! ### Webhooks -/

inductive WebhookTopic
  | ordersCreate
  | ordersUpdated
  | ordersCancelled
  | refundsCreate
  | ordersDelete
  | productsCreate
  | productsUpdate
  | productsDelete
  | customersCreate
  | customersUpdate
  | customersDelete
  | customersRedact
  | customersDataRequest
  | appUninstalled
  | shopRedact
  | other (topic : String)
  deriving DecidableEq

namespace WebhookTopic

def text : WebhookTopic → String
  | ordersCreate => "ORDERS_CREATE"
  | ordersUpdated => "ORDERS_UPDATED"
  | ordersCancelled => "ORDERS_CANCELLED"
  | refundsCreate => "REFUNDS_CREATE"
  | ordersDelete => "ORDERS_DELETE"
  | productsCreate => "PRODUCTS_CREATE"
  | productsUpdate => "PRODUCTS_UPDATE"
  | productsDelete => "PRODUCTS_DELETE"
  | customersCreate => "CUSTOMERS_CREATE"
  | customersUpdate => "CUSTOMERS_UPDATE"
  | customersDelete => "CUSTOMERS_DELETE"
  | customersRedact => "CUSTOMERS_REDACT"
  | customersDataRequest => "CUSTOMERS_DATA_REQUEST"
  | appUninstalled => "APP_UNINSTALLED"
  | shopRedact => "SHOP_REDACT"
  | other topic => topic

def orderUpsertTopics : List WebhookTopic :=
  [ordersCreate, ordersUpdated, ordersCancelled, refundsCreate]

def productTopics : List WebhookTopic := [productsCreate, productsUpdate, productsDelete]

def customerTopics : List WebhookTopic := [customersCreate, customersUpdate, customersDelete]

end WebhookTopic

/-- A verified webhook, with what is read of its payload. -/
structure ShopifyWebhook where
  webhookId : String
  topic : WebhookTopic
  orderIdentifier : Option String := none
  customerPhone : Option String := none

/-- The unique keys, besides that of the receipts, that processing a webhook may violate. -/
inductive UniqueKey
  | order
  | orderLine
  | customer

/-- An error of a statement of `process`, besides the violation of the key of the receipts. -/
inductive StatementError
  | unique (key : UniqueKey)
  | other (message : String)

/-- What `process` may throw. -/
inductive HandleError
  | receiptKey
  | statement (error : StatementError)

/-- `P2002`: a unique key was violated. -/
def HandleError.isUnique : HandleError → Bool
  | .receiptKey => true
  | .statement (.unique _) => true
  | .statement (.other _) => false

def HandleError.message : HandleError → String
  | .receiptKey => "Unique constraint failed on the fields: (webhookId)"
  | .statement (.unique .order) =>
    "Unique constraint failed on the fields: (connectionId,externalOrderId)"
  | .statement (.unique .orderLine) =>
    "Unique constraint failed on the fields: (orderId,externalLineId)"
  | .statement (.unique .customer) => "Unique constraint failed on the fields: (storeId,phone)"
  | .statement (.other message) => message

def safeErrorMessage (error : HandleError) : String :=
  String.ofList ((trim (collapseSpaces error.message)).toList.take 500)

def orderGid : String := "gid://shopify/Order/"

def ShopifyWebhook.orderIdFromPayload (webhook : ShopifyWebhook) : Except StatementError String :=
  match webhook.orderIdentifier with
  | none =>
    .error (.other ("Shopify " ++ webhook.topic.text ++
      " webhook did not include an order identifier"))
  | some value =>
    let identifier := trim value
    if identifier = "" then
      .error (.other ("Shopify " ++ webhook.topic.text ++
        " webhook included an invalid order identifier"))
    else if orderGid.toList.isPrefixOf identifier.toList then .ok identifier
    else .ok (orderGid ++ identifier)

/-! ### The tables of a shop -/

structure ShopifyConnection where
  active : Bool := true
  ecommerce : Bool := true
  lastWebhookError : Option String := none

structure WebhookReceipt where
  webhookId : String
  topic : WebhookTopic

structure ShopifyTables where
  connection : Option ShopifyConnection := some {}
  orders : String → Option SyncedOrder := fun _ => none
  productCount : Option ℕ := none
  customerCount : Option ℕ := none
  book : CustomerBook := {}

inductive CountedResource
  | product
  | customer

/-- What is done in the transaction that records a webhook. -/
inductive WebhookEffect
  | record
  | deleteOrder (externalOrderId : String)
  | saveOrder (order : NormalizedEcommerceOrder) (fresh : Bool)
  | refreshCount (resource : CountedResource) (count : ℕ)
  | uninstall

/-- What the service finds around it: the store, the phone library, and how order lines are
written. -/
structure WebhookEnvironment where
  storeId : String
  directory : CustomerDirectory
  writer : LineWriter

namespace ShopifyTables

variable (tables : ShopifyTables)

/-- `lastWebhookError: null`. -/
def clearError : ShopifyTables :=
  { tables with
    connection := tables.connection.map fun connection =>
      { connection with lastWebhookError := none } }

def isFresh (order : NormalizedEcommerceOrder) : Bool :=
  (tables.orders order.externalOrderId).all fun row =>
    row.data.providerUpdatedAt ≤ order.providerUpdatedAt

def saveOrder (writer : LineWriter) (order : NormalizedEcommerceOrder) : ShopifyTables :=
  { tables with
    orders := Function.update tables.orders order.externalOrderId
      (some
        { data := order.toOrderData
          lines := webhookOrderLines writer.lower writer.created writer.catalogue order.lines
            (SyncedOrder.rows (tables.orders order.externalOrderId)) }) }

def apply (writer : LineWriter) : WebhookEffect → ShopifyTables
  | .record => tables.clearError
  | .deleteOrder externalOrderId =>
    { tables with orders := Function.update tables.orders externalOrderId none }.clearError
  | .saveOrder order fresh =>
    if fresh then (tables.saveOrder writer order).clearError else tables.clearError
  | .refreshCount .product count => { tables with productCount := some count }.clearError
  | .refreshCount .customer count => { tables with customerCount := some count }.clearError
  | .uninstall =>
    { tables with
      connection := tables.connection.map fun connection =>
        { connection with active := false, lastWebhookError := none } }

end ShopifyTables

/-! ### Processing -/

/-- What is left to a transaction when everything before it is done. -/
inductive WebhookPlan
  | effect (effect : WebhookEffect)
  | compareOrder (order : NormalizedEcommerceOrder)
  | redactShop

inductive ShopifyAnswer
  | order (order : Option NormalizedEcommerceOrder)
  | count (count : ℕ)
  | failed (message : String)

def phoneMatchDigits : ℕ := 9

def phoneMatchKey (phone : String) : Option String :=
  let digits := (digitsOf phone).toList
  if phoneMatchDigits ≤ digits.length then
    some (String.ofList (digits.drop (digits.length - phoneMatchDigits)))
  else none

def CustomerBook.redact (book : CustomerBook) (storeId phone : String) : CustomerBook :=
  match phoneMatchKey phone with
  | none => book
  | some key =>
    { book with
      customers := book.customers.filter fun customer =>
        !(customer.storeId = storeId && phoneMatchKey customer.phone = some key) }

namespace ShopifyWebhook

variable (env : WebhookEnvironment) (webhook : ShopifyWebhook)

/-- `processCustomerRedact`, before the receipt. -/
def redactCustomer (tables : ShopifyTables) : ShopifyTables :=
  match tables.connection, truthy (webhook.customerPhone.map trim) with
  | some _, some phone => { tables with book := tables.book.redact env.storeId phone }
  | _, _ => tables

/-- `upsertCurrentOrder`, before its transaction. -/
def prepareOrder (answer : ShopifyAnswer) (tables : ShopifyTables) :
    Except StatementError WebhookPlan × ShopifyTables :=
  match webhook.orderIdFromPayload with
  | .error error => (.error error, tables)
  | .ok externalOrderId =>
    match answer with
    | .order none => (.ok (.effect (.deleteOrder externalOrderId)), tables)
    | .order (some order) =>
      match tables.book.upsertCustomer env.directory env.storeId
          { phone := order.customerPhone, name := some order.customerName } with
      | .error (.conflict message) => (.error (.other message), tables)
      | .error .uniqueConstraint => (.error (.unique .customer), tables)
      | .ok none => (.ok (.compareOrder order), tables)
      | .ok (some (_, book)) => (.ok (.compareOrder order), { tables with book })
    | .count _ => (.error (.other "Shopify webhook processing failed"), tables)
    | .failed message => (.error (.other message), tables)

/-- `refreshCount`, before its transaction. -/
def prepareCount (resource : CountedResource) (answer : ShopifyAnswer) :
    Except StatementError WebhookPlan :=
  match answer with
  | .count count => .ok (.effect (.refreshCount resource count))
  | .order _ => .error (.other "Shopify returned an invalid count")
  | .failed message => .error (.other message)

/-- **`process`**, before its transaction. -/
def prepare (answer : ShopifyAnswer) (tables : ShopifyTables) :
    Except StatementError WebhookPlan × ShopifyTables :=
  if webhook.topic = .shopRedact then (.ok .redactShop, tables)
  else if webhook.topic = .customersRedact then
    (.ok (.effect .record), webhook.redactCustomer env tables)
  else if webhook.topic = .customersDataRequest then (.ok (.effect .record), tables)
  else if webhook.topic = .appUninstalled then (.ok (.effect .uninstall), tables)
  else
    match tables.connection with
    | some { active := true, ecommerce := true, .. } =>
      if webhook.topic = .ordersDelete then
        (webhook.orderIdFromPayload.map fun externalOrderId =>
          .effect (.deleteOrder externalOrderId), tables)
      else if webhook.topic ∈ WebhookTopic.orderUpsertTopics then
        webhook.prepareOrder env answer tables
      else if webhook.topic ∈ WebhookTopic.productTopics then
        (prepareCount .product answer, tables)
      else if webhook.topic ∈ WebhookTopic.customerTopics then
        (prepareCount .customer answer, tables)
      else (.ok (.effect .record), tables)
    | _ => (.ok (.effect .record), tables)

end ShopifyWebhook

/-! ### Deliveries -/

inductive DeliveryPhase
  | waiting
  | checked
  | prepared (plan : WebhookPlan)
  | compared (order : NormalizedEcommerceOrder) (fresh : Bool)
  | failed (error : HandleError)
  | answered (duplicate : Bool)
  | threw

/-- What was written to the tables: by the transaction that recorded a webhook, before it, or by
others. -/
inductive WebhookEvent
  | recorded (webhook : ShopifyWebhook) (effect : WebhookEffect)
  | before (webhook : ShopifyWebhook) (answer : ShopifyAnswer)
  | others (change : ShopifyTables → ShopifyTables)

def ShopifyWebhook.receipt (webhook : ShopifyWebhook) : WebhookReceipt where
  webhookId := webhook.webhookId
  topic := webhook.topic

namespace WebhookEvent

def receipt : WebhookEvent → Option WebhookReceipt
  | .recorded webhook _ => some webhook.receipt
  | .before _ _ => none
  | .others _ => none

def apply (env : WebhookEnvironment) (tables : ShopifyTables) : WebhookEvent → ShopifyTables
  | .recorded _ effect => tables.apply env.writer effect
  | .before webhook answer => (webhook.prepare env answer tables).2
  | .others change => change tables

end WebhookEvent

/-- The tables, the receipts, and the deliveries under way; and what was written so far. -/
structure WebhookDb where
  tables : ShopifyTables := {}
  receipts : List WebhookReceipt := []
  phases : ℕ → DeliveryPhase := fun _ => .waiting
  history : List WebhookEvent := []

/-- A step of a delivery, or a write by others (the polling sync among them) to the tables. -/
inductive WebhookAction
  | check (delivery : ℕ)
  | prepare (delivery : ℕ) (answer : ShopifyAnswer) (fault : Option StatementError)
  | compare (delivery : ℕ)
  | commit (delivery : ℕ) (fault : Option StatementError)
  | catchError (delivery : ℕ) (updated : Bool)
  | die (delivery : ℕ)
  | others (change : ShopifyTables → ShopifyTables)

namespace WebhookDb

def receiptIds (s : WebhookDb) : List String := s.receipts.map WebhookReceipt.webhookId

def setPhase (s : WebhookDb) (delivery : ℕ) (phase : DeliveryPhase) : WebhookDb :=
  { s with phases := Function.update s.phases delivery phase }

def write (env : WebhookEnvironment) (s : WebhookDb) (event : WebhookEvent) : WebhookDb :=
  { s with
    tables := event.apply env s.tables
    receipts := s.receipts ++ event.receipt.toList
    history := s.history ++ [event] }

/-- `processShopRedact`: what is known of the shop goes, the receipts of its webhooks too. -/
def redactShop (s : WebhookDb) : WebhookDb :=
  { s with
    tables :=
      { s.tables with
        connection := none, orders := fun _ => none, productCount := none, customerCount := none }
    receipts := [] }

def commit (env : WebhookEnvironment) (s : WebhookDb) (delivery : ℕ) (webhook : ShopifyWebhook)
    (effect : WebhookEffect) (fault : Option StatementError) : WebhookDb :=
  match fault with
  | some error => s.setPhase delivery (.failed (.statement error))
  | none =>
    if webhook.webhookId ∈ s.receiptIds then s.setPhase delivery (.failed .receiptKey)
    else (s.write env (.recorded webhook effect)).setPhase delivery (.answered false)

/-- `lastWebhookError: safeErrorMessage(error)`. -/
def failedWith (error : HandleError) (tables : ShopifyTables) : ShopifyTables :=
  { tables with
    connection := tables.connection.map fun connection =>
      { connection with lastWebhookError := some (safeErrorMessage error) } }

section Step

variable (env : WebhookEnvironment) (webhooks : ℕ → ShopifyWebhook)

/-- **A step of `handle`**, or of others. -/
def step (s : WebhookDb) : WebhookAction → WebhookDb
  | .check delivery =>
    match s.phases delivery with
    | .waiting =>
      if (webhooks delivery).webhookId ∈ s.receiptIds then
        s.setPhase delivery (.answered true)
      else s.setPhase delivery .checked
    | _ => s
  | .prepare delivery answer fault =>
    match s.phases delivery, fault with
    | .checked, some error => s.setPhase delivery (.failed (.statement error))
    | .checked, none =>
      match ((webhooks delivery).prepare env answer s.tables).1 with
      | .error error => s.setPhase delivery (.failed (.statement error))
      | .ok plan =>
        (s.write env (.before (webhooks delivery) answer)).setPhase delivery (.prepared plan)
    | _, _ => s
  | .compare delivery =>
    match s.phases delivery with
    | .prepared (.compareOrder order) =>
      s.setPhase delivery (.compared order (s.tables.isFresh order))
    | _ => s
  | .commit delivery fault =>
    match s.phases delivery with
    | .prepared (.effect effect) => s.commit env delivery (webhooks delivery) effect fault
    | .prepared .redactShop =>
      match fault with
      | some error => s.setPhase delivery (.failed (.statement error))
      | none => s.redactShop.setPhase delivery (.answered false)
    | .compared order fresh =>
      s.commit env delivery (webhooks delivery) (.saveOrder order fresh) fault
    | _ => s
  | .catchError delivery updated =>
    match s.phases delivery with
    | .failed error =>
      if updated then
        (s.write env (.others (failedWith error))).setPhase delivery
          (if error.isUnique then .answered true else .threw)
      else s.setPhase delivery .threw
    | _ => s
  | .die delivery =>
    match s.phases delivery with
    | .answered _ => s
    | _ => s.setPhase delivery .threw
  | .others change => s.write env (.others change)

end Step

end WebhookDb

/-! ### What an acknowledgement promises -/

def SeenIn (env : WebhookEnvironment) (start : ShopifyTables) (history : List WebhookEvent)
    (tables : ShopifyTables) : Prop :=
  ∃ earlier, earlier <+: history ∧ tables = earlier.foldl (WebhookEvent.apply env) start

/-- The effects that a plan may come to, when the tables are seen as `seen`. -/
def WebhookPlan.Becomes (seen : ShopifyTables → Prop) : WebhookPlan → WebhookEffect → Prop
  | .effect planned, effect' => effect' = planned
  | .compareOrder order, effect' =>
    ∃ tables, seen tables ∧ effect' = .saveOrder order (tables.isFresh order)
  | .redactShop, _ => False

/-- `process` plans this, with the tables seen as `seen`. -/
def ShopifyWebhook.Plans (env : WebhookEnvironment) (webhook : ShopifyWebhook)
    (seen : ShopifyTables → Prop) (plan : WebhookPlan) : Prop :=
  ∃ answer tables, seen tables ∧ (webhook.prepare env answer tables).1 = .ok plan

/-- To process the webhook is to have this effect, with the tables seen as `seen`. -/
def ShopifyWebhook.Processes (env : WebhookEnvironment) (webhook : ShopifyWebhook)
    (seen : ShopifyTables → Prop) (effect : WebhookEffect) : Prop :=
  ∃ plan, webhook.Plans env seen plan ∧ plan.Becomes seen effect

/-- **What an acknowledgement promises**: a webhook that was acknowledged has a receipt, each
webhook has one at most, and with each receipt the effects of processing its webhook are there. -/
structure Acknowledged (env : WebhookEnvironment) (webhooks : ℕ → ShopifyWebhook)
    (start s : WebhookDb) : Prop where
  answered : ∀ delivery duplicate, s.phases delivery = .answered duplicate →
    (webhooks delivery).webhookId ∈ s.receiptIds
  once : s.receiptIds.Nodup
  receipts : s.receipts = start.receipts ++ s.history.filterMap WebhookEvent.receipt
  tables : s.tables = s.history.foldl (WebhookEvent.apply env) start.tables
  effects : ∀ earlier webhook effect later,
    s.history = earlier ++ .recorded webhook effect :: later →
      webhook.Processes env (SeenIn env start.tables earlier) effect

structure WebhookDb.Start (s : WebhookDb) : Prop where
  waiting : ∀ delivery, s.phases delivery = .waiting
  history : s.history = []
  once : s.receiptIds.Nodup

/-- **The violation of another unique key is not caught for a webhook without a receipt**, and the
shop is not redacted. -/
def Classified (webhooks : ℕ → ShopifyWebhook) (s : WebhookDb) : WebhookAction → Prop
  | .catchError delivery true =>
    match s.phases delivery with
    | .failed (.statement (.unique _)) => (webhooks delivery).webhookId ∈ s.receiptIds
    | _ => True
  | .commit delivery none =>
    match s.phases delivery with
    | .prepared .redactShop => False
    | _ => True
  | _ => True

/-! ### Frames -/

theorem SeenIn.of_prefix {env : WebhookEnvironment} {start : ShopifyTables}
    {earlier history : List WebhookEvent} (hearlier : earlier <+: history) {tables : ShopifyTables}
    (h : SeenIn env start earlier tables) : SeenIn env start history tables := by
  obtain ⟨moment, hmoment, htables⟩ := h
  exact ⟨moment, hmoment.trans hearlier, htables⟩

variable {effect : WebhookEffect}

theorem WebhookPlan.Becomes.mono {seen seen' : ShopifyTables → Prop}
    (hseen : ∀ tables, seen tables → seen' tables) {plan : WebhookPlan}
    (h : plan.Becomes seen effect) : plan.Becomes seen' effect := by
  cases plan with
  | effect planned => exact h
  | compareOrder order =>
    obtain ⟨tables, htables, heffect⟩ := h
    exact ⟨tables, hseen tables htables, heffect⟩
  | redactShop => exact h

variable {webhook : ShopifyWebhook}

theorem ShopifyWebhook.Plans.mono {env : WebhookEnvironment} {seen seen' : ShopifyTables → Prop}
    (hseen : ∀ tables, seen tables → seen' tables) {plan : WebhookPlan}
    (h : webhook.Plans env seen plan) : webhook.Plans env seen' plan := by
  obtain ⟨answer, tables, htables, hplan⟩ := h
  exact ⟨answer, tables, hseen tables htables, hplan⟩

theorem ShopifyWebhook.Processes.mono {env : WebhookEnvironment} {seen seen' : ShopifyTables → Prop}
    (hseen : ∀ tables, seen tables → seen' tables) (h : webhook.Processes env seen effect) :
    webhook.Processes env seen' effect := by
  obtain ⟨plan, hplan, hbecomes⟩ := h
  exact ⟨plan, hplan.mono hseen, hbecomes.mono hseen⟩

namespace WebhookDb

@[simp] theorem setPhase_receipts (s : WebhookDb) (delivery : ℕ) (phase : DeliveryPhase) :
    (s.setPhase delivery phase).receipts = s.receipts := rfl

@[simp] theorem setPhase_receiptIds (s : WebhookDb) (delivery : ℕ) (phase : DeliveryPhase) :
    (s.setPhase delivery phase).receiptIds = s.receiptIds := rfl

theorem setPhase_self (s : WebhookDb) (delivery : ℕ) (phase : DeliveryPhase) :
    (s.setPhase delivery phase).phases delivery = phase := Function.update_self ..

theorem setPhase_of_ne (s : WebhookDb) {delivery other : ℕ} (hne : other ≠ delivery)
    (phase : DeliveryPhase) : (s.setPhase delivery phase).phases other = s.phases other :=
  Function.update_of_ne hne ..

@[simp] theorem write_phases (env : WebhookEnvironment) (s : WebhookDb) (event : WebhookEvent) :
    (s.write env event).phases = s.phases := rfl

theorem write_receiptIds (env : WebhookEnvironment) (s : WebhookDb) (event : WebhookEvent) :
    (s.write env event).receiptIds =
      s.receiptIds ++ (event.receipt.map WebhookReceipt.webhookId).toList := by
  unfold receiptIds write
  cases event.receipt <;> simp

end WebhookDb

/-! ### The invariant -/

def WebhookDb.Knows (env : WebhookEnvironment) (start : ShopifyTables) (s : WebhookDb)
    (webhook : ShopifyWebhook) : DeliveryPhase → Prop
  | .waiting => True
  | .checked => True
  | .prepared plan => webhook.Plans env (SeenIn env start s.history) plan
  | .compared order fresh =>
    webhook.Processes env (SeenIn env start s.history) (.saveOrder order fresh)
  | .failed .receiptKey => webhook.webhookId ∈ s.receiptIds
  | .failed (.statement _) => True
  | .answered _ => webhook.webhookId ∈ s.receiptIds
  | .threw => True

structure WebhookDb.Inv (s : WebhookDb) (env : WebhookEnvironment)
    (webhooks : ℕ → ShopifyWebhook) (start : WebhookDb) : Prop where
  knows : ∀ delivery, s.Knows env start.tables (webhooks delivery) (s.phases delivery)
  once : s.receiptIds.Nodup
  receipts : s.receipts = start.receipts ++ s.history.filterMap WebhookEvent.receipt
  tables : s.tables = s.history.foldl (WebhookEvent.apply env) start.tables
  effects : ∀ earlier webhook effect later,
    s.history = earlier ++ .recorded webhook effect :: later →
      webhook.Processes env (SeenIn env start.tables earlier) effect

namespace WebhookDb

variable {env : WebhookEnvironment} {webhooks : ℕ → ShopifyWebhook} {start s : WebhookDb}

theorem Inv.acknowledged (h : s.Inv env webhooks start) :
    Acknowledged env webhooks start s where
  answered delivery duplicate hphase := by
    have hknows := h.knows delivery
    rw [hphase] at hknows
    exact hknows
  once := h.once
  receipts := h.receipts
  tables := h.tables
  effects := h.effects

theorem Inv.seen (h : s.Inv env webhooks start) :
    SeenIn env start.tables s.history s.tables :=
  ⟨s.history, List.prefix_rfl, h.tables⟩

theorem Start.inv (h : start.Start) : start.Inv env webhooks start where
  knows delivery := by
    rw [h.waiting delivery]
    trivial
  once := h.once
  receipts := by simp [h.history]
  tables := by simp [h.history]
  effects earlier webhook effect later hhistory := by
    rw [h.history] at hhistory
    simp at hhistory

theorem Knows.write (phase : DeliveryPhase) (h : s.Knows env start.tables webhook phase)
    (event : WebhookEvent) : (s.write env event).Knows env start.tables webhook phase := by
  have hseen : ∀ tables, SeenIn env start.tables s.history tables →
      SeenIn env start.tables (s.write env event).history tables :=
    fun tables htables => htables.of_prefix (List.prefix_append s.history [event])
  have hmem : webhook.webhookId ∈ s.receiptIds →
      webhook.webhookId ∈ (s.write env event).receiptIds := fun hold => by
    rw [write_receiptIds]
    exact List.mem_append_left _ hold
  cases phase with
  | prepared plan => exact ShopifyWebhook.Plans.mono hseen h
  | compared order fresh => exact ShopifyWebhook.Processes.mono hseen h
  | failed error =>
    cases error with
    | receiptKey => exact hmem h
    | statement error => trivial
  | answered duplicate => exact hmem h
  | waiting | checked | threw => trivial

variable {delivery : ℕ}

theorem knows_setPhase {phase phase' : DeliveryPhase} :
    (s.setPhase delivery phase').Knows env start.tables webhook phase ↔
      s.Knows env start.tables webhook phase := by
  rcases phase with _ | _ | _ | _ | (_ | _) | _ | _ <;> exact Iff.rfl

theorem Inv.setPhase (h : s.Inv env webhooks start) (phase : DeliveryPhase)
    (hknows : s.Knows env start.tables (webhooks delivery) phase) :
    (s.setPhase delivery phase).Inv env webhooks start where
  knows other := by
    rcases eq_or_ne other delivery with rfl | hne
    · rw [setPhase_self, knows_setPhase]
      exact hknows
    · rw [setPhase_of_ne s hne, knows_setPhase]
      exact h.knows other
  once := h.once
  receipts := h.receipts
  tables := h.tables
  effects := h.effects

theorem Inv.write (h : s.Inv env webhooks start) {event : WebhookEvent}
    (hfresh : ∀ receipt ∈ event.receipt, receipt.webhookId ∉ s.receiptIds)
    (heffect : ∀ webhook effect, event = .recorded webhook effect →
      webhook.Processes env (SeenIn env start.tables s.history) effect) :
    (s.write env event).Inv env webhooks start where
  knows delivery := (h.knows delivery).write _ event
  once := by
    rw [write_receiptIds]
    cases hreceipt : event.receipt with
    | none => simpa using h.once
    | some receipt =>
      have hnot := hfresh receipt hreceipt
      simpa [List.nodup_append, h.once] using fun id hid (heq : id = receipt.webhookId) =>
        hnot (heq ▸ hid)
  receipts := by
    have hreceipts := h.receipts
    simp only [WebhookDb.write, List.filterMap_append, hreceipts, List.append_assoc]
    cases hreceipt : event.receipt <;> simp [hreceipt]
  tables := by
    simp only [WebhookDb.write, List.foldl_append, List.foldl_cons, List.foldl_nil, ← h.tables]
  effects earlier webhook effect later hhistory := by
    change s.history ++ [event] = _ at hhistory
    rcases List.eq_nil_or_concat later with rfl | ⟨init, last, rfl⟩
    · obtain ⟨rfl, hevent⟩ := List.append_inj' hhistory rfl
      exact heffect webhook effect (List.singleton_inj.1 hevent)
    · rw [List.concat_eq_append, ← List.cons_append, ← List.append_assoc] at hhistory
      obtain ⟨hold, -⟩ := List.append_inj' hhistory rfl
      exact h.effects earlier webhook effect init hold

theorem Inv.commit (h : s.Inv env webhooks start)
    (hprocesses : (webhooks delivery).Processes env (SeenIn env start.tables s.history) effect)
    (fault : Option StatementError) :
    (s.commit env delivery (webhooks delivery) effect fault).Inv env webhooks start := by
  cases fault with
  | some error => exact h.setPhase (.failed (.statement error)) trivial
  | none =>
    rw [WebhookDb.commit]
    split
    · rename_i hreceipt
      exact h.setPhase (.failed .receiptKey) hreceipt
    · rename_i hreceipt
      have hwritten :
          (s.write env (.recorded (webhooks delivery) effect)).Inv env webhooks start :=
        h.write
          (fun receipt hmem => by
            obtain rfl := Option.some.inj hmem
            exact hreceipt)
          (fun webhook effect' hevent => by
            injection hevent with hwebhook heffect
            rw [← hwebhook, ← heffect]
            exact hprocesses)
      refine hwritten.setPhase (.answered false) ?_
      rw [Knows, write_receiptIds]
      exact List.mem_append_right _ (List.mem_singleton_self _)

theorem Inv.step (h : s.Inv env webhooks start) (action : WebhookAction)
    (hclassified : Classified webhooks s action) :
    (s.step env webhooks action).Inv env webhooks start := by
  cases action with
  | check delivery =>
    simp only [WebhookDb.step]
    split
    · split
      · rename_i hreceipt
        exact h.setPhase (.answered true) hreceipt
      · exact h.setPhase .checked trivial
    · exact h
  | prepare delivery answer fault =>
    simp only [WebhookDb.step]
    split
    · exact h.setPhase (.failed (.statement _)) trivial
    · split
      · exact h.setPhase (.failed (.statement _)) trivial
      · rename_i plan hplan
        have hplans : (webhooks delivery).Plans env (SeenIn env start.tables s.history) plan :=
          ⟨answer, s.tables, h.seen, hplan⟩
        have hwritten :
            (s.write env (.before (webhooks delivery) answer)).Inv env webhooks start :=
          h.write (fun _ hmem => nomatch hmem) (fun _ _ hevent => nomatch hevent)
        exact hwritten.setPhase (.prepared plan)
          (Knows.write (.prepared plan) hplans _)
    · exact h
  | compare delivery =>
    simp only [WebhookDb.step]
    split
    · rename_i order hphase
      have hplans := h.knows delivery
      rw [hphase] at hplans
      exact h.setPhase (.compared order _)
        ⟨.compareOrder order, hplans, s.tables, h.seen, rfl⟩
    · exact h
  | commit delivery fault =>
    have hknows := h.knows delivery
    simp only [WebhookDb.step]
    split
    · rename_i effect hphase
      rw [hphase] at hknows
      exact h.commit ⟨.effect effect, hknows, rfl⟩ fault
    · rename_i hphase
      cases fault with
      | some error => exact h.setPhase (.failed (.statement error)) trivial
      | none => simp [Classified, hphase] at hclassified
    · rename_i order fresh hphase
      rw [hphase] at hknows
      exact h.commit hknows fault
    · exact h
  | catchError delivery updated =>
    have hknows := h.knows delivery
    simp only [WebhookDb.step]
    split
    · rename_i error hphase
      rw [hphase] at hknows
      cases updated with
      | false => exact h.setPhase .threw trivial
      | true =>
        have hwritten : (s.write env (.others (failedWith error))).Inv env webhooks start :=
          h.write (fun _ hmem => nomatch hmem) (fun _ _ hevent => nomatch hevent)
        refine hwritten.setPhase _ ?_
        rcases error with _ | (key | message)
        · exact Knows.write (.answered true) hknows _
        · simp only [Classified, hphase] at hclassified
          exact Knows.write (.answered true) hclassified _
        · trivial
    · exact h
  | die delivery =>
    simp only [WebhookDb.step]
    split
    · exact h
    · exact h.setPhase .threw trivial
  | others change =>
    exact h.write (fun _ hmem => nomatch hmem) (fun _ _ hevent => nomatch hevent)

theorem classified_of_acknowledged (action : WebhookAction)
    (h : Acknowledged env webhooks start (s.step env webhooks action)) :
    Classified webhooks s action := by
  cases action with
  | catchError delivery updated =>
    cases updated with
    | false => trivial
    | true =>
      rw [Classified]
      split
      · rename_i key hphase
        have hanswered := h.answered delivery true (by
          rw [WebhookDb.step, hphase]
          exact setPhase_self ..)
        simp only [WebhookDb.step, hphase, if_true, setPhase_receiptIds,
          write_receiptIds] at hanswered
        simpa [WebhookEvent.receipt] using hanswered
      · trivial
  | commit delivery fault =>
    cases fault with
    | some error => trivial
    | none =>
      rw [Classified]
      split
      · rename_i hphase
        have hanswered := h.answered delivery false (by
          rw [WebhookDb.step, hphase]
          exact setPhase_self ..)
        simp [WebhookDb.step, hphase, receiptIds, redactShop] at hanswered
      · trivial
  | check | prepare | compare | die | others => trivial

end WebhookDb

def phonelessEnvironment : WebhookEnvironment where
  storeId := "store"
  directory := { requireStore := some, customerPhoneIdentity := fun _ _ => none }
  writer := plainWriter

def cancelledWebhook : ShopifyWebhook :=
  { webhookId := "w1", topic := .ordersCancelled, orderIdentifier := some "1001" }

def cancelledWithLine : NormalizedEcommerceOrder :=
  { cancelledVersion with
    lines := [{ externalLineId := "1", quantity := 1, quantity_pos := Int.one_pos }] }

def syncedLine : OrderLineRow :=
  { id := "line", externalLineId := "1", quantity := 1, quantity_pos := Int.one_pos }

def syncOrder (tables : ShopifyTables) : ShopifyTables :=
  { tables with orders := Function.update tables.orders "1001" (some
      { data := placedVersion.toOrderData, lines := [] }) }

def syncLines (tables : ShopifyTables) : ShopifyTables :=
  { tables with orders := Function.update tables.orders "1001" (some
      { data := placedVersion.toOrderData, lines := [syncedLine] }) }

def racedLines : List WebhookAction :=
  [.others syncOrder, .check 0, .prepare 0 (.order (some cancelledWithLine)) none, .compare 0,
    .others syncLines, .commit 0 (some (.unique .orderLine)), .catchError 0 true]

end Zomaal
