/-
**Persisting a page of orders.**

The rows as they were, read first, drive what comes last: the events of the orders whose status
changed, the cash-on-delivery status of those whose payment status did, and the counters of the
customers.  In between the orders themselves are upserted, in a transaction of their own.  This
module embeds `persistOrders`, and of what it calls `nextCodStatus`, `refreshCodStatus`,
`recordNewOrder` and `recordCancellation`, as the list of its late calls, each a list of statements;
a failure may strike after any statement.  The orders are those of one connection.  How an order is
linked to its customer, and the search for duplicates, are left out.

Main results:

* `lineStatements_replace` — the statements are those of `replaceOrderLines`.
-/

import Zomaal.CustomerIdentity
import Zomaal.PlatformOrders

set_option autoImplicit false

namespace Zomaal

open JsText

/-! ### The cash-on-delivery status -/

inductive CodStatus
  | pending
  | collected
  | failed
  deriving DecidableEq

structure CodShipment where
  normalizedStatus : ShippingShipmentStatus
  situation : Option String := none

def failedShipmentStatuses : List ShippingShipmentStatus :=
  [.cancelled, .refused, .returnedToSeller, .returnedToWarehouse, .returnInspection,
    .returnedToStock]

def courierPaidSituations : List String := ["PAID", "PAYE", "REGLE"]

/-- What the sync finds around it: its store, the phone library, the case of letters, the
identifiers of new rows, and the catalogue. -/
structure SyncEnvironment where
  storeId : String
  directory : CustomerDirectory
  toLowerCase : String → String
  normalizeSituation : String → String
  newOrderId : String → String
  created : String → CreatedRows
  catalogue : List SkuVariant

namespace SyncEnvironment

variable (env : SyncEnvironment)

def isCourierPaidSituation (situation : Option String) : Bool :=
  (truthy situation).any fun text => env.normalizeSituation text ∈ courierPaidSituations

/-- `nextCodStatus`, of an order that has a status. -/
def nextCodStatus (current : CodStatus) (financialStatus : EcommercePaymentStatus)
    (shipment : Option CodShipment) : CodStatus :=
  if current = .collected then .collected
  else if env.isCourierPaidSituation (shipment.bind CodShipment.situation) then .collected
  else if shipment.map CodShipment.normalizedStatus = some .delivered ∧
      financialStatus = .paid then .collected
  else if shipment.any fun parcel => parcel.normalizedStatus ∈ failedShipmentStatuses then .failed
  else .pending

end SyncEnvironment

/-! ### The rows -/

/-- The row of an order, with its events, its lines and its parcel. -/
structure StoredOrder where
  id : String
  data : OrderData
  codStatus : Option CodStatus := none
  shipment : Option CodShipment := none
  events : List OrderEventRow := []
  lines : List OrderLineRow := []

def StoredOrder.externalOrderId (order : StoredOrder) : String := order.data.externalOrderId

def StoredOrder.refreshCodStatus (env : SyncEnvironment) (order : StoredOrder) : StoredOrder :=
  { order with
    codStatus := order.codStatus.map fun current =>
      env.nextCodStatus current order.data.financialStatus order.shipment }

/-- The orders of the connection, the customers, whether the store warns of blacklisted customers,
and the orders that were cancelled as duplicates. -/
structure SyncDb where
  orders : List StoredOrder := []
  book : CustomerBook := {}
  warnOnNewOrder : Bool := true
  cancelledDuplicates : List String := []

def SyncDb.order (db : SyncDb) (externalOrderId : String) : Option StoredOrder :=
  KeyedRows.lookup StoredOrder.externalOrderId externalOrderId db.orders

structure SyncPage where
  platform : EcommercePlatform
  orders : List NormalizedEcommerceOrder

def SyncEnvironment.upsertOrder (env : SyncEnvironment) (orders : List StoredOrder)
    (incoming : NormalizedEcommerceOrder) : List StoredOrder :=
  let data := incoming.toOrderData
  if (KeyedRows.lookup StoredOrder.externalOrderId data.externalOrderId orders).isSome then
    KeyedRows.change StoredOrder.externalOrderId data.externalOrderId
      (fun order => { order with data }) orders
  else orders ++ [{ id := env.newOrderId data.externalOrderId, data }]

def SyncEnvironment.upsertOrders (env : SyncEnvironment) (page : SyncPage)
    (orders : List StoredOrder) : List StoredOrder :=
  page.orders.foldl env.upsertOrder orders

/-! ### The customers of a page -/

structure OrderCustomer where
  phone : String
  isBlacklisted : Bool

def NormalizedEcommerceOrder.customerParams (incoming : NormalizedEcommerceOrder) :
    CustomerParams :=
  { phone := incoming.customerPhone, name := some incoming.customerName }

def SyncEnvironment.resolveCustomer (env : SyncEnvironment) (incoming : NormalizedEcommerceOrder) :
    Command CustomerError CustomerBook (String × Option OrderCustomer) := fun book =>
  match book.upsertCustomer env.directory env.storeId incoming.customerParams with
  | .error error => (.error error, book)
  | .ok none => (.ok (incoming.externalOrderId, none), book)
  | .ok (some (phone, resolved)) =>
    let row := KeyedRows.lookup Customer.key (env.storeId, phone) resolved.customers
    (.ok (incoming.externalOrderId, row.map fun customer =>
      { phone, isBlacklisted := customer.isBlacklisted }), resolved)

def SyncEnvironment.resolveCustomers (env : SyncEnvironment)
    (orders : List NormalizedEcommerceOrder) :
    Command CustomerError CustomerBook (List (String × Option OrderCustomer)) :=
  Command.mapEach orders env.resolveCustomer

/-- `customerByOrder.get`: the last that was set for an order. -/
def customerByOrder (customers : List (String × Option OrderCustomer)) (externalOrderId : String) :
    Option OrderCustomer :=
  (customers.findRev? fun entry => entry.1 = externalOrderId).bind Prod.snd

/-! ### What is written after the orders -/

inductive LateStatement
  | writeLines (externalOrderId : String) (write : List OrderLineRow → List OrderLineRow)
  | storeEvents (externalOrderId : String) (events : List OrderEventRow)
  | refreshCodStatus (externalOrderId : String)
  | countOrder (phone : String)
  | countCancellation (phone : String)
  | blacklist (phone : String)

/-- The customer is blacklisted, when a counter has crossed the limit. -/
def CustomerBook.autoBlacklist (book : CustomerBook) (storeId phone : String) : CustomerBook :=
  book.updateCustomer storeId phone fun customer =>
    if customer.isBlacklisted then customer
    else if customer.evaluateThreshold (book.settings storeId) then
      { customer with
        isBlacklisted := true
        blacklistReason := some customer.autoBlacklistReason }
    else customer

namespace SyncDb

def changeOrder (db : SyncDb) (externalOrderId : String) (change : StoredOrder → StoredOrder) :
    SyncDb :=
  { db with
    orders := KeyedRows.change StoredOrder.externalOrderId externalOrderId change db.orders }

def write (env : SyncEnvironment) (db : SyncDb) : LateStatement → SyncDb
  | .writeLines externalOrderId write =>
    db.changeOrder externalOrderId fun order => { order with lines := write order.lines }
  | .storeEvents externalOrderId events =>
    db.changeOrder externalOrderId fun order =>
      { order with events := upsertEvents order.events events }
  | .refreshCodStatus externalOrderId =>
    db.changeOrder externalOrderId (StoredOrder.refreshCodStatus env)
  | .countOrder phone =>
    { db with
      book := db.book.updateCustomer env.storeId phone fun customer =>
        { customer with totalOrders := customer.totalOrders + 1 } }
  | .countCancellation phone =>
    { db with
      book := db.book.updateCustomer env.storeId phone fun customer =>
        customer.increment .cancellations }
  | .blacklist phone => { db with book := db.book.autoBlacklist env.storeId phone }

end SyncDb

/-- A call after the upsert of the orders; the failure of one that is logged does not stop the
sync. -/
structure LateCall where
  logged : Bool := true
  statements : List LateStatement

/-- The statements of `replaceOrderLines`: the rows that the platform dropped are deleted, those it
still has are updated one by one, and the new ones are created. -/
def lineStatements (created : CreatedRows) (lines : List OrderLineWrite) :
    List (List OrderLineRow → List OrderLineRow) :=
  [fun rows => keptRows rows lines] ++
    lines.map (fun line => KeyedRows.change OrderLineRow.externalLineId line.externalLineId
      fun row => row.update line) ++
    [fun rows => rows ++ createMany created (newLines rows lines)]

def EcommercePlatform.diffed : EcommercePlatform → Option DiffedPlatform
  | .shopify => none
  | .youcan => some .youcan
  | .lightfunnels => some .lightfunnels
  | .manual => none

def blacklistWarning (orderId : String) (occurredAt : ℤ) : OrderEventRow where
  type := .customerBlacklistedWarning
  occurredAt := occurredAt
  providerEventId := "system-blacklist-warning-" ++ orderId
  source := .system

namespace SyncEnvironment

variable (env : SyncEnvironment) (page : SyncPage)

def lineCall (incoming : NormalizedEcommerceOrder) : LateCall where
  logged := false
  statements :=
    if incoming.lines.isEmpty then []
    else
      let read := syncVariants env.catalogue (page.orders.map NormalizedEcommerceOrder.lines)
      let lines := incoming.lines.map (NormalizedOrderLine.linked env.toLowerCase read)
      (lineStatements (env.created incoming.externalOrderId) lines).map
        (LateStatement.writeLines incoming.externalOrderId)

/-- `detectAndStoreChanges`; a new order has no prior state to compare with. -/
def timelineCall (incoming : NormalizedEcommerceOrder) (previous : Option StoredOrder) :
    LateCall where
  statements :=
    match page.platform.diffed, previous with
    | some platform, some previous =>
      let events := detectChanges env.toLowerCase platform previous.id previous.data
        incoming.toOrderData
      if events.isEmpty then [] else [.storeEvents incoming.externalOrderId events]
    | _, _ => []

/-- `refreshCodStatus`, when the payment status changed. -/
def codCall (incoming : NormalizedEcommerceOrder) (previous : Option StoredOrder) : LateCall where
  statements :=
    match previous with
    | none => []
    | some previous =>
      if previous.data.financialStatus = incoming.financialStatus then []
      else [.refreshCodStatus incoming.externalOrderId]

/-- `recordNewOrder`. -/
def newOrderStatements (warnOnNewOrder : Bool) (customer : OrderCustomer)
    (incoming : NormalizedEcommerceOrder) : List LateStatement :=
  .countOrder customer.phone ::
    if customer.isBlacklisted && warnOnNewOrder then
      [.storeEvents incoming.externalOrderId
        [blacklistWarning (env.newOrderId incoming.externalOrderId) incoming.providerUpdatedAt]]
    else []

/-- `recordCancellation`: a duplicate that the merchant cancelled does not count. -/
def cancellationStatements (cancelledDuplicates : List String) (customer : OrderCustomer)
    (orderId : String) : List LateStatement :=
  if orderId ∈ cancelledDuplicates then []
  else [.countCancellation customer.phone, .blacklist customer.phone]

def customerCall (db : SyncDb) (incoming : NormalizedEcommerceOrder)
    (previous : Option StoredOrder) (customer : Option OrderCustomer) : LateCall where
  statements :=
    match customer, previous with
    | none, _ => []
    | some customer, none => env.newOrderStatements db.warnOnNewOrder customer incoming
    | some customer, some previous =>
      if previous.data.status ≠ .cancelled ∧ incoming.status = .cancelled then
        cancellationStatements db.cancelledDuplicates customer previous.id
      else []

def lateCalls (db : SyncDb) (customers : List (String × Option OrderCustomer)) : List LateCall :=
  page.orders.map (env.lineCall page) ++
    page.orders.map (fun incoming =>
      env.timelineCall page incoming (db.order incoming.externalOrderId)) ++
    page.orders.map (fun incoming => codCall incoming (db.order incoming.externalOrderId)) ++
    page.orders.map (fun incoming =>
      env.customerCall db incoming (db.order incoming.externalOrderId)
        (customerByOrder customers incoming.externalOrderId))

end SyncEnvironment

/-! ### Failures -/

/-- What befalls a call: nothing, or after some of its statements it fails, or the process dies. -/
inductive CallFault
  | none
  | fails (after : ℕ)
  | dies (after : ℕ)

namespace LateCall

variable (call : LateCall)

def done : CallFault → List LateStatement
  | .none => call.statements
  | .fails after => call.statements.take after
  | .dies after => call.statements.take after

def missed : CallFault → List LateStatement
  | .none => []
  | .fails after => call.statements.drop after
  | .dies after => call.statements.drop after

def stops : CallFault → Bool
  | .none => false
  | .fails after => !call.logged && after < call.statements.length
  | .dies _ => true

end LateCall

/-- Where an attempt to persist a page fails: before the orders are upserted, with some customers
resolved, or in its late calls. -/
structure SyncFaults where
  early : Option ℕ := none
  late : List CallFault := []

inductive SyncError
  | stopped
  | customer (error : CustomerError)

def nextFault (faults : List CallFault) : CallFault := faults.headD .none

def finishPage (env : SyncEnvironment) :
    List CallFault → List LateCall → SyncDb → Except SyncError Unit × SyncDb
  | _, [], db => (.ok (), db)
  | faults, call :: calls, db =>
    let written := (call.done (nextFault faults)).foldl (SyncDb.write env) db
    if call.stops (nextFault faults) then (.error .stopped, written)
    else finishPage env faults.tail calls written

/-- **`persistOrders`**: an attempt to persist a page, with its failures. -/
def persistOrders (env : SyncEnvironment) (page : SyncPage) (faults : SyncFaults) (db : SyncDb) :
    Except SyncError Unit × SyncDb :=
  if page.orders.isEmpty then (.ok (), db)
  else
    match faults.early with
    | some resolved =>
      (.error .stopped,
        { db with book := (env.resolveCustomers (page.orders.take resolved)).final db.book })
    | none =>
      match env.resolveCustomers page.orders db.book with
      | (.error error, book) => (.error (.customer error), { db with book })
      | (.ok customers, book) =>
        finishPage env faults.late (env.lateCalls page db customers)
          { db with book, orders := env.upsertOrders page db.orders }

/-! ### The statements and the functions they are from -/

theorem lineStatements_replace (created : CreatedRows) (rows : List OrderLineRow)
    (lines : List OrderLineWrite) :
    (lineStatements created lines).foldl (fun rows write => write rows) rows =
      replaceOrderLines created rows lines := by
  have hupdated : ∀ rows' : List OrderLineRow,
      ((lines.map fun line => KeyedRows.change OrderLineRow.externalLineId line.externalLineId
        fun row => row.update line).foldl (fun rows write => write rows) rows') =
        rows'.map (OrderLineRow.apply lines) := by
    intro rows'
    rw [List.foldl_map]
    exact KeyedRows.foldl_change OrderLineRow.externalLineId (fun line => line.externalLineId)
      (fun line row => row.update line) lines rows'
  -- deleting what the platform dropped makes no line item new
  have hkeys : OrderLineRow.externalLineId ∘ OrderLineRow.apply lines =
      OrderLineRow.externalLineId := funext fun row => (row.apply_spec lines).1
  have hnew : newLines ((keptRows rows lines).map (OrderLineRow.apply lines)) lines =
      newLines rows lines := by
    refine List.filter_congr fun line hline => decide_eq_decide.2 (not_congr ?_)
    rw [List.map_map, hkeys]
    constructor
    · intro h
      obtain ⟨row, hrow, hid⟩ := List.mem_map.1 h
      exact List.mem_map.2 ⟨row, (List.mem_filter.1 hrow).1, hid⟩
    · intro h
      obtain ⟨row, hrow, hid⟩ := List.mem_map.1 h
      refine List.mem_map.2 ⟨row, List.mem_filter.2 ⟨hrow, ?_⟩, hid⟩
      rw [hid, decide_eq_true (List.mem_map_of_mem hline)]
      rfl
  rw [lineStatements, List.foldl_append, List.foldl_append, hupdated, replaceOrderLines_eq]
  exact congrArg (fun lines' => (keptRows rows lines).map (OrderLineRow.apply lines) ++
    createMany created lines') hnew

theorem cancellationStatements_increment (env : SyncEnvironment) (db : SyncDb) (phone : String) :
    ((db.write env (.countCancellation phone)).write env (.blacklist phone)).book =
      db.book.incrementRiskCounter env.storeId phone .cancellations := by
  have hkey : ∀ row : Customer, (row.increment .cancellations).key = row.key := fun _ => rfl
  rw [CustomerBook.incrementRiskCounter, SyncDb.write, SyncDb.write, CustomerBook.autoBlacklist,
    CustomerBook.updateCustomer, CustomerBook.updateCustomer, CustomerBook.updateCustomer]
  dsimp only
  rw [KeyedRows.change_change Customer.key hkey]

end Zomaal
