/-
**The order ledger: what the couriers report, turned into revenue and profit.**

The ledger of an order is append-only, every row has a key, and a key that an order has already used
is not used again.  This module embeds `EcommerceOrderFinancialService` and the terminal outcome of
`order-status.util.ts`.
-/

import Zomaal.OrderCosts
import Zomaal.OrderStock

set_option autoImplicit false

namespace Zomaal

/-! ### Writing a row -/

namespace Store

def findEvent (s : Store) (orderId idempotencyKey : String) : Option FinancialEvent :=
  s.financialEvents.find? fun event =>
    event.orderId = orderId ∧ event.idempotencyKey = idempotencyKey

def latestEvent (s : Store) (orderId : String) (type : FinancialEventType) :
    Option FinancialEvent :=
  s.financialEvents.findRev? fun event => event.orderId = orderId ∧ event.type = type

end Store

def uuid (n : ℕ) : String := "uuid-" ++ toString n

def randomUUID : Service String := fun s => (.ok (uuid s.uuids), { s with uuids := s.uuids + 1 })

variable (data : FinancialEventData)

def FinancialEventData.stored : FinancialEventData :=
  { data with
    revenue := toFixed4 data.revenue
    productCost := toFixed4 data.productCost
    shippingCost := toFixed4 data.shippingCost
    damageCost := toFixed4 data.damageCost
    giftCost := toFixed4 data.giftCost
    packagingCost := toFixed4 data.packagingCost
    netProfitImpact := toFixed4 data.netProfitImpact }

/-- `create`: a key that the order has already used breaks the unique constraint. -/
def createEvent : Service FinancialEvent := do
  let id ← randomUUID
  match ← Command.ask fun s => s.findEvent data.orderId data.idempotencyKey with
  | some _ => Command.fail .uniqueConstraint
  | none => do
      let event : FinancialEvent := { data.stored with id }
      Command.modify fun s => { s with financialEvents := s.financialEvents ++ [event] }
      pure event

/-- `upsert` with an empty update: a row is immutable once stored. -/
def upsertEvent : Service FinancialEvent := do
  match ← Command.ask fun s => s.findEvent data.orderId data.idempotencyKey with
  | some event => pure event
  | none => createEvent data

/-! ### Line losses -/

def damageLossKey (lineId : String) : String := "damage-loss:" ++ lineId

def FinancialEvent.booksLossOf (orderId lineId : String) (event : FinancialEvent) : Bool :=
  event.orderId = orderId && (event.type = .damageLoss &&
    (event.idempotencyKey = damageLossKey lineId ||
      (damageLossKey lineId ++ ":").toList.isPrefixOf event.idempotencyKey.toList))

/-- Brings the booked loss of one order line to `targetLoss`: only the difference from what is
already booked is appended. -/
def setLineLoss (orderId lineId currency : String) (targetLoss : Decimal) (reason : String) :
    Service (Option FinancialEvent) := do
  let booked ← Command.ask fun s =>
    s.financialEvents.filter (FinancialEvent.booksLossOf orderId lineId)
  let delta := targetLoss - (booked.map fun event => event.damageCost).sum
  if delta = 0 then pure none
  else do
    let idempotencyKey ←
      if booked.isEmpty then pure (damageLossKey lineId)
      else do
        let id ← randomUUID
        pure (damageLossKey lineId ++ ":" ++ id)
    let event ← upsertEvent
      { orderId
        type := .damageLoss
        revenue := 0
        productCost := 0
        shippingCost := 0
        damageCost := delta
        netProfitImpact := -delta
        currency
        reason
        idempotencyKey }
    pure (some event)

/-! ### Revenue -/

def revenueRecognizedKey : String := "revenue-recognized"

def revenueReversedKey : String := "revenue-reversed"

def shippingLossKey : String := "shipping-loss"

/-- What a courier charges for a parcel, as its shipment or the timeline says. -/
structure ShipmentFee where
  fee : Option Decimal
  currency : Option String
  deriving DecidableEq

/-- What an evaluation knows besides the store: the runtime, the exchange rates, the packaging
prices. -/
structure Environment where
  locale : Locale
  currency : Option CurrencyService
  packaging : PackagingCatalog

variable (environment : Environment)

def Environment.convert : Converter :=
  requiredCurrencyConverter environment.locale environment.currency

def convertShipmentFee (shipment : Option ShipmentFee) (orderCurrency : String)
    : Except ServiceError (Option Decimal) :=
  match shipment.bind ShipmentFee.fee with
  | none => .ok none
  | some fee =>
    (environment.convert fee (shipment.bind ShipmentFee.currency) (some orderCurrency)).map some

def convertedCosts (order : EcommerceOrder) :
    Except ServiceError OrderLineCosts := do
  let packagingUnitCosts ← resolvePackagingUnitCosts environment.packaging
    (packagingMaterialIds order.lines) order.currency environment.convert
  let costs := totalCosts order.lines packagingUnitCosts
  let productCost ← environment.convert costs.productCost (some order.baseCurrency)
    (some order.currency)
  let giftCost ← environment.convert costs.giftCost (some order.baseCurrency) (some order.currency)
  pure { costs with productCost, giftCost }

def recognitionData (order : EcommerceOrder) (costs : OrderLineCosts) (shippingCost : Decimal) :
    FinancialEventData where
  orderId := order.id
  type := .revenueRecognized
  revenue := order.totalCollected
  productCost := costs.productCost
  shippingCost := shippingCost
  damageCost := 0
  giftCost := costs.giftCost
  packagingCost := costs.packagingCost
  netProfitImpact := order.totalCollected - costs.productCost - shippingCost - costs.giftCost -
    costs.packagingCost
  currency := order.currency
  reason := "Carrier marked shipment as delivered"
  idempotencyKey := revenueRecognizedKey

/-- The row that reinstates what a reversal undid; costs that were incurred stay. -/
def reinstatementData (order : EcommerceOrder) (recognized reversal : FinancialEvent) :
    FinancialEventData where
  orderId := order.id
  type := .revenueReinstated
  revenue := recognized.revenue
  productCost := recognized.productCost
  shippingCost := 0
  damageCost := 0
  netProfitImpact := recognized.revenue - recognized.productCost
  currency := order.currency
  reason := "Later courier delivery corrects a previous reversal; incurred costs retained"
  idempotencyKey := "revenue-reinstated:" ++ reversal.id

variable (orderId currency : String)

/-- The row that reverses the revenue of an order; shipping, gift and packaging stay spent. -/
def reversalData (recognized : FinancialEvent) (key : String) :
    FinancialEventData where
  orderId := orderId
  type := .revenueReversed
  revenue := recognized.revenue
  productCost := recognized.productCost
  shippingCost := 0
  damageCost := 0
  netProfitImpact := -(recognized.netProfitImpact + recognized.shippingCost +
    recognized.giftCost + recognized.packagingCost)
  currency := currency
  reason := "Carrier marked shipment as cancelled/refused/returned after being delivered"
  idempotencyKey := key

/-- The row of a parcel that came back without having been delivered. -/
def shippingLossData (shippingCost : Decimal) :
    FinancialEventData where
  orderId := orderId
  type := .shippingLoss
  revenue := 0
  productCost := 0
  shippingCost := shippingCost
  damageCost := 0
  netProfitImpact := -shippingCost
  currency := currency
  reason := "Parcel refused or returned before delivery; shipping still paid"
  idempotencyKey := shippingLossKey

/-- A delivery: revenue is recognised once, and reinstated after a reversal. The courier's fee is
preferred to the customer's, and is not charged again after a shipping loss. -/
def applyRevenueRecognition (order : EcommerceOrder) (shipment : Option ShipmentFee)
    : Service FinancialEvent := do
  match ← Command.ask fun s => s.findEvent order.id revenueRecognizedKey with
  | some existing => do
      match ← Command.ask fun s => s.latestEvent order.id .revenueReversed with
      | none => pure existing
      | some reversal => upsertEvent (reinstatementData order existing reversal)
  | none => do
      let costs ← Command.lift (convertedCosts environment order)
      let shippingLoss ← Command.ask fun s => s.findEvent order.id shippingLossKey
      let shippingCost ←
        if shippingLoss.isSome then pure 0
        else do
          let fee ← Command.lift (convertShipmentFee environment shipment order.currency)
          pure (fee.getD order.shipping)
      createEvent (recognitionData order costs shippingCost)

def reversalKey (orderId : String) : Service (FinancialEvent ⊕ String) := do
  match ← Command.ask fun s => s.findEvent orderId revenueReversedKey with
  | none => pure (.inr revenueReversedKey)
  | some existing => do
      match ← Command.ask fun s => s.latestEvent orderId .revenueReinstated with
      | none => pure (.inl existing)
      | some reinstated => do
          let key := "revenue-reversed:" ++ reinstated.id
          match ← Command.ask fun s => s.findEvent orderId key with
          | some correction => pure (.inl correction)
          | none => pure (.inr key)

/-- A failure: what was recognised is reversed, once for every time it was recognised. -/
def applyRevenueReversal : Service (Option FinancialEvent) := do
  match ← reversalKey orderId with
  | .inl existing => pure (some existing)
  | .inr key => do
      match ← Command.ask fun s => s.findEvent orderId revenueRecognizedKey with
      | none => pure none
      | some recognized => do
          let event ← createEvent (reversalData orderId currency recognized key)
          pure (some event)

/-- A parcel that was refused or returned without having been delivered still cost its shipping. -/
def applyShippingLoss (orderId currency : String) (fallbackShipping : Decimal)
    (shipment : Option ShipmentFee) :
    Service (Option FinancialEvent) := do
  match ← Command.ask fun s => s.findEvent orderId revenueRecognizedKey with
  | some _ => pure none
  | none => do
      match ← Command.ask fun s => s.findEvent orderId shippingLossKey with
      | some existing => pure (some existing)
      | none => do
          let fee ← Command.lift (convertShipmentFee environment shipment currency)
          let shippingCost := fee.getD fallbackShipping
          if shippingCost ≤ 0 then pure none
          else do
            let event ← upsertEvent (shippingLossData orderId currency shippingCost)
            pure (some event)

/-! ### Outcomes -/

inductive ShippingShipmentStatus
  | pending
  | confirmed
  | pickupPending
  | pickedUp
  | atWarehouse
  | inTransit
  | outForDelivery
  | postponed
  | unreachable
  | delivered
  | cancelled
  | refused
  | returnPending
  | returnInTransit
  | returnedToWarehouse
  | returnInspection
  | returnedToStock
  | returnedToSeller
  | unknown
  deriving DecidableEq

inductive OrderEventType
  | orderCreated
  | orderConfirmed
  | orderCancelled
  | orderClosed
  | paymentPending
  | paymentAuthorized
  | paymentPaid
  | paymentPartiallyPaid
  | paymentRefunded
  | paymentVoided
  | fulfillmentPending
  | fulfillmentCreated
  | labelCreated
  | pickedUp
  | inTransit
  | outForDelivery
  | delivered
  | deliveryFailed
  | fulfillmentCancelled
  | returnRequested
  | returnInTransit
  | returned
  | customerBlacklistedWarning
  | duplicateOrderCancelled
  | other
  deriving DecidableEq

def ShippingShipmentStatus.terminalFailure (status : ShippingShipmentStatus) : Bool :=
  status ∈ [.cancelled, .refused, .returnedToSeller, .returnedToWarehouse, .returnInspection,
    .returnedToStock]

/-- `SHIPPED_FAILURE_STATUSES`: the parcel travelled and came back, so the courier still charges for
it. -/
def ShippingShipmentStatus.shippedFailure (status : ShippingShipmentStatus) : Bool :=
  status ∈ [.refused, .returnedToSeller, .returnedToWarehouse, .returnInspection,
    .returnedToStock]

def OrderEventType.terminalFailure (type : OrderEventType) : Bool :=
  type ∈ [.orderCancelled, .fulfillmentCancelled, .deliveryFailed, .returned]

def OrderEventType.shippedFailure (type : OrderEventType) : Bool :=
  type ∈ [.deliveryFailed, .returned]

structure CourierShipment where
  normalizedStatus : ShippingShipmentStatus
  fee : Option Decimal
  currency : String

def CourierShipment.shipmentFee (shipment : CourierShipment) : ShipmentFee where
  fee := shipment.fee
  currency := some shipment.currency

structure CourierDispatch where
  orderId : String
  senditShipment : Option CourierShipment := none
  quickLivraisonShipment : Option CourierShipment := none
  forceLogShipment : Option CourierShipment := none
  ozoneExpressShipment : Option CourierShipment := none

def pickCourierShipment (dispatch : CourierDispatch) : Option CourierShipment :=
  dispatch.senditShipment.or (dispatch.quickLivraisonShipment.or
    (dispatch.forceLogShipment.or dispatch.ozoneExpressShipment))

structure EventMetadata where
  carrier : Option String := none
  fee : Option Decimal := none
  currency : Option String := none
  deriving DecidableEq

structure TimelineEvent where
  type : OrderEventType
  occurredAt : ℤ
  metadata : Option EventMetadata := none
  deriving DecidableEq

variable (events : List TimelineEvent)

/-- Whichever of a delivery and the terminal failures happened last; of simultaneous ones the first
in the list. -/
def deriveTerminalOutcome : Option OrderEventType :=
  match events.filter fun event => event.type = .delivered || event.type.terminalFailure with
  | [] => none
  | first :: rest =>
    some (rest.foldl
      (fun latest event => if latest.occurredAt < event.occurredAt then event else latest)
      first).type

/-- What the latest event of the courier without a dispatch says about its fee. -/
def latestAmeexFee : Option ShipmentFee :=
  let latest := (events.mergeSort fun a b => b.occurredAt ≤ a.occurredAt).find? fun event =>
    (event.metadata.bind EventMetadata.carrier) = some "AMEEX"
  (latest.bind TimelineEvent.metadata).map fun metadata => ⟨metadata.fee, metadata.currency⟩

/-! ### Evaluations -/

inductive SyncReason
  | notDispatched
  | noCarrierStatusYet
  | inProgress
  | delivered
  | cancelled

structure SyncResult where
  applied : Bool
  reason : SyncReason
  shipmentStatus : Option (ShippingShipmentStatus ⊕ OrderEventType) := none

/-- An order was delivered: its revenue is recognised and its stock deducted. -/
def syncDelivered (order : EcommerceOrder) (shipment : Option ShipmentFee) (deliveredAt : Option ℤ)
    : Service Unit := do
  let _ ← applyRevenueRecognition environment order shipment
  deliverOrder order.id deliveredAt

/-- An order failed for good: its revenue is reversed, the shipping of a parcel that travelled is
booked, its stock is released. The answer says whether there is a reversal. -/
def syncFailed (order : EcommerceOrder) (travelled : Bool) (shipment : Option ShipmentFee)
    : Service Bool := do
  let event ← applyRevenueReversal order.id order.currency
  (if travelled then do
    let _ ← applyShippingLoss environment order.id order.currency order.shipping shipment
  else pure ())
  releaseOrder order.id
  pure event.isSome

/-- `syncFromDispatchIdLocked`: evaluate the outcome the courier reports. -/
def syncFromDispatchIdLocked (dispatch : Option CourierDispatch) :
    Service SyncResult := do
  match dispatch with
  | none => pure { applied := false, reason := .notDispatched }
  | some dispatch => do
      match ← Command.ask fun s => s.findOrder dispatch.orderId with
      | none => pure { applied := false, reason := .notDispatched }
      | some order =>
        match pickCourierShipment dispatch with
        | none => pure { applied := false, reason := .noCarrierStatusYet }
        | some shipment =>
          let status := some (Sum.inl shipment.normalizedStatus)
          if shipment.normalizedStatus = .delivered then do
            syncDelivered environment order (some shipment.shipmentFee) none
            pure { applied := true, reason := .delivered, shipmentStatus := status }
          else if shipment.normalizedStatus.terminalFailure then do
            let applied ← syncFailed environment order
              shipment.normalizedStatus.shippedFailure (some shipment.shipmentFee)
            pure { applied, reason := .cancelled, shipmentStatus := status }
          else pure { applied := false, reason := .inProgress, shipmentStatus := status }

/-- When the platform reports a delivery, the latest one counts. -/
def deliveredAt : ℤ :=
  (events.filter fun event => event.type = .delivered).foldl
    (fun latest event => if latest < event.occurredAt then event.occurredAt else latest) 0

/-- `syncFromTimelineEvents`: evaluate the outcome the timeline of an undispatched order tells. -/
def syncFromTimelineEvents (orderId : String) (events : List TimelineEvent)
    : Service SyncResult := do
  if events.isEmpty then pure { applied := false, reason := .notDispatched }
  else do
    match ← Command.ask fun s => s.findOrder orderId with
    | none => Command.fail (.notFound "No EcommerceOrder found")
    | some order =>
      match deriveTerminalOutcome events with
      | none => pure { applied := false, reason := .inProgress }
      | some currentStatus =>
        let status := some (Sum.inr currentStatus)
        if currentStatus = .delivered then do
          syncDelivered environment order (latestAmeexFee events) (some (deliveredAt events))
          pure { applied := true, reason := .delivered, shipmentStatus := status }
        else if currentStatus.terminalFailure then do
          let applied ← syncFailed environment order currentStatus.shippedFailure
            (latestAmeexFee events)
          pure { applied, reason := .cancelled, shipmentStatus := status }
        else pure { applied := false, reason := .inProgress, shipmentStatus := status }

/-! ### The sums of a ledger -/

structure LedgerSums where
  revenue : Decimal := 0
  productCost : Decimal := 0
  shippingCost : Decimal := 0
  damageCost : Decimal := 0
  giftCost : Decimal := 0
  packagingCost : Decimal := 0
  netProfit : Decimal := 0

/-- One row of a ledger, added up as `getSummary` does. -/
def LedgerSums.add (sums : LedgerSums) (event : FinancialEvent) : LedgerSums :=
  let sums := { sums with netProfit := sums.netProfit + event.netProfitImpact }
  match event.type with
  | .revenueRecognized | .revenueReinstated =>
    { sums with
      revenue := sums.revenue + event.revenue
      productCost := sums.productCost + event.productCost
      shippingCost := sums.shippingCost + event.shippingCost
      giftCost := sums.giftCost + event.giftCost
      packagingCost := sums.packagingCost + event.packagingCost }
  | .revenueReversed =>
    { sums with
      revenue := sums.revenue - event.revenue
      productCost := sums.productCost - event.productCost
      shippingCost := sums.shippingCost - event.shippingCost }
  | .damageLoss => { sums with damageCost := sums.damageCost + event.damageCost }
  | .shippingLoss => { sums with shippingCost := sums.shippingCost + event.shippingCost }

def Store.ledger (s : Store) (orderId : String) : List FinancialEvent :=
  s.financialEvents.filter fun event => event.orderId = orderId

/-- `getSummary`: the sums over the rows of an order. -/
def getSummary (orderId : String) (s : Store) : LedgerSums :=
  (s.ledger orderId).foldl LedgerSums.add {}

end Zomaal
