/-
**Delivering an order of the shop.**

When an order is delivered, its items become purchases of the merchant with an expense each, in the
transaction that changes the status.  Only after that transaction is each item credited as
packaging, in a transaction of its own; when that fails, the failure is logged and the next item's
turn comes.  This module embeds `advance`, `recordPurchases`, `creditPackagingFromDelivery` and
`cancel` of `shop-orders.service.ts`; of `cancel` it has what becomes of the order.
-/

import Zomaal.PackagingCredit
import Zomaal.ShopCheckout
import Zomaal.SignificantDigits

set_option autoImplicit false

namespace Zomaal.Purchasing

open Shop (ShopOrderStatus ShopOrderCancelledBy toDecimalPlaces2)

/-! ### The rows -/

inductive ShopPaymentMethod
  | cod
  | online
  deriving DecidableEq

inductive ShopPaymentStatus
  | unpaid
  | paid

structure ShopOrderItem where
  id : String
  productId : Option String
  variantId : Option String := none
  productName : String
  variantLabel : Option String := none
  unitLabel : String := "piece"
  imageUrl : Option String := none
  quantity : ℤ
  quantity_pos : 0 < quantity
  lineTotal : Decimal

structure ShopOrder where
  id : String
  number : ℕ
  storeId : String
  placedByUserId : Option String := none
  status : ShopOrderStatus := .pending
  paymentMethod : ShopPaymentMethod := .cod
  paymentStatus : ShopPaymentStatus := .unpaid
  currency : String
  total : Decimal
  trackingNumber : Option String := none
  confirmedAt : Option ℤ := none
  shippedAt : Option ℤ := none
  deliveredAt : Option ℤ := none
  cancelledAt : Option ℤ := none
  cancelledBy : Option ShopOrderCancelledBy := none
  cancelReason : Option String := none
  items : List ShopOrderItem := []

/-- A product of the shop's catalogue, as a delivery sees it. -/
structure CatalogueProduct where
  sku : Option String := none
  firstImage : Option String := none

structure Deliveries where
  books : Books := {}
  orders : List ShopOrder := []
  products : String → Option CatalogueProduct := fun _ => none
  /-- the stock-keeping unit of an option -/
  variants : String → Option (Option String) := fun _ => none
  baseCurrencies : String → Option String := fun _ => none
  /-- the items whose credit failed, with the error -/
  failures : List (String × PurchaseError) := []

/-! ### What an item costs -/

/-- `Precise`: decimals that compute with sixty digits. -/
def precise (x : ℚ) : ℚ := toSignificantDigits 60 x

/-- The share of an item in whole cents, and what was cut off. -/
structure CostShare where
  id : String
  cents : ℤ
  remainder : ℚ

/-- `b.remainder.comparedTo(a.remainder) || a.id.localeCompare(b.id)`. -/
def CostShare.before (localeCompare : String → String → Ordering) (a b : CostShare) : Bool :=
  b.remainder < a.remainder ∨ (a.remainder = b.remainder ∧ (localeCompare a.id b.id).isLE)

/-- What an item's share is taken by: its price, or its quantity when nothing costs anything. -/
def costWeight (items : List ShopOrderItem) (item : ShopOrderItem) : ℚ :=
  if sumDigits 60 (items.map ShopOrderItem.lineTotal) = 0 then (item.quantity : ℚ)
  else item.lineTotal

def costShare (cents weight weightTotal : ℚ) (id : String) : CostShare :=
  let exact := precise (precise (cents * weight) / weightTotal)
  { id, cents := ⌊exact⌋, remainder := precise (exact - ⌊exact⌋) }

def costShares (items : List ShopOrderItem) (cents : ℚ) : List CostShare :=
  let weightTotal := sumDigits 60 (items.map (costWeight items))
  items.map fun item => costShare cents (costWeight items item) weightTotal item.id

/-- The cost of the share in a row, where the first `left` rows have a cent more. -/
def CostShare.cost (left : ℚ) (share : CostShare) (row : ℕ) : Decimal :=
  precise ((if (row : ℚ) < left then precise (share.cents + 1) else (share.cents : ℚ)) / 100)

/-- Allocate the amount actually paid to the items: the cents left over by rounding down go to the
largest remainders, and of equal ones to those whose identifiers come first. -/
def allocateShopCosts (localeCompare : String → String → Ordering) (items : List ShopOrderItem)
    (total : Decimal) : Except PurchaseError (List (String × Decimal)) := do
  assertPersistedMoney total "Purchase cost"
  if items = [] then
    if total ≠ 0 then .error (.badRequest "Order has no items") else .ok []
  else
    let cents := precise (toDecimalPlaces2 total * 100)
    let shares := costShares items cents
    let left := precise (cents - sumDigits 60 (shares.map fun share => (share.cents : ℚ)))
    return (shares.mergeSort (CostShare.before localeCompare)).zipIdx.map fun row =>
      (row.1.id, row.1.cost left row.2)

def costOf (costs : List (String × Decimal)) (itemId : String) : Decimal :=
  ((costs.find? fun cost => cost.1 = itemId).map Prod.snd).getD 0

/-! ### Recording the purchases -/

def shopPaymentToExpense : ShopPaymentMethod → ExpensePaymentMethod
  | .online => .bank
  | .cod => .cash

def orderNumberLabel (number : ℕ) : String := "ZS-" ++ toString number

/-- `toDecimalPlaces(4)` of an amount that is not negative rounds as its column does. -/
def unitCost (cost : Decimal) (quantity : ℤ) : StoredMoney := store4 (cost / (quantity : ℚ))

/-- What the currency service answers for one unit of the order's currency, and its text. -/
structure ExchangeRate where
  value : ℚ
  text : String

variable (order : ShopOrder)

def purchaseNotes (item : ShopOrderItem) : String :=
  match item.variantLabel with
  | some label => "Zomaal Shop order " ++ orderNumberLabel order.number ++ " · " ++ label
  | none => "Zomaal Shop order " ++ orderNumberLabel order.number

/-- The note on the expense of an item, with both amounts and the rate. -/
def expenseNotes (item : ShopOrderItem) (purchaseCost expenseCost : Decimal) (rate : ExchangeRate)
    (baseCurrency : String) : String :=
  purchaseNotes order item ++ "\nAcquisition cost " ++ Shop.toFixed2 purchaseCost ++ " " ++
    order.currency ++ "; expense " ++ Shop.toFixed2 expenseCost ++ " " ++ baseCurrency ++
    "; FX " ++ rate.text ++ " " ++ baseCurrency ++ "/" ++ order.currency

/-- What is recorded of an order, once its costs are shared out. -/
structure Recording where
  order : ShopOrder
  deliveredAt : ℤ
  rate : ExchangeRate
  baseCurrency : String
  purchaseCosts : List (String × Decimal)
  expenseCosts : List (String × Decimal)
  /-- the items that were recorded before -/
  recorded : List String
  source : IdSource

def Recording.purchase (recording : Recording) (item : ShopOrderItem) (id expenseId : String) :
    MerchantPurchase :=
  let order := recording.order
  let cost := costOf recording.purchaseCosts item.id
  { id
    storeId := order.storeId
    source := .shop
    shopProductId := item.productId
    shopOrderItemId := some item.id
    productName := item.productName
    unitLabel := item.unitLabel
    imageUrl := item.imageUrl
    quantity := item.quantity
    unitPrice := unitCost cost item.quantity
    totalCost := store4 cost
    currency := order.currency
    purchaseDate := recording.deliveredAt
    notes := some (purchaseNotes order item)
    createdByUserId := order.placedByUserId
    expenseId := some expenseId }

namespace Books

variable (s : Books)

/-- One turn of `recordPurchases`: the expense of an item and its purchase, unless there is one. -/
def recordItem (recording : Recording) (item : ShopOrderItem) : Except PurchaseError Books :=
  if item.id ∈ recording.recorded then .ok s
  else do
    let order := recording.order
    let purchaseCost := costOf recording.purchaseCosts item.id
    let expenseCost := costOf recording.expenseCosts item.id
    let newCategoryId := recording.source.next s.drawn
    let newExpenseId := recording.source.next (newCategoryId :: s.drawn)
    let s ← s.createPurchaseExpense
      { storeId := order.storeId
        productName := item.productName
        amount := expenseCost
        paymentMethod := shopPaymentToExpense order.paymentMethod
        spentAt := recording.deliveredAt
        notes := some (expenseNotes order item purchaseCost expenseCost recording.rate
          recording.baseCurrency)
        createdByUserId := order.placedByUserId } newExpenseId newCategoryId
    let newPurchaseId := recording.source.next s.drawn
    let s ← s.draw newPurchaseId
    if s.purchases.any fun purchase => purchase.shopOrderItemId = some item.id then
      .error .uniqueConstraint
    else
      .ok { s with
        purchases := s.purchases ++ [recording.purchase item newPurchaseId newExpenseId] }

/-- `recordPurchases`; the identifiers are UUIDs, which any locale orders by their characters. -/
def recordPurchases (deliveredAt : ℤ) (rate : ExchangeRate) (baseCurrency : String)
    (source : IdSource) : Except PurchaseError Books := do
  let purchaseCosts ← allocateShopCosts compare order.items order.total
  let convertedTotal := toDecimalPlaces2 (order.total * rate.value)
  assertPersistedMoney convertedTotal "Converted purchase cost"
  let expenseCosts ← allocateShopCosts compare order.items convertedTotal
  let recorded := s.purchases.filterMap MerchantPurchase.shopOrderItemId
  let recording : Recording :=
    { order, deliveredAt, rate, baseCurrency, purchaseCosts, expenseCosts, recorded, source }
  order.items.foldlM (fun s item => s.recordItem recording item) s

end Books

/-! ### The calls -/

/-- Forward-only fulfilment path; an administrator may skip steps. -/
def forward : List ShopOrderStatus := [.pending, .confirmed, .shipped, .delivered]

def allowedFrom (status : ShopOrderStatus) : List ShopOrderStatus :=
  forward.takeWhile (· ≠ status)

/-- A call of `advance`, with what the currency service answers, the store's currency at that
moment, and what hinders the credit of an item. -/
structure AdvanceCall where
  orderId : String
  status : ShopOrderStatus
  trackingNumber : Option String := none
  now : ℤ := 0
  rate : Except PurchaseError ExchangeRate := .ok { value := 1, text := "1" }
  baseCurrency : Option String := none
  obstacle : String → Option PurchaseError := fun _ => none
  source : IdSource

def statusName : ShopOrderStatus → String
  | .pending => "PENDING"
  | .confirmed => "CONFIRMED"
  | .shipped => "SHIPPED"
  | .delivered => "DELIVERED"
  | .cancelled => "CANCELLED"

namespace ShopOrder

def advanced (call : AdvanceCall) : ShopOrder :=
  { order with
    status := call.status
    confirmedAt :=
      if call.status = .confirmed ∨ order.confirmedAt = none then some call.now
      else order.confirmedAt
    shippedAt :=
      if call.status = .shipped ∨ (call.status = .delivered ∧ order.shippedAt = none) then
        some call.now
      else order.shippedAt
    trackingNumber :=
      match call.trackingNumber with
      | some text => trimToNull (some text)
      | none => order.trackingNumber
    deliveredAt := if call.status = .delivered then some call.now else order.deliveredAt
    paymentStatus :=
      -- cash on delivery is collected when the order is delivered
      if call.status = .delivered ∧ order.paymentMethod = .cod then .paid
      else order.paymentStatus }

/-- What an item is credited as: the option bought, or the product where there is none. -/
def delivered (s : Deliveries) (item : ShopOrderItem) (catalogId : String) :
    DeliveredPackagingPurchase :=
  let product := item.productId.bind s.products
  { zomaalShopVariantId := catalogId
    name := item.productName
    sku := (item.variantId.bind s.variants).join.orElse fun _ =>
      product.bind CatalogueProduct.sku
    imageObjectName := product.bind CatalogueProduct.firstImage
    quantity := item.quantity
    deliveryReference := item.id }

end ShopOrder

namespace Deliveries

variable (s : Deliveries)

def findOrder (orderId : String) : Option ShopOrder :=
  KeyedRows.lookup ShopOrder.id orderId s.orders

variable (call : AdvanceCall)

def checkCurrency (settlement : Option (ShopOrder × ExchangeRate)) : Except PurchaseError Unit :=
  match settlement with
  | none => .ok ()
  | some (order, _) =>
    if (s.baseCurrencies order.storeId).isSome ∧
        s.baseCurrencies order.storeId = call.baseCurrency then .ok ()
    else .error (.conflict "Store currency changed. Retry delivery.")

def movable : Except PurchaseError ShopOrder :=
  match s.findOrder call.orderId with
  | none => .error (.notFound "Order not found")
  | some order =>
    if order.status ∈ allowedFrom call.status then .ok order
    else .error (.conflict ("This order is " ++ order.status.text ++
      " — it can't be moved to " ++ call.status.text ++ "."))

def post (order : ShopOrder) (settlement : Option (ShopOrder × ExchangeRate)) :
    Except PurchaseError Books :=
  match settlement with
  | none => .ok s.books
  | some (_, rate) =>
    s.books.recordPurchases order call.now rate (call.baseCurrency.getD "") call.source

/-- The transaction of `advance`. -/
def moveForward (settlement : Option (ShopOrder × ExchangeRate)) :
    Except PurchaseError Deliveries := do
  s.checkCurrency call settlement
  let order ← s.movable call
  let books ← s.post call order settlement
  return { s with
    orders := KeyedRows.change ShopOrder.id call.orderId (·.advanced call) s.orders
    books }

/-- One turn of `creditPackagingFromDelivery`: a failure is logged, and the next item's turn comes.
-/
def creditItem (storeId : String) (s : Deliveries) (item : ShopOrderItem) : Deliveries :=
  match item.variantId.orElse fun _ => item.productId with
  | none => s
  | some catalogId =>
    let credit : Except PurchaseError Books :=
      match call.obstacle item.id with
      | some e => .error e
      | none =>
        s.books.creditDeliveredPurchase storeId (ShopOrder.delivered s item catalogId)
          call.source
    match credit with
    | .ok books => { s with books }
    | .error e => { s with failures := s.failures ++ [(item.id, e)] }

def creditPackagingFromDelivery : Deliveries :=
  match s.findOrder call.orderId with
  | none => s
  | some order => order.items.foldl (creditItem call order.storeId) s

/-- What `advance` looks up before its transaction when an order is delivered. -/
def settlementOf : Except PurchaseError (Option (ShopOrder × ExchangeRate)) :=
  if call.status = .delivered then
    match s.findOrder call.orderId with
    | none => .error .recordNotFound
    | some order => call.rate.map fun rate => some (order, rate)
  else .ok none

def advance : Except PurchaseError Deliveries :=
  if call.status ∉ forward ∨ call.status = .pending then
    .error (.badRequest ("Can't move an order to " ++ statusName call.status ++
      ". Use cancel to cancel it."))
  else do
    let settlement ← s.settlementOf call
    let moved ← s.moveForward call settlement
    return if call.status = .delivered then moved.creditPackagingFromDelivery call else moved

/-- `cancel`, as far as the order is concerned. -/
def cancel (orderId : String) (cancelledBy : ShopOrderCancelledBy) (reason : Option String)
    (now : ℤ) : Except PurchaseError Deliveries :=
  match s.findOrder orderId with
  | none => .error (.notFound "Order not found")
  | some order =>
    if order.status ∈ cancelledBy.allowedFrom then
      .ok { s with
        orders := KeyedRows.change ShopOrder.id orderId (fun order =>
          { order with
            status := .cancelled
            cancelledAt := some now
            cancelledBy := some cancelledBy
            cancelReason := trimToNull reason }) s.orders }
    else
      .error (.conflict (match cancelledBy with
        | .merchant =>
          "This order can no longer be cancelled from the app. Contact Zomaal support."
        | .admin => "This order is " ++ order.status.text ++ " — it can't be cancelled."))

end Deliveries

inductive ShopCall
  | advance (call : AdvanceCall)
  | cancel (orderId : String) (cancelledBy : ShopOrderCancelledBy) (reason : Option String)
      (now : ℤ)

namespace Deliveries

def perform (s : Deliveries) : ShopCall → Except PurchaseError Deliveries
  | .advance call => s.advance call
  | .cancel orderId cancelledBy reason now => s.cancel orderId cancelledBy reason now

def step (s : Deliveries) (call : ShopCall) : Deliveries :=
  match s.perform call with
  | .ok t => t
  | .error _ => s

end Deliveries

end Zomaal.Purchasing
