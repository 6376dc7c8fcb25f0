/-
**What the adapters make of the orders of the platforms.**

An order of Shopify comes in the shape that was asked for; an order of YouCan or Lightfunnels may
come in any shape, and each field is looked for in several places.  This module embeds
`normalizeShopifyOrder`, and `normalizeOrder` of the revenue adapters of YouCan and Lightfunnels.
What a text says as an amount or as a date is a parameter, as are upper and lower case.  Amounts are
exact until they are rounded to four decimals.
-/

import Zomaal.JsonValues
import Zomaal.PlatformOrders

set_option autoImplicit false

namespace Zomaal

open JsText

structure PayloadReader where
  /-- `new Prisma.Decimal(text)`, if it is a finite number. -/
  decimal : String → Option Decimal
  decimal_empty : decimal "" = none
  /-- `new Date(text).getTime()`, if it is a number. -/
  date : String → Option ℤ
  toLowerCase : String → String
  toUpperCase : String → String

/-- `new Prisma.Decimal(value)` of a number or a text, if it is a finite number. -/
def PayloadReader.amount (env : PayloadReader) : Json → Option Decimal
  | .number text | .string text => env.decimal text
  | _ => none

variable (env : PayloadReader)

def numberedId (orderId : String) (index : ℕ) : String := orderId ++ ":" ++ toString (index + 1)

/-! ### YouCan -/

namespace YouCan

variable (value : Json)

def requiredString (field : String) : Except String String :=
  match truthy value.optionalString with
  | some text => .ok text
  | none => .error s!"YouCan order is missing {field}"

def decimal (field : String) : Except String Decimal :=
  match env.amount value with
  | some amount =>
    if amount < 0 then .error s!"YouCan returned an invalid monetary {field}" else .ok amount
  | none => .error s!"YouCan returned an invalid monetary {field}"

def parseDate (field : String) : Except String ℤ := do
  let text ← requiredString value field
  match env.date text with
  | some date => .ok date
  | none => .error s!"YouCan returned an invalid {field} date"

def moneyFromRecord (key : String) : Except String Decimal :=
  decimal env ((value.field key).orElse .zero) key

def lineTotal : Except String Decimal :=
  if value.isRecord then do
    let price ← decimal env (value.field "price") "variant price"
    let quantity ← decimal env (value.field "quantity") "variant quantity"
    return price * quantity
  else .error "YouCan returned an invalid order variant"

/-- `Number` reads a quantity as `Decimal` does, which `lineTotal` has read it with. -/
def lineQuantity : Except String {quantity : ℤ // 0 < quantity} :=
  if value.isRecord then
    match env.amount (value.field "quantity") with
    | some quantity =>
      if h : quantity.isInt = true ∧ 0 < quantity then .ok ⟨quantity.num, Rat.num_pos.2 h.2⟩
      else .error "YouCan returned an invalid variant quantity"
    | none => .error "YouCan returned an invalid variant quantity"
  else .error "YouCan returned an invalid order variant"

def refundAmount (refund : Json) : Except String Decimal :=
  match refund with
  | .number _ | .string _ => decimal env refund "refund"
  | _ =>
    let amount := refund.field "amount"
    if amount.isRecord then decimal env ((amount.field "amount").orElse .zero) "refund"
    else decimal env (amount.orElse .zero) "refund"

def refundTotal : Except String Decimal := do
  let amounts ← value.items.mapM (refundAmount env)
  return amounts.sum

/-- `.replace(/[\s_]+/g, '-')`. -/
def dashed (text : String) : String :=
  let spaced := String.ofList (text.toList.map fun c => if c = '_' then ' ' else c)
  String.ofList ((collapseSpaces spaced).toList.map fun c => if isSpace c then '-' else c)

def paymentStatusSlug (order : Json) : String :=
  let payment := order.field "payment"
  let slug := ((payment.field "status_object").field "slug").optionalString <|>
    (payment.field "status_text").optionalString <|>
    (order.field "payment_status_new").optionalString
  dashed (env.toLowerCase (trim (slug.getD "")))

def mapPaymentStatus (slug : String) (refunds total : Decimal) : EcommercePaymentStatus :=
  if 0 < refunds then if total ≤ refunds then .refunded else .partiallyRefunded
  else
    match slug with
    | "paid" | "captured" => .paid
    | "partially-paid" => .partiallyPaid
    | "authorized" => .authorized
    | "pending" | "unpaid" => .pending
    | "refunded" => .refunded
    | "voided" | "canceled" | "cancelled" => .voided
    | "expired" => .expired
    | _ => .unknown

def isCollectedStatus : EcommercePaymentStatus → Bool
  | .partiallyPaid | .paid | .partiallyRefunded | .refunded => true
  | _ => false

/-- `/part/.test(text)`. -/
def tests (part text : String) : Bool := decide (part.toList <:+: text.toList)

def mapOrderStatus (order : Json) : EcommerceOrderStatus :=
  let slug := env.toLowerCase
    ((((order.field "status_object").field "slug").optionalString <|>
      (order.field "status_new").optionalString <|>
      (order.field "status").optionalString).getD "")
  if tests "cancel" slug then .cancelled
  else if tests "closed" slug || tests "processed" slug then .closed
  else if tests "open" slug || slug = "1" then .open
  else .unknown

def joinName (first last : Option String) : Option String :=
  match truthy first, truthy last with
  | some first, some last => truthy (some (trim (first ++ " " ++ last)))
  | first, last => truthy ((first <|> last).map trim)

/-- The identifier of a line; the one at index `index` may have to be numbered. -/
def lineId (index : ℕ) (orderId : String) : String :=
  ((value.field "id").optionalString <|> (value.field "product_variant_id").optionalString).getD
    (numberedId orderId index)

def normalizeLine (index : ℕ) (orderId currency : String) : Except String NormalizedOrderLine :=
  if value.isRecord then do
    let quantity ← lineQuantity env value
    let unitPrice ← decimal env (value.field "price") "variant price"
    let product := value.field "product"
    let variant := value.field "variant"
    let nestedProduct := variant.field "product"
    return {
      externalLineId := lineId value index orderId
      externalProductId := (value.field "product_id").optionalString <|>
        (product.field "id").optionalString <|> (nestedProduct.field "id").optionalString
      externalVariantId := (value.field "product_variant_id").optionalString <|>
        (variant.field "id").optionalString <|> (value.field "id").optionalString
      sku := (value.field "sku").optionalString <|> (variant.field "sku").optionalString
      name := ((value.field "product_name").optionalString <|>
        (product.field "name").optionalString <|> (nestedProduct.field "name").optionalString <|>
        (value.field "name").optionalString <|>
        (value.field "title").optionalString).getD "Unknown Product"
      quantity := quantity.1
      quantity_pos := quantity.2
      unitPrice := toFixed4 unitPrice
      totalPrice := toFixed4 (unitPrice * quantity.1)
      currency }
  else .error "YouCan returned an invalid order variant"

structure Figures where
  grossSales : Decimal
  shipping : Decimal
  tax : Decimal
  orderTotal : Decimal
  rawRefunds : Decimal

def Figures.discounts (f : Figures) : Decimal :=
  let calculatedDiscount := f.grossSales + f.shipping + f.tax - f.orderTotal
  if 0 < calculatedDiscount then calculatedDiscount else 0

def nonNegative (value : Decimal) : Decimal := if value < 0 then 0 else value

/-- What was refunded: all of it, if the platform says so without an amount. -/
def Figures.refunds (f : Figures) (slug : String) (byPlatform : Bool) : Decimal :=
  if f.rawRefunds = 0 ∧ (slug = "refunded" ∨ byPlatform = true) then f.orderTotal else f.rawRefunds

end YouCan

open YouCan in
def normalizeYouCanOrder (order : Json) (storeCurrency : String) :
    Except String NormalizedEcommerceOrder := do
  let id ← requiredString (order.field "id") "order identifier"
  let createdAt ← parseDate env (order.field "created_at") "created_at"
  let updatedAt ← parseDate env (order.field "updated_at") "updated_at"
  let variants := (order.field "variants").items
  let lineTotals ← variants.mapM (lineTotal env)
  let quantities ← variants.mapM (lineQuantity env)
  let shipping ← moneyFromRecord env (order.field "shipping") "price"
  let tax ← decimal env ((order.field "vat").orElse .zero) "vat"
  let orderTotal ← decimal env (order.field "total") "total"
  let rawRefunds ← refundTotal env (order.field "refunds")
  let f : Figures := { grossSales := lineTotals.sum, shipping, tax, orderTotal, rawRefunds }
  let paymentSlug := paymentStatusSlug env order
  let refunds := f.refunds paymentSlug (order.field "is_refunded_by_platform").isTrue
  let financialStatus := mapPaymentStatus paymentSlug refunds orderTotal
  let totalCollected :=
    if isCollectedStatus financialStatus then nonNegative (orderTotal - refunds) else 0
  let status := mapOrderStatus env order
  let currency := env.toUpperCase ((order.field "currency").optionalString.getD storeCurrency)
  let lines ← variants.zipIdx.mapM fun (variant, index) =>
    normalizeLine env variant index id currency
  let shippingAddress := order.field "shipping_address"
  let customer := order.field "customer"
  return {
    externalOrderId := id
    orderName := (order.field "ref").optionalString.getD id
    status
    financialStatus
    fulfillmentStatus := some (((order.field "shipping_status").optionalString <|>
      ((order.field "shipping").field "status_text").optionalString).getD "unknown")
    currency
    itemCount := (quantities.map fun quantity => quantity.1.toNat).sum
    grossSales := toFixed4 f.grossSales
    discounts := toFixed4 f.discounts
    refunds := toFixed4 refunds
    netSales := toFixed4 (nonNegative (f.grossSales - f.discounts - refunds))
    shipping := toFixed4 shipping
    tax := toFixed4 tax
    totalCollected := toFixed4 totalCollected
    shippingCity := (shippingAddress.field "city").optionalString
    customerName := joinName
      ((shippingAddress.field "first_name").optionalString <|>
        (customer.field "first_name").optionalString)
      ((shippingAddress.field "last_name").optionalString <|>
        (customer.field "last_name").optionalString)
    customerPhone := (shippingAddress.field "phone").optionalString <|>
      (customer.field "phone").optionalString
    providerCreatedAt := createdAt
    processedAt := createdAt
    cancelledAt := if status = .cancelled then some updatedAt else none
    providerUpdatedAt := updatedAt
    lines }

/-! ### Shopify -/

namespace Shopify

structure RawMoney where
  amount : String
  currencyCode : String := "MAD"

structure RawAddress where
  city : Option String := none
  name : Option String := none
  phone : Option String := none

structure RawLine where
  id : String
  title : String := ""
  sku : Option String := none
  quantity : ℤ := 1
  quantity_pos : 0 < quantity := by exact Int.one_pos
  product : Option String := none
  variant : Option String := none
  originalUnitPriceSet : RawMoney
  priceAfterAllDiscountsBeforeTaxesSet : RawMoney

structure RawShopifyRevenueOrder where
  id : String
  name : String := ""
  closed : Bool := false
  createdAt : String
  updatedAt : String
  processedAt : Option String := none
  cancelledAt : Option String := none
  displayFinancialStatus : Option String := none
  displayFulfillmentStatus : String := "UNFULFILLED"
  currentSubtotalLineItemsQuantity : ℕ := 0
  subtotalPriceSet : Option RawMoney
  currentSubtotalPriceSet : RawMoney
  totalDiscountsSet : Option RawMoney
  currentShippingPriceSet : RawMoney
  currentTotalTaxSet : RawMoney
  netPaymentSet : RawMoney
  phone : Option String := none
  shippingAddress : Option RawAddress := none
  lineItems : List RawLine := []

def decimal (value : String) : Except String Decimal :=
  match env.decimal value with
  | some amount => .ok amount
  | none => .error "Shopify returned an invalid monetary amount"

def parseShopifyDate (value : String) : Except String ℤ :=
  match env.date value with
  | some date => .ok date
  | none => .error "Shopify returned an invalid order date"

def mapPaymentStatus : Option String → EcommercePaymentStatus
  | some "PENDING" => .pending
  | some "AUTHORIZED" => .authorized
  | some "PARTIALLY_PAID" => .partiallyPaid
  | some "PAID" => .paid
  | some "PARTIALLY_REFUNDED" => .partiallyRefunded
  | some "REFUNDED" => .refunded
  | some "VOIDED" => .voided
  | some "EXPIRED" => .expired
  | _ => .unknown

def normalizeLine (line : RawLine) : Except String NormalizedOrderLine := do
  let unitPrice ← decimal env line.originalUnitPriceSet.amount
  let totalPrice ← decimal env line.priceAfterAllDiscountsBeforeTaxesSet.amount
  return {
    externalLineId := line.id
    externalProductId := line.product
    externalVariantId := line.variant
    sku := truthy (line.sku.map trim)
    name := line.title
    quantity := line.quantity
    quantity_pos := line.quantity_pos
    unitPrice := toFixed4 unitPrice
    totalPrice := toFixed4 totalPrice
    currency := line.originalUnitPriceSet.currencyCode }

def refunds (originalSubtotal currentSubtotal : Decimal) : Decimal :=
  let calculatedRefunds := originalSubtotal - currentSubtotal
  if calculatedRefunds < 0 then 0 else calculatedRefunds

end Shopify

open Shopify in
def normalizeShopifyOrder (order : RawShopifyRevenueOrder) :
    Except String NormalizedEcommerceOrder := do
  let currentSubtotal ← decimal env order.currentSubtotalPriceSet.amount
  let originalSubtotal ←
    decimal env (order.subtotalPriceSet.getD order.currentSubtotalPriceSet).amount
  let discounts ← decimal env ((order.totalDiscountsSet.map RawMoney.amount).getD "0")
  let shipping ← decimal env order.currentShippingPriceSet.amount
  let tax ← decimal env order.currentTotalTaxSet.amount
  let totalCollected ← decimal env order.netPaymentSet.amount
  let providerCreatedAt ← parseShopifyDate env order.createdAt
  let processedAt ← parseShopifyDate env (order.processedAt.getD order.createdAt)
  let cancelledAt ← (truthy order.cancelledAt).mapM (parseShopifyDate env)
  let providerUpdatedAt ← parseShopifyDate env order.updatedAt
  let lines ← order.lineItems.mapM (normalizeLine env)
  let address := order.shippingAddress.getD {}
  return {
    externalOrderId := order.id
    orderName := order.name
    status := if (truthy order.cancelledAt).isSome then .cancelled
      else if order.closed then .closed else .open
    financialStatus := mapPaymentStatus order.displayFinancialStatus
    fulfillmentStatus := some order.displayFulfillmentStatus
    currency := order.currentSubtotalPriceSet.currencyCode
    itemCount := order.currentSubtotalLineItemsQuantity
    grossSales := toFixed4 (originalSubtotal + discounts)
    discounts := toFixed4 discounts
    refunds := toFixed4 (refunds originalSubtotal currentSubtotal)
    netSales := toFixed4 currentSubtotal
    shipping := toFixed4 shipping
    tax := toFixed4 tax
    totalCollected := toFixed4 totalCollected
    shippingCity := truthy (address.city.map trim)
    customerName := truthy (address.name.map trim)
    customerPhone := truthy (address.phone.map trim) <|> truthy (order.phone.map trim)
    providerCreatedAt
    processedAt
    cancelledAt
    providerUpdatedAt
    lines }

/-! ### Lightfunnels -/

namespace Lightfunnels

variable (value : Json)

def requiredString (field : String) : Except String String :=
  match truthy value.optionalString with
  | some text => .ok text
  | none => .error s!"Lightfunnels response did not include {field}"

def decimal (field : String) : Except String Decimal :=
  match env.amount value with
  | some amount =>
    if amount < 0 then .error s!"Lightfunnels returned an invalid {field} value" else .ok amount
  | none => .error s!"Lightfunnels returned an invalid {field} value"

def optionalDecimal : Decimal :=
  match env.amount value with
  | some amount => if amount < 0 then 0 else amount
  | none => 0

/-- `new Date(time)`: whole milliseconds, in the range of dates. -/
def dateOf (time : Decimal) : Option ℤ :=
  if |time| ≤ 8640000000000000 then some (if time < 0 then ⌈time⌉ else ⌊time⌋) else none

def dateOfNumber (value : Decimal) : Option ℤ :=
  dateOf (if value < 10000000000 then value * 1000 else value)

def digitsValue (digits : List Char) : ℕ :=
  digits.foldl (fun n c => n * 10 + (c.toNat - '0'.toNat)) 0

def parseInt (text : String) : Option ℤ :=
  let number (digits : List Char) : Option ℤ :=
    if digits.takeWhile Char.isDigit = [] then none
    else some (digitsValue (digits.takeWhile Char.isDigit))
  match text.toList.dropWhile isSpace with
  | '-' :: digits => (number digits).map fun n => -n
  | '+' :: digits => number digits
  | digits => number digits

def unitMultiplier (unit : String) : ℤ :=
  if "sec".isPrefixOf unit then 1000
  else if "min".isPrefixOf unit then 60 * 1000
  else if "hour".isPrefixOf unit then 60 * 60 * 1000
  else if "day".isPrefixOf unit then 24 * 60 * 60 * 1000
  else if "week".isPrefixOf unit then 7 * 24 * 60 * 60 * 1000
  else if "month".isPrefixOf unit then 30 * 24 * 60 * 60 * 1000
  else if "year".isPrefixOf unit then 365 * 24 * 60 * 60 * 1000
  else 0

/-- How long ago a relative text says: `just now`, or `3 days ago`. -/
def relativeAge (trimmed : String) : Option (Option ℤ) :=
  if trimmed = "just now" then some (some 0)
  else if " ago".toList <:+ trimmed.toList then
    let parts := (trimmed.toList.splitOn ' ').map String.ofList
    let rawAmount := env.toLowerCase (parts.headD "")
    let amount := if rawAmount = "a" ∨ rawAmount = "an" then some 1 else parseInt rawAmount
    let multiplier := unitMultiplier (env.toLowerCase (parts.getD 1 ""))
    some (if 0 < multiplier then amount.map fun amount => amount * multiplier else none)
  else none

/-- `.replace(/^(\d{4}-\d{2}-\d{2})\s+(\d{2}:\d{2}:\d{2})$/, '$1T$2Z')`. -/
def isoText (trimmed : String) : String :=
  let fits (shape text : List Char) : Bool :=
    shape.length = text.length &&
      (shape.zip text).all fun (s, c) => if s = '0' then c.isDigit else s = c
  let day := trimmed.toList.take 10
  let rest := trimmed.toList.drop 10
  let time := rest.dropWhile isSpace
  if fits "0000-00-00".toList day && fits "00:00:00".toList time && time.length < rest.length then
    String.ofList (day ++ 'T' :: time ++ ['Z'])
  else trimmed

/-- The instant of a text; a text that is not relative says the same at any time. -/
def textTime (now : ℤ) (trimmed : String) : Option ℤ :=
  match relativeAge env trimmed with
  | some age => age.bind fun age => dateOf ((now - age : ℤ) : Decimal)
  | none =>
    if trimmed.toList ≠ [] ∧ trimmed.toList.all Char.isDigit then
      dateOfNumber (digitsValue trimmed.toList)
    else env.date (isoText trimmed)

def carbonDate : Json :=
  match value.field "date" with
  | .string date => .string date
  | _ => value

/-- **The instant that a date says**: seconds or milliseconds, as a number or as a text, a Carbon
object, a relative text, or any other. -/
def timestamp (now : ℤ) (value : Json) (field : String) : Except String ℤ :=
  let instant := match carbonDate value with
    | .number text => (env.decimal text).bind dateOfNumber
    | .string text => (truthy (some (trim text))).bind (textTime env now)
    | _ => none
  match instant with
  | some instant => .ok instant
  | none => .error s!"Lightfunnels returned an invalid {field} timestamp."

def mapFinancialStatus (value : String) : EcommercePaymentStatus :=
  match env.toLowerCase (trim value) with
  | "paid" => .paid
  | "partially_refunded" => .partiallyRefunded
  | "refunded" => .refunded
  | "pending" => .pending
  | _ => .unknown

def isCollectedStatus : EcommercePaymentStatus → Bool
  | .paid | .partiallyRefunded | .refunded => true
  | _ => false

def collected (status : EcommercePaymentStatus) (netPayment : Json) : Except String Decimal :=
  if isCollectedStatus status then decimal env netPayment "order.net_payment" else .ok 0

def cancellation (now : ℤ) : Json → Except String (Option ℤ)
  | .null => .ok none
  | value => (timestamp env now value "order.cancelled_at").map some

def lineId (index : ℕ) (orderId : String) : String :=
  ((value.asOptionalRecord.field "id").optionalString).getD (numberedId orderId index)

def normalizeLine (index : ℕ) (orderId currency : String) : NormalizedOrderLine :=
  let item := value.asOptionalRecord
  let price := optionalDecimal env (item.field "price")
  { externalLineId := lineId value index orderId
    externalProductId := (item.field "product_id").optionalString
    externalVariantId := (item.field "variant_id").optionalString
    sku := (item.field "sku").optionalString
    name := (item.field "title").optionalString.getD "Unknown Product"
    quantity := 1
    quantity_pos := Int.one_pos
    unitPrice := toFixed4 price
    totalPrice := toFixed4 price
    currency }

end Lightfunnels

open Lightfunnels in
def normalizeLightfunnelsOrder (now : ℤ) (order : Json) :
    Except String NormalizedEcommerceOrder := do
  let externalOrderId ← requiredString (order.field "id") "order.id"
  let currency ← requiredString (order.field "currency") "order.currency"
  let currency := env.toUpperCase currency
  let grossSales ← decimal env (order.field "subtotal") "order.subtotal"
  let discounts ← decimal env (order.field "discount_value") "order.discount_value"
  let refunds ← decimal env (order.field "refunded_amount") "order.refunded_amount"
  let shipping ← decimal env (order.field "shipping") "order.shipping"
  let total ← decimal env (order.field "total") "order.total"
  let netSales := max (grossSales - discounts - refunds) 0
  let tax := max (total - (grossSales - discounts) - shipping) 0
  let financial ← requiredString (order.field "financial_status") "order.financial_status"
  let financialStatus := mapFinancialStatus env financial
  let totalCollected ← collected env financialStatus (order.field "net_payment")
  let providerCreatedAt ← timestamp env now (order.field "created_at") "order.created_at"
  let providerUpdatedAt ← timestamp env now (order.field "updated_at") "order.updated_at"
  let cancelledAt ← cancellation env now (order.field "cancelled_at")
  let items := (order.field "items").items
  let address := (order.field "shipping_address").asOptionalRecord
  return {
    externalOrderId
    orderName := (order.field "name").optionalString.getD ""
    status := if cancelledAt.isSome then .cancelled else .open
    financialStatus
    fulfillmentStatus := some ((order.field "fulfillment_status").optionalString.getD "")
    currency
    itemCount := items.length
    grossSales := toFixed4 grossSales
    discounts := toFixed4 discounts
    refunds := toFixed4 refunds
    netSales := toFixed4 netSales
    shipping := toFixed4 shipping
    tax := toFixed4 tax
    totalCollected := toFixed4 totalCollected
    shippingCity := (address.field "city").optionalString
    customerName := (address.field "name").optionalString
    customerPhone := (address.field "phone").optionalString <|> (order.field "phone").optionalString
    providerCreatedAt
    processedAt := providerCreatedAt
    cancelledAt
    providerUpdatedAt
    lines := items.zipIdx.map fun (item, index) =>
      normalizeLine env item index externalOrderId currency }

end Zomaal
