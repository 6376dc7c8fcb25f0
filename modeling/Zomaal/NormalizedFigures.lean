/-
**Orders that add up, and the ones that do not.**

A normalized order is well formed if no two of its lines have one identifier, its net sales are what
discounts and refunds leave of its gross sales, and its lines add up to its gross sales without the
discounts.  Each adapter takes the figures from the platform in its own way, and rounds them.

Main results:

* `Payload.normalize_spec` — normalizing rounds the figures;
* `normalizedOrders` — **which orders are well formed**;
* `normalizedOrders_discounted` — an order with a discount that is not.
-/

import Zomaal.LineLosses
import Zomaal.OrderNormalizers

set_option autoImplicit false

namespace Zomaal

variable (env : PayloadReader)

/-! ### Rounding -/

/-- **What is lost when amounts are rounded one by one**, and not their sum. -/
def roundingLoss (amounts : List Decimal) : Decimal :=
  toFixed4 amounts.sum - (amounts.map toFixed4).sum

theorem roundingLoss_eq_zero {amounts : List Decimal} (h : ∀ x ∈ amounts, toFixed4 x = x) :
    roundingLoss amounts = 0 := by
  rw [roundingLoss, toFixed4_sum h, List.map_congr_left h, List.map_id'', sub_self]
  exact fun _ => rfl

theorem rounded_remaining (gross discounts refunds : Decimal) :
    toFixed4 gross - toFixed4 discounts - toFixed4 refunds =
      toFixed4 (gross - discounts - refunds) -
        roundingLoss [gross, -discounts, -refunds] := by
  have hsum : [gross, -discounts, -refunds].sum = gross - discounts - refunds := by
    simp only [List.sum_cons, List.sum_nil]
    ring
  rw [roundingLoss, hsum]
  simp only [List.map_cons, List.map_nil, List.sum_cons, List.sum_nil, toFixed4_neg_eq]
  ring

/-! ### Identifiers -/

/-- The identifier of a line: the one that is given, or the one that stands in for it. -/
def standingId (line : Option String × String) : String := line.1.getD line.2

/-- **No line without an identifier has the one of another line.** -/
def StandInsApart (lines : List (Option String × String)) : Prop :=
  lines.Pairwise fun line other => line.1 = none ∨ other.1 = none →
    standingId line ≠ standingId other

theorem nodup_standingId_iff {lines : List (Option String × String)}
    (hgiven : (lines.filterMap Prod.fst).Nodup) :
    (lines.map standingId).Nodup ↔ StandInsApart lines := by
  rw [List.Nodup, List.pairwise_map, StandInsApart]
  constructor
  · intro h
    refine h.imp ?_
    intro line other hne _
    exact hne
  · intro h
    rw [List.Nodup, List.pairwise_filterMap] at hgiven
    refine (h.and hgiven).imp fun {line other} hboth => ?_
    obtain ⟨hstand, hne⟩ := hboth
    cases hline : line.1 with
    | none => exact hstand (.inl hline)
    | some id =>
      cases hother : other.1 with
      | none => exact hstand (.inr hother)
      | some id' =>
        rw [standingId, standingId, hline, hother]
        exact hne id hline id' hother

/-! ### Payloads -/

/-- **An order as a platform tells it**; the one of Lightfunnels is read at an instant. -/
inductive Payload
  | shopify (order : Shopify.RawShopifyRevenueOrder)
  | youcan (order : Json) (storeCurrency : String)
  | lightfunnels (now : ℤ) (order : Json)

def Payload.normalize : Payload → Except String NormalizedEcommerceOrder
  | .shopify order => normalizeShopifyOrder env order
  | .youcan order storeCurrency => normalizeYouCanOrder env order storeCurrency
  | .lightfunnels now order => normalizeLightfunnelsOrder env now order

/-- **What is expected of a normalized order.** -/
structure WellFormedOrder (order : NormalizedEcommerceOrder) : Prop where
  lineIds : (order.lines.map NormalizedOrderLine.externalLineId).Nodup
  netSales : order.netSales = max (order.grossSales - order.discounts - order.refunds) 0
  productRevenue :
    (order.lines.map NormalizedOrderLine.totalPrice).sum = order.grossSales - order.discounts

/-- The exact figures of an order, and the identifiers of its lines. -/
structure OrderFigures where
  grossSales : Decimal
  discounts : Decimal
  refunds : Decimal
  netSales : Decimal
  shipping : Decimal
  tax : Decimal
  totalCollected : Decimal
  lineTotals : List Decimal
  lineIds : List String

structure OrderFigures.Rounds (f : OrderFigures) (order : NormalizedEcommerceOrder) : Prop where
  grossSales : order.grossSales = toFixed4 f.grossSales
  discounts : order.discounts = toFixed4 f.discounts
  refunds : order.refunds = toFixed4 f.refunds
  netSales : order.netSales = toFixed4 f.netSales
  shipping : order.shipping = toFixed4 f.shipping
  tax : order.tax = toFixed4 f.tax
  totalCollected : order.totalCollected = toFixed4 f.totalCollected
  lineTotals : order.lines.map NormalizedOrderLine.totalPrice = f.lineTotals.map toFixed4
  lineIds : order.lines.map NormalizedOrderLine.externalLineId = f.lineIds

def PayloadReader.amountOf (value : Json) : Decimal := (env.amount value).getD 0

def PayloadReader.decimalOf (text : String) : Decimal := (env.decimal text).getD 0

variable {amount : Decimal} {value : Json}

variable {env} in
theorem amount_accepted {refused : String} (h : (match env.amount value with
      | some amount => if amount < 0 then .error refused else .ok amount
      | none => .error refused) = Except.ok amount) :
    env.amountOf value = amount ∧ 0 ≤ amount ∧ env.amount value = some (env.amountOf value) := by
  rw [PayloadReader.amountOf]
  split at h
  · rename_i read hread
    split at h
    · cases h
    · rename_i hnonneg
      obtain rfl := Except.ok.inj h
      rw [hread]
      exact ⟨rfl, not_lt.1 hnonneg, rfl⟩
  · cases h

namespace Shopify

variable (order : RawShopifyRevenueOrder)

def originalSubtotal : Decimal :=
  env.decimalOf (order.subtotalPriceSet.getD order.currentSubtotalPriceSet).amount

def currentSubtotal : Decimal := env.decimalOf order.currentSubtotalPriceSet.amount

def totalDiscounts : Decimal :=
  env.decimalOf ((order.totalDiscountsSet.map RawMoney.amount).getD "0")

def linePrices : List Decimal :=
  order.lineItems.map fun line => env.decimalOf line.priceAfterAllDiscountsBeforeTaxesSet.amount

def figures : OrderFigures where
  grossSales := originalSubtotal env order + totalDiscounts env order
  discounts := totalDiscounts env order
  refunds := refunds (originalSubtotal env order) (currentSubtotal env order)
  netSales := currentSubtotal env order
  shipping := env.decimalOf order.currentShippingPriceSet.amount
  tax := env.decimalOf order.currentTotalTaxSet.amount
  totalCollected := env.decimalOf order.netPaymentSet.amount
  lineTotals := linePrices env order
  lineIds := order.lineItems.map RawLine.id

end Shopify

namespace YouCan

variable (order : Json)

def lineAmounts : List Decimal :=
  (order.field "variants").items.map fun value =>
    env.amountOf (value.field "price") * env.amountOf (value.field "quantity")

def figuresOf : Figures where
  grossSales := (lineAmounts env order).sum
  shipping := env.amountOf (((order.field "shipping").field "price").orElse .zero)
  tax := env.amountOf ((order.field "vat").orElse .zero)
  orderTotal := env.amountOf (order.field "total")
  rawRefunds := (refundTotal env (order.field "refunds")).toOption.getD 0

/-- The identifiers of the lines, and what stands in for them: the variant, or a number. -/
def standIns : List (Option String × String) :=
  (order.field "variants").items.zipIdx.map fun line =>
    ((line.1.field "id").optionalString,
      (line.1.field "product_variant_id").optionalString.getD
        (numberedId ((order.field "id").optionalString.getD "") line.2))

def refundsOf : Decimal :=
  (figuresOf env order).refunds (paymentStatusSlug env order)
    (order.field "is_refunded_by_platform").isTrue

def collected : Decimal :=
  let f := figuresOf env order
  if isCollectedStatus (mapPaymentStatus (paymentStatusSlug env order) (refundsOf env order)
      f.orderTotal) then
    max (f.orderTotal - refundsOf env order) 0
  else 0

def remaining : Decimal :=
  (figuresOf env order).grossSales - (figuresOf env order).discounts - refundsOf env order

def figures : OrderFigures where
  grossSales := (figuresOf env order).grossSales
  discounts := (figuresOf env order).discounts
  refunds := refundsOf env order
  netSales := max (remaining env order) 0
  shipping := (figuresOf env order).shipping
  tax := (figuresOf env order).tax
  totalCollected := collected env order
  lineTotals := lineAmounts env order
  lineIds := (standIns order).map standingId

end YouCan

namespace Lightfunnels

variable (order : Json)

def itemPrices : List Decimal :=
  (order.field "items").items.map fun value => env.amountOf (value.asOptionalRecord.field "price")

def standIns : List (Option String × String) :=
  (order.field "items").items.zipIdx.map fun line =>
    ((line.1.asOptionalRecord.field "id").optionalString,
      numberedId ((order.field "id").optionalString.getD "") line.2)

def grossSales : Decimal := env.amountOf (order.field "subtotal")

def discounts : Decimal := env.amountOf (order.field "discount_value")

def refunds : Decimal := env.amountOf (order.field "refunded_amount")

def shipping : Decimal := env.amountOf (order.field "shipping")

def total : Decimal := env.amountOf (order.field "total")

def netPayment : Decimal :=
  if isCollectedStatus (mapFinancialStatus env
      ((order.field "financial_status").optionalString.getD "")) then
    env.amountOf (order.field "net_payment")
  else 0

def figures : OrderFigures where
  grossSales := grossSales env order
  discounts := discounts env order
  refunds := refunds env order
  netSales := max (grossSales env order - discounts env order - refunds env order) 0
  shipping := shipping env order
  tax := max (total env order - (grossSales env order - discounts env order) -
    shipping env order) 0
  totalCollected := netPayment env order
  lineTotals := (itemPrices env order).map fun price => max price 0
  lineIds := (standIns order).map standingId

end Lightfunnels

def Payload.figures : Payload → OrderFigures
  | .shopify order => Shopify.figures env order
  | .youcan order _ => YouCan.figures env order
  | .lightfunnels _ order => Lightfunnels.figures env order

/-! ### Normalizing rounds -/

variable {env}

theorem map_eq_of_mapM {α β γ : Type} {f : α → Except String β} {xs : List α} {ys : List β}
    (h : xs.mapM f = .ok ys) {g : β → γ} {k : α → γ} (hfg : ∀ x y, f x = .ok y → g y = k x) :
    ys.map g = xs.map k := by
  have hall := Except.mapM_eq_ok h
  clear h
  induction hall with
  | nil => rfl
  | cons hhead _ ih => rw [List.map_cons, List.map_cons, hfg _ _ hhead, ih]

namespace Shopify

theorem decimal_ok {text : String} (h : decimal env text = .ok amount) :
    env.decimalOf text = amount := by
  rw [decimal] at h
  rw [PayloadReader.decimalOf]
  split at h
  · rename_i hread
    rw [hread]
    exact Except.ok.inj h
  · cases h

theorem normalizeLine_ok {line : RawLine} {normalized : NormalizedOrderLine}
    (h : normalizeLine env line = .ok normalized) :
    normalized.externalLineId = line.id ∧
      normalized.totalPrice =
        toFixed4 (env.decimalOf line.priceAfterAllDiscountsBeforeTaxesSet.amount) := by
  obtain ⟨unitPrice, -, h⟩ := Except.bind_eq_ok h
  obtain ⟨totalPrice, hprice, h⟩ := Except.bind_eq_ok h
  obtain rfl := Except.ok.inj h
  rw [decimal_ok hprice]
  exact ⟨rfl, rfl⟩

theorem normalize_spec {order : RawShopifyRevenueOrder} {normalized : NormalizedEcommerceOrder}
    (h : normalizeShopifyOrder env order = .ok normalized) :
    (figures env order).Rounds normalized := by
  obtain ⟨current, hcurrent, h⟩ := Except.bind_eq_ok h
  obtain ⟨original, horiginal, h⟩ := Except.bind_eq_ok h
  obtain ⟨discounts, hdiscounts, h⟩ := Except.bind_eq_ok h
  obtain ⟨shipping, hshipping, h⟩ := Except.bind_eq_ok h
  obtain ⟨tax, htax, h⟩ := Except.bind_eq_ok h
  obtain ⟨totalCollected, hcollected, h⟩ := Except.bind_eq_ok h
  obtain ⟨providerCreatedAt, -, h⟩ := Except.bind_eq_ok h
  obtain ⟨processedAt, -, h⟩ := Except.bind_eq_ok h
  obtain ⟨cancelledAt, -, h⟩ := Except.bind_eq_ok h
  obtain ⟨providerUpdatedAt, -, h⟩ := Except.bind_eq_ok h
  obtain ⟨lines, hlines, h⟩ := Except.bind_eq_ok h
  obtain rfl := Except.ok.inj h
  obtain rfl := decimal_ok hcurrent
  obtain rfl := decimal_ok horiginal
  obtain rfl := decimal_ok hdiscounts
  obtain rfl := decimal_ok hshipping
  obtain rfl := decimal_ok htax
  obtain rfl := decimal_ok hcollected
  refine ⟨rfl, rfl, rfl, rfl, rfl, rfl, rfl, ?_, ?_⟩
  · rw [figures, linePrices, List.map_map]
    exact map_eq_of_mapM hlines fun line normalized hline => (normalizeLine_ok hline).2
  · exact map_eq_of_mapM hlines fun line normalized hline => (normalizeLine_ok hline).1

end Shopify

namespace YouCan

variable {field : String}

theorem decimal_ok (h : decimal env value field = .ok amount) :
    env.amountOf value = amount ∧ 0 ≤ amount :=
  (amount_accepted h).imp_right And.left

theorem decimal_read (h : decimal env value field = .ok amount) :
    env.amount value = some (env.amountOf value) :=
  (amount_accepted h).2.2

variable {total : Decimal}

theorem lineTotal_ok (h : lineTotal env value = .ok total) :
    total = env.amountOf (value.field "price") * env.amountOf (value.field "quantity") := by
  rw [lineTotal] at h
  split at h
  · obtain ⟨price, hprice, h⟩ := Except.bind_eq_ok h
    obtain ⟨quantity, hquantity, h⟩ := Except.bind_eq_ok h
    obtain rfl := Except.ok.inj h
    rw [(decimal_ok hprice).1, (decimal_ok hquantity).1]
  · cases h

theorem lineQuantity_ok {quantity : {quantity : ℤ // 0 < quantity}}
    (h : lineQuantity env value = .ok quantity) :
    (quantity.1 : Decimal) = env.amountOf (value.field "quantity") := by
  rw [lineQuantity] at h
  rw [PayloadReader.amountOf]
  split at h
  · split at h
    · rename_i read hread
      split at h
      · rename_i hint
        obtain rfl := Except.ok.inj h
        rw [hread, Option.getD_some]
        exact (Rat.eq_num_of_isInt hint.1).symm
      · cases h
    · cases h
  · cases h

theorem normalizeLine_ok {index : ℕ} {orderId currency : String} {normalized : NormalizedOrderLine}
    (h : normalizeLine env value index orderId currency = .ok normalized) :
    normalized.externalLineId = lineId value index orderId ∧
      normalized.totalPrice = toFixed4
        (env.amountOf (value.field "price") * env.amountOf (value.field "quantity")) := by
  rw [normalizeLine] at h
  split at h
  · obtain ⟨quantity, hquantity, h⟩ := Except.bind_eq_ok h
    obtain ⟨price, hprice, h⟩ := Except.bind_eq_ok h
    obtain rfl := Except.ok.inj h
    rw [← lineQuantity_ok hquantity, (decimal_ok hprice).1]
    exact ⟨rfl, rfl⟩
  · cases h

structure Figures.NonNegative (f : Figures) : Prop where
  grossSales : 0 ≤ f.grossSales
  shipping : 0 ≤ f.shipping
  orderTotal : 0 ≤ f.orderTotal
  rawRefunds : 0 ≤ f.rawRefunds

theorem lineTotal_nonneg (h : lineTotal env value = .ok total) : 0 ≤ total := by
  rw [lineTotal] at h
  split at h
  · obtain ⟨price, hprice, h⟩ := Except.bind_eq_ok h
    obtain ⟨quantity, hquantity, h⟩ := Except.bind_eq_ok h
    obtain rfl := Except.ok.inj h
    exact mul_nonneg (decimal_ok hprice).2 (decimal_ok hquantity).2
  · cases h

theorem refundAmount_nonneg {refund : Json} (h : refundAmount env refund = .ok amount) :
    0 ≤ amount := by
  rw [refundAmount.eq_def] at h
  split at h
  · exact (decimal_ok h).2
  · exact (decimal_ok h).2
  · dsimp only at h
    split at h
    · exact (decimal_ok h).2
    · exact (decimal_ok h).2

theorem refundTotal_nonneg (h : refundTotal env value = .ok total) : 0 ≤ total := by
  obtain ⟨amounts, hamounts, h⟩ := Except.bind_eq_ok h
  obtain rfl := Except.ok.inj h
  refine List.sum_nonneg fun amount hamount => ?_
  obtain ⟨refund, -, hrefund⟩ := Except.exists_of_mapM hamounts hamount
  exact refundAmount_nonneg hrefund

theorem nonNegative_eq (value : Decimal) : nonNegative value = max value 0 := by
  rw [nonNegative]
  split
  · rename_i hneg
    rw [max_eq_right hneg.le]
  · rename_i hnonneg
    rw [max_eq_left (not_lt.1 hnonneg)]

theorem lineId_eq (value : Json) (index : ℕ) (orderId : String) :
    lineId value index orderId = standingId ((value.field "id").optionalString,
      (value.field "product_variant_id").optionalString.getD (numberedId orderId index)) := by
  rw [lineId, standingId]
  cases (value.field "id").optionalString <;> rfl

theorem requiredString_ok {text : String} (h : requiredString value field = .ok text) :
    value.optionalString.getD "" = text := by
  rw [requiredString] at h
  split at h
  · rename_i read hread
    obtain rfl := Except.ok.inj h
    rw [(JsText.truthy_some hread).1, Option.getD_some]
  · cases h

theorem normalize_spec {order : Json} {storeCurrency : String}
    {normalized : NormalizedEcommerceOrder}
    (h : normalizeYouCanOrder env order storeCurrency = .ok normalized) :
    (figures env order).Rounds normalized ∧ (figuresOf env order).NonNegative ∧
      env.amount (order.field "total") = some (env.amountOf (order.field "total")) := by
  obtain ⟨orderId, hid, h⟩ := Except.bind_eq_ok h
  obtain ⟨createdAt, -, h⟩ := Except.bind_eq_ok h
  obtain ⟨updatedAt, -, h⟩ := Except.bind_eq_ok h
  obtain ⟨lineTotals, htotals, h⟩ := Except.bind_eq_ok h
  obtain ⟨quantities, -, h⟩ := Except.bind_eq_ok h
  obtain ⟨shipping, hshipping, h⟩ := Except.bind_eq_ok h
  obtain ⟨tax, htax, h⟩ := Except.bind_eq_ok h
  obtain ⟨orderTotal, htotal, h⟩ := Except.bind_eq_ok h
  obtain ⟨rawRefunds, hrefunds, h⟩ := Except.bind_eq_ok h
  obtain ⟨lines, hlines, h⟩ := Except.bind_eq_ok h
  obtain rfl := Except.ok.inj h
  have hamounts : lineTotals = lineAmounts env order := by
    rw [← List.map_id lineTotals]
    exact map_eq_of_mapM htotals fun _ _ => lineTotal_ok
  have hread := decimal_read htotal
  obtain ⟨rfl, hnonneg⟩ := decimal_ok htotal
  obtain ⟨rfl, hshippingNonneg⟩ := decimal_ok hshipping
  obtain rfl := (decimal_ok htax).1
  have hgross : 0 ≤ lineTotals.sum := List.sum_nonneg fun total hmem => by
    obtain ⟨value, -, hvalue⟩ := Except.exists_of_mapM htotals hmem
    exact lineTotal_nonneg hvalue
  have hrawNonneg := refundTotal_nonneg hrefunds
  obtain rfl := hamounts
  have hraw : (refundTotal env (order.field "refunds")).toOption.getD 0 = rawRefunds := by
    rw [hrefunds]
    rfl
  obtain rfl := hraw
  refine ⟨⟨rfl, rfl, rfl, ?_, rfl, rfl, ?_, ?_, ?_⟩,
    ⟨hgross, hshippingNonneg, hnonneg, hrawNonneg⟩, hread⟩
  · exact congrArg toFixed4 (nonNegative_eq _)
  · dsimp only
    rw [nonNegative_eq]
    rfl
  · refine (map_eq_of_mapM hlines fun line _ hline => (normalizeLine_ok hline).2).trans ?_
    rw [figures, lineAmounts, List.map_map,
      ← List.zipIdx_map_fst 0 (order.field "variants").items, List.map_map, List.zipIdx_map_fst]
    rfl
  · refine (map_eq_of_mapM hlines fun line _ hline => (normalizeLine_ok hline).1).trans ?_
    rw [figures, standIns, List.map_map]
    refine List.map_congr_left fun line _ => ?_
    rw [Function.comp_apply, lineId_eq, requiredString_ok hid]

end YouCan

namespace Lightfunnels

variable {field : String}

theorem decimal_ok (h : decimal env value field = .ok amount) :
    env.amountOf value = amount ∧ 0 ≤ amount :=
  (amount_accepted h).imp_right And.left

theorem decimal_read (h : decimal env value field = .ok amount) :
    env.amount value = some (env.amountOf value) :=
  (amount_accepted h).2.2

theorem optionalDecimal_eq (value : Json) :
    optionalDecimal env value = max (env.amountOf value) 0 := by
  rw [optionalDecimal, PayloadReader.amountOf]
  cases env.amount value with
  | none => exact (max_self 0).symm
  | some amount => exact YouCan.nonNegative_eq amount

theorem requiredString_ok {text : String} (h : requiredString value field = .ok text) :
    value.optionalString.getD "" = text := by
  rw [requiredString] at h
  split at h
  · rename_i read hread
    obtain rfl := Except.ok.inj h
    rw [(JsText.truthy_some hread).1, Option.getD_some]
  · cases h

theorem normalize_spec {now : ℤ} {order : Json} {normalized : NormalizedEcommerceOrder}
    (h : normalizeLightfunnelsOrder env now order = .ok normalized) :
    (figures env order).Rounds normalized ∧ 0 ≤ discounts env order ∧
      0 ≤ total env order ∧
      env.amount (order.field "total") = some (env.amountOf (order.field "total")) := by
  obtain ⟨orderId, hid, h⟩ := Except.bind_eq_ok h
  obtain ⟨currency, -, h⟩ := Except.bind_eq_ok h
  obtain ⟨gross, hgross, h⟩ := Except.bind_eq_ok h
  obtain ⟨discount, hdiscount, h⟩ := Except.bind_eq_ok h
  obtain ⟨refund, hrefund, h⟩ := Except.bind_eq_ok h
  obtain ⟨shippingPrice, hshipping, h⟩ := Except.bind_eq_ok h
  obtain ⟨orderTotal, htotal, h⟩ := Except.bind_eq_ok h
  obtain ⟨financial, hfinancial, h⟩ := Except.bind_eq_ok h
  obtain ⟨totalCollected, hcollected, h⟩ := Except.bind_eq_ok h
  obtain ⟨providerCreatedAt, -, h⟩ := Except.bind_eq_ok h
  obtain ⟨providerUpdatedAt, -, h⟩ := Except.bind_eq_ok h
  obtain ⟨cancelledAt, -, h⟩ := Except.bind_eq_ok h
  obtain rfl := Except.ok.inj h
  obtain rfl := (decimal_ok hgross).1
  obtain ⟨rfl, hnonneg⟩ := decimal_ok hdiscount
  obtain rfl := (decimal_ok hrefund).1
  obtain rfl := (decimal_ok hshipping).1
  have hread := decimal_read htotal
  obtain ⟨rfl, htotalNonneg⟩ := decimal_ok htotal
  have hpaid : totalCollected = netPayment env order := by
    rw [collected] at hcollected
    rw [netPayment, requiredString_ok hfinancial]
    split at hcollected
    · rename_i hstatus
      rw [if_pos hstatus, (decimal_ok hcollected).1]
    · rename_i hstatus
      rw [if_neg hstatus]
      exact (Except.ok.inj hcollected).symm
  obtain rfl := hpaid
  refine ⟨⟨rfl, rfl, rfl, rfl, rfl, rfl, rfl, ?_, ?_⟩, hnonneg, htotalNonneg, hread⟩
  · rw [figures, itemPrices, List.map_map, List.map_map, List.map_map,
      ← List.zipIdx_map_fst 0 (order.field "items").items, List.map_map, List.zipIdx_map_fst]
    refine List.map_congr_left fun line _ => ?_
    exact congrArg toFixed4 (optionalDecimal_eq _)
  · rw [figures, standIns, List.map_map, List.map_map]
    refine List.map_congr_left fun line _ => ?_
    rw [requiredString_ok hid]
    rfl

end Lightfunnels

variable {payload : Payload}

variable {order : NormalizedEcommerceOrder}

/-- **Normalizing rounds the figures.** -/
theorem Payload.normalize_spec (h : payload.normalize env = .ok order) :
    (payload.figures env).Rounds order := by
  cases payload with
  | shopify raw => exact Shopify.normalize_spec h
  | youcan raw storeCurrency => exact (YouCan.normalize_spec h).1
  | lightfunnels now raw => exact (Lightfunnels.normalize_spec h).1

/-! ### Which orders are well formed -/

variable (env)

/-- **The platform's own figures are consistent**, and the identifiers that it gives distinct. -/
def Payload.Consistent : Payload → Prop
  | .shopify order => (order.lineItems.map Shopify.RawLine.id).Nodup ∧
      (Shopify.linePrices env order).sum = Shopify.originalSubtotal env order
  | .youcan order _ => ((YouCan.standIns order).filterMap Prod.fst).Nodup ∧
      ∃ discount, 0 ≤ discount ∧ (YouCan.figuresOf env order).orderTotal =
        (YouCan.lineAmounts env order).sum - discount + (YouCan.figuresOf env order).shipping +
          (YouCan.figuresOf env order).tax
  | .lightfunnels _ order => ((Lightfunnels.standIns order).filterMap Prod.fst).Nodup ∧
      (Lightfunnels.itemPrices env order).sum = Lightfunnels.grossSales env order

def Payload.IdsApart : Payload → Prop
  | .shopify _ => True
  | .youcan order _ => StandInsApart (YouCan.standIns order)
  | .lightfunnels _ order => StandInsApart (Lightfunnels.standIns order)

/-- **The payload is balanced**: no more is discounted than rounding makes up for, and the subtotal
of Shopify has not grown. -/
def Payload.Balanced : Payload → Prop
  | .shopify order =>
    let original := Shopify.originalSubtotal env order
    let current := Shopify.currentSubtotal env order
    let discounts := Shopify.totalDiscounts env order
    toFixed4 current = max (toFixed4 (min original current) -
        roundingLoss [original + discounts, -discounts, -Shopify.refunds original current]) 0 ∧
      roundingLoss (discounts :: Shopify.linePrices env order) = 0
  | .youcan order _ =>
    let f := YouCan.figuresOf env order
    max (toFixed4 (YouCan.remaining env order)) 0 = max (toFixed4 (YouCan.remaining env order) -
        roundingLoss [f.grossSales, -f.discounts, -YouCan.refundsOf env order]) 0 ∧
      toFixed4 f.discounts = roundingLoss (YouCan.lineAmounts env order)
  | .lightfunnels _ order =>
    let gross := Lightfunnels.grossSales env order
    let discounts := Lightfunnels.discounts env order
    let refunds := Lightfunnels.refunds env order
    let prices := Lightfunnels.itemPrices env order
    max (toFixed4 (gross - discounts - refunds)) 0 =
        max (toFixed4 (gross - discounts - refunds) -
          roundingLoss [gross, -discounts, -refunds]) 0 ∧
      toFixed4 discounts + (prices.map fun price => max (toFixed4 (-price)) 0).sum =
        roundingLoss prices

def Payload.amounts : Payload → List Decimal
  | .shopify order => [Shopify.originalSubtotal env order, Shopify.currentSubtotal env order,
      Shopify.totalDiscounts env order] ++ Shopify.linePrices env order
  | .youcan order _ => [(YouCan.figuresOf env order).discounts, YouCan.refundsOf env order] ++
      YouCan.lineAmounts env order
  | .lightfunnels _ order => [Lightfunnels.discounts env order, Lightfunnels.refunds env order] ++
      Lightfunnels.itemPrices env order

/-- **What balanced means** for amounts with at most four decimals. -/
def Payload.Plain : Payload → Prop
  | .shopify order => 0 ≤ Shopify.currentSubtotal env order ∧
      (Shopify.currentSubtotal env order ≤ Shopify.originalSubtotal env order ∨
        Shopify.currentSubtotal env order = 0)
  | .youcan order _ => (YouCan.figuresOf env order).discounts = 0
  | .lightfunnels _ order => Lightfunnels.discounts env order = 0 ∧
      ∀ price ∈ Lightfunnels.itemPrices env order, 0 ≤ price

variable {env}

theorem OrderFigures.Rounds.wellFormed_iff {f : OrderFigures} (h : f.Rounds order) :
    WellFormedOrder order ↔ f.lineIds.Nodup ∧
      toFixed4 f.netSales = max (toFixed4 (f.grossSales - f.discounts - f.refunds) -
        roundingLoss [f.grossSales, -f.discounts, -f.refunds]) 0 ∧
      (f.lineTotals.map toFixed4).sum = toFixed4 f.grossSales - toFixed4 f.discounts := by
  rw [← rounded_remaining, ← h.lineIds, ← h.netSales, ← h.grossSales, ← h.discounts, ← h.refunds,
    ← h.lineTotals]
  exact ⟨fun hwell => ⟨hwell.1, hwell.2, hwell.3⟩, fun hparts => ⟨hparts.1, hparts.2.1, hparts.2.2⟩⟩

theorem Shopify.sub_refunds (original current : Decimal) :
    original - Shopify.refunds original current = min original current := by
  rw [Shopify.refunds]
  split
  · rename_i hgrown
    rw [min_eq_left (sub_neg.1 hgrown).le, sub_zero]
  · rename_i hnot
    rw [min_eq_right (sub_nonneg.1 (not_lt.1 hnot)), sub_sub_cancel]

theorem Payload.wellFormed_iff (hok : payload.normalize env = .ok order)
    (hconsistent : payload.Consistent env) :
    WellFormedOrder order ↔ payload.IdsApart ∧ payload.Balanced env := by
  have hrounds := (Payload.normalize_spec hok).wellFormed_iff
  cases payload with
  | shopify raw =>
    obtain ⟨hids, hsum⟩ := hconsistent
    refine hrounds.trans (and_congr (iff_of_true hids trivial) (and_congr ?_ ?_))
    · have hremaining : Shopify.originalSubtotal env raw + Shopify.totalDiscounts env raw -
          Shopify.totalDiscounts env raw - Shopify.refunds (Shopify.originalSubtotal env raw)
            (Shopify.currentSubtotal env raw) =
          min (Shopify.originalSubtotal env raw) (Shopify.currentSubtotal env raw) := by
        rw [add_sub_cancel_right, Shopify.sub_refunds]
      rw [← hremaining]
      exact Iff.rfl
    · change ((Shopify.linePrices env raw).map toFixed4).sum =
        toFixed4 (Shopify.originalSubtotal env raw + Shopify.totalDiscounts env raw) -
          toFixed4 (Shopify.totalDiscounts env raw) ↔ _
      rw [roundingLoss, List.sum_cons, List.map_cons, List.sum_cons, hsum,
        add_comm (Shopify.totalDiscounts env raw)]
      constructor <;> intro h <;> linarith
  | youcan raw storeCurrency =>
    obtain ⟨hids, -⟩ := hconsistent
    refine hrounds.trans (and_congr (nodup_standingId_iff hids) (and_congr ?_ ?_))
    · change toFixed4 (max (YouCan.remaining env raw) 0) = _ ↔ _
      rw [toFixed4_max_zero]
      exact Iff.rfl
    · change ((YouCan.lineAmounts env raw).map toFixed4).sum =
        toFixed4 (YouCan.lineAmounts env raw).sum -
          toFixed4 (YouCan.figuresOf env raw).discounts ↔
        toFixed4 (YouCan.figuresOf env raw).discounts = roundingLoss (YouCan.lineAmounts env raw)
      rw [roundingLoss]
      constructor <;> intro h <;> linarith
  | lightfunnels now raw =>
    obtain ⟨hids, hsum⟩ := hconsistent
    refine hrounds.trans (and_congr (nodup_standingId_iff hids) (and_congr ?_ ?_))
    · change toFixed4 (max _ 0) = _ ↔ _
      rw [toFixed4_max_zero]
      exact Iff.rfl
    · change (((Lightfunnels.itemPrices env raw).map fun price => max price 0).map toFixed4).sum =
        toFixed4 (Lightfunnels.grossSales env raw) -
          toFixed4 (Lightfunnels.discounts env raw) ↔
        toFixed4 (Lightfunnels.discounts env raw) +
          ((Lightfunnels.itemPrices env raw).map fun price => max (toFixed4 (-price)) 0).sum =
        roundingLoss (Lightfunnels.itemPrices env raw)
      -- a price that is cut off at zero, and what is cut off
      have hcut : (((Lightfunnels.itemPrices env raw).map fun price => max price 0).map
          toFixed4).sum = ((Lightfunnels.itemPrices env raw).map toFixed4).sum +
          ((Lightfunnels.itemPrices env raw).map fun price => max (toFixed4 (-price)) 0).sum := by
        rw [← List.sum_map_add, List.map_map]
        refine congrArg List.sum (List.map_congr_left fun price _ => ?_)
        rw [Function.comp_apply, toFixed4_max_zero, toFixed4_neg_eq]
        rcases le_total (toFixed4 price) 0 with hle | hle
        · rw [max_eq_right hle, max_eq_left (neg_nonneg.2 hle), add_neg_cancel]
        · rw [max_eq_left hle, max_eq_right (neg_nonpos.2 hle), add_zero]
      rw [hcut, roundingLoss, hsum]
      constructor <;> intro h <;> linarith

theorem toFixed4_sub {x y : Decimal} (hx : toFixed4 x = x) (hy : toFixed4 y = y) :
    toFixed4 (x - y) = x - y := by
  rw [sub_eq_add_neg]
  exact toFixed4_add hx (toFixed4_neg hy)

theorem roundingLoss_three {x y z : Decimal} (hx : toFixed4 x = x) (hy : toFixed4 y = y)
    (hz : toFixed4 z = z) : roundingLoss [x, -y, -z] = 0 := by
  refine roundingLoss_eq_zero fun amount hamount => ?_
  simp only [List.mem_cons, List.not_mem_nil, or_false] at hamount
  rcases hamount with rfl | rfl | rfl
  · exact hx
  · exact toFixed4_neg hy
  · exact toFixed4_neg hz

theorem Payload.balanced_iff (hok : payload.normalize env = .ok order)
    (hconsistent : payload.Consistent env)
    (hfour : ∀ amount ∈ payload.amounts env, toFixed4 amount = amount) :
    payload.Balanced env ↔ payload.Plain env := by
  cases payload with
  | shopify raw =>
    have horiginal := hfour (Shopify.originalSubtotal env raw) (by simp [Payload.amounts])
    have hcurrent := hfour (Shopify.currentSubtotal env raw) (by simp [Payload.amounts])
    have hdiscounts := hfour (Shopify.totalDiscounts env raw) (by simp [Payload.amounts])
    have hlines :
        roundingLoss (Shopify.totalDiscounts env raw :: Shopify.linePrices env raw) = 0 :=
      roundingLoss_eq_zero fun amount hamount => hfour amount (List.mem_cons_of_mem _
        (List.mem_cons_of_mem _ hamount))
    rw [Payload.Balanced, Payload.Plain]
    generalize Shopify.originalSubtotal env raw = original at *
    generalize Shopify.currentSubtotal env raw = current at *
    have hrefunds : toFixed4 (Shopify.refunds original current) =
        Shopify.refunds original current := by
      rw [Shopify.refunds]
      split
      · exact toFixed4_zero
      · exact toFixed4_sub horiginal hcurrent
    have hmin : toFixed4 (min original current) = min original current := by
      rw [← Shopify.sub_refunds]
      exact toFixed4_sub horiginal hrefunds
    rw [hcurrent, hmin, hlines,
      roundingLoss_three (toFixed4_add horiginal hdiscounts) hdiscounts hrefunds, sub_zero]
    constructor
    · rintro ⟨hnet, -⟩
      refine ⟨hnet ▸ le_max_right _ _, ?_⟩
      rcases max_choice (min original current) 0 with hmax | hmax
      · exact .inl (hnet.trans hmax ▸ min_le_left _ _)
      · exact .inr (hnet.trans hmax)
    · rintro ⟨hnonneg, hle | hzero⟩
      · exact ⟨by rw [min_eq_right hle, max_eq_left hnonneg], rfl⟩
      · exact ⟨by rw [hzero, max_eq_right (min_le_right _ _)], rfl⟩
  | youcan raw storeCurrency =>
    have hdiscounts := hfour (YouCan.figuresOf env raw).discounts (by simp [Payload.amounts])
    have hrefunds := hfour (YouCan.refundsOf env raw) (by simp [Payload.amounts])
    have hlines : ∀ amount ∈ YouCan.lineAmounts env raw, toFixed4 amount = amount :=
      fun amount hamount => hfour amount (by simp [Payload.amounts, hamount])
    have hgross : toFixed4 (YouCan.figuresOf env raw).grossSales =
        (YouCan.figuresOf env raw).grossSales := toFixed4_sum hlines
    rw [Payload.Balanced, Payload.Plain]
    rw [roundingLoss_three hgross hdiscounts hrefunds, sub_zero,
      roundingLoss_eq_zero hlines, hdiscounts]
    exact ⟨fun h => h.2, fun h => ⟨rfl, h⟩⟩
  | lightfunnels now raw =>
    obtain ⟨-, hsum⟩ := hconsistent
    have hdiscounts := hfour (Lightfunnels.discounts env raw) (by simp [Payload.amounts])
    have hrefunds := hfour (Lightfunnels.refunds env raw) (by simp [Payload.amounts])
    have hprices : ∀ amount ∈ Lightfunnels.itemPrices env raw, toFixed4 amount = amount :=
      fun amount hamount => hfour amount (by simp [Payload.amounts, hamount])
    have hgross :
        toFixed4 (Lightfunnels.grossSales env raw) = Lightfunnels.grossSales env raw := by
      rw [← hsum]
      exact toFixed4_sum hprices
    have hnonneg := (Lightfunnels.normalize_spec hok).2.1
    rw [Payload.Balanced, Payload.Plain]
    rw [roundingLoss_three hgross hdiscounts hrefunds, sub_zero, roundingLoss_eq_zero hprices,
      hdiscounts]
    -- a sum of what is not negative
    have hcut : ∀ amount ∈ (Lightfunnels.itemPrices env raw).map
        (fun price => max (toFixed4 (-price)) 0), 0 ≤ amount := by
      intro amount hamount
      obtain ⟨price, -, rfl⟩ := List.mem_map.1 hamount
      exact le_max_right _ _
    have hcutSum := List.sum_nonneg hcut
    constructor
    · rintro ⟨-, hzero⟩
      refine ⟨by linarith, fun price hprice => ?_⟩
      have hnone := List.all_zero_of_le_zero_le_of_sum_eq_zero hcut (by linarith)
        (List.mem_map_of_mem hprice)
      rw [toFixed4_neg_eq, hprices price hprice] at hnone
      have hle := le_max_left (-price) 0
      rw [hnone] at hle
      exact neg_nonpos.1 hle
    · rintro ⟨hzero, hall⟩
      refine ⟨rfl, ?_⟩
      rw [hzero, zero_add]
      refine List.sum_eq_zero fun amount hamount => ?_
      obtain ⟨price, hprice, rfl⟩ := List.mem_map.1 hamount
      rw [toFixed4_neg_eq, hprices price hprice]
      exact max_eq_right (neg_nonpos.2 (hall price hprice))

/-- **Which normalized orders are well formed**: those of payloads whose made up identifiers are
apart and which are balanced. -/
theorem normalizedOrders {payload : Payload} {order : NormalizedEcommerceOrder}
    (hok : payload.normalize env = .ok order) (hconsistent : payload.Consistent env) :
    (WellFormedOrder order ↔ payload.IdsApart ∧ payload.Balanced env) ∧
      ((∀ amount ∈ payload.amounts env, toFixed4 amount = amount) →
        (payload.Balanced env ↔ payload.Plain env)) :=
  ⟨Payload.wellFormed_iff hok hconsistent, Payload.balanced_iff hok hconsistent⟩

/-! ### An order with a discount -/

def plainReader : PayloadReader where
  decimal_empty := rfl
  decimal := fun text =>
    [("0", 0), ("1", 1), ("20", 20), ("50", 50), ("90", 90), ("110", 110), ("120", 120)].lookup text
  date := fun text =>
    [("2026-07-18T10:00:00.000Z", 1784368800000),
      ("2026-07-19T10:00:00.000Z", 1784455200000)].lookup text
  toLowerCase := id
  toUpperCase := id

def youCanPayload (total : String) (variants : List Json) : Payload :=
  .youcan (.object [
    ("id", .string "72aa7882-3898-49a8-87a2-506af3dd7320"),
    ("created_at", .string "2026-07-18T10:00:00.000Z"),
    ("updated_at", .string "2026-07-19T10:00:00.000Z"),
    ("total", .number total),
    ("shipping", .object [("price", .number "20")]),
    ("variants", .array variants)]) "MAD"

def identifiedLines : List Json :=
  [.object [("id", .string "line-1"), ("price", .number "50"), ("quantity", .number "1")],
    .object [("id", .string "line-2"), ("price", .number "50"), ("quantity", .number "1")]]

def variantLines : List Json :=
  [.object [("product_variant_id", .string "cape"), ("price", .number "50"),
      ("quantity", .number "1")],
    .object [("product_variant_id", .string "cape"), ("price", .number "50"),
      ("quantity", .number "1")]]

theorem normalizedOrders_plain : ∃ order,
    (youCanPayload "120" identifiedLines).normalize plainReader = .ok order ∧
      WellFormedOrder order := by
  have hsome : ((youCanPayload "120" identifiedLines).normalize plainReader).toOption.isSome =
      true := by
    decide +kernel
  cases hok : (youCanPayload "120" identifiedLines).normalize plainReader with
  | error message =>
    rw [hok] at hsome
    cases hsome
  | ok order =>
    have hconsistent : (youCanPayload "120" identifiedLines).Consistent plainReader :=
      ⟨by decide +kernel, 0, le_rfl, by decide +kernel⟩
    have hall := normalizedOrders hok hconsistent
    refine ⟨order, rfl, hall.1.2 ⟨?_, (hall.2 ?_).2 ?_⟩⟩
    · refine (nodup_standingId_iff ?_).1 ?_ <;> decide +kernel
    · decide +kernel
    · change (YouCan.figuresOf plainReader _).discounts = 0
      decide +kernel

/-- **An order with a discount**, two of whose lines are of one variant and have no identifiers. -/
theorem normalizedOrders_discounted : ¬ ∀ (payload : Payload) (order : NormalizedEcommerceOrder),
    payload.normalize plainReader = .ok order → payload.Consistent plainReader →
      WellFormedOrder order := by
  intro h
  have hread : ((youCanPayload "90" variantLines).normalize plainReader).toOption.map
      (fun order => (order.lines.map NormalizedOrderLine.externalLineId,
        (order.lines.map NormalizedOrderLine.totalPrice).sum, order.grossSales - order.discounts)) =
      some (["cape", "cape"], 100, 70) := by
    decide +kernel
  cases hok : (youCanPayload "90" variantLines).normalize plainReader with
  | error message =>
    rw [hok] at hread
    cases hread
  | ok order =>
    rw [hok] at hread
    have hboth := Prod.mk.inj (Option.some.inj hread)
    have hwell := h _ order hok ⟨by decide +kernel, 30, by norm_num, by decide +kernel⟩
    have hids := hwell.lineIds
    rw [hboth.1] at hids
    exact absurd hids (by decide)

end Zomaal
