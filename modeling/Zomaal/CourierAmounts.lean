/-
**What the courier is told to collect, and what is outstanding.**

When an order is dispatched, its amount is asked for again.  Shopify's adapter tells the subtotal,
YouCan's and Lightfunnels' the total, whatever was paid.  This module embeds what `dispatchOrder`
does with the amount, and the amounts of `fetchFulfillmentPreview` and `getFulfillmentPreview`.

Main results:

* `courierAmounts` — **when the courier is told the right amount**;
* `courierAmounts_paid` — an order that is paid for twice.
-/

import Zomaal.ManualOrders
import Zomaal.NormalizedFigures
import Zomaal.ReturnLosses
import Zomaal.SyncPages

set_option autoImplicit false

namespace Zomaal

variable (env : PayloadReader)

/-! ### Previews -/

/-- What a preview tells of money: `new Prisma.Decimal(preview.codAmount)` and the currency. -/
structure CodPreview where
  codAmount : Decimal
  currency : String
  deriving DecidableEq

def Shopify.codPreview (order : Shopify.RawShopifyRevenueOrder) : Option CodPreview :=
  (env.decimal order.currentSubtotalPriceSet.amount).map fun codAmount =>
    { codAmount, currency := order.currentSubtotalPriceSet.currencyCode }

def totalText : Json → String
  | .number text => text
  | .string text => if text = "" then "0" else text
  | .null | .boolean false => "0"
  | .boolean true => "true"
  | .array _ | .object _ => "[object Object]"

def currencyText (fallback : String) : Json → String
  | .string text => if text = "" then fallback else text
  | _ => fallback

def YouCan.codPreview (order : Json) (storeCurrency : String) : Option CodPreview :=
  (env.decimal (totalText (order.field "total"))).map fun codAmount =>
    { codAmount
      currency := env.toUpperCase (currencyText storeCurrency (order.field "currency")) }

def Lightfunnels.codPreview (order : Json) : Option CodPreview :=
  (env.decimal (totalText (order.field "total"))).map fun codAmount =>
    { codAmount, currency := env.toUpperCase (currencyText "" (order.field "currency")) }

/-! ### Orders -/

/-- **An order**: of a platform, as its adapters read it, or manual, as it was created. -/
inductive PlacedOrder
  | platform (payload : Payload)
  | manual (dto : ManualOrders.CreateManualOrderDto) (moment : ManualOrders.Moment)

def manualOrder (dto : ManualOrders.CreateManualOrderDto) (moment : ManualOrders.Moment) :
    Option (ManualOrders.OrderRow ManualOrders.Payload) :=
  (dto.prepare ⟨id, Function.injective_id⟩ moment).toOption

structure OrderMoney where
  netSales : Decimal
  shipping : Decimal
  tax : Decimal
  /-- What the customer has paid; nothing, of a manual order. -/
  paid : Decimal
  currency : String
  deriving DecidableEq

def PlacedOrder.money : PlacedOrder → Option OrderMoney
  | .platform payload => (payload.normalize env).toOption.map fun order =>
    { netSales := order.netSales, shipping := order.shipping, tax := order.tax,
      paid := order.totalCollected, currency := order.currency }
  | .manual dto moment => (manualOrder dto moment).map fun order =>
    { netSales := order.persisted.netSales, shipping := order.persisted.shipping, tax := 0,
      paid := 0, currency := order.currency }

def PlacedOrder.codPreview : PlacedOrder → Option CodPreview
  | .platform (.shopify order) => Shopify.codPreview env order
  | .platform (.youcan order storeCurrency) => YouCan.codPreview env order storeCurrency
  | .platform (.lightfunnels _ order) => Lightfunnels.codPreview env order
  | .manual dto moment => (manualOrder dto moment).map fun order =>
    { codAmount := toFixed2 order.persisted.totalCollected, currency := order.currency }

def OrderMoney.outstanding (m : OrderMoney) : Decimal := max (m.netSales + m.shipping - m.paid) 0

/-! ### Dispatching -/

variable (service : CurrencyService) (locale : Locale)

def CurrencyService.convertAmount (amount : Decimal) (fromCurrency toCurrency : String) :
    Except String Decimal :=
  match service.convertOrNull locale amount fromCurrency toCurrency with
  | some converted => .ok converted
  | none => .error ("Exchange rate " ++ locale.toUpperCase fromCurrency ++ " → " ++
      locale.toUpperCase toCurrency ++ " is unavailable. Try again later.")

/-- What a dispatch writes; every courier's request has the amount under its own name. -/
structure DispatchedCod where
  sent : Decimal
  codAmount : Decimal
  codStatus : Option CodStatus
  deriving DecidableEq

def dispatchCod (preview : CodPreview) : Except String DispatchedCod := do
  let converted ← service.convertAmount locale preview.codAmount preview.currency "MAD"
  let codAmount := toFixed2 converted
  return {
    sent := codAmount
    codAmount
    codStatus := if 0 < codAmount then some .pending else none }

/-- **What is expected of a dispatch**: what is outstanding is sent and stored, and nothing is
pending if nothing is outstanding. -/
structure CollectsOutstanding (m : OrderMoney) (rate : Decimal) (cod : DispatchedCod) : Prop where
  sent : cod.sent = toFixed2 (m.outstanding * rate)
  codAmount : cod.codAmount = toFixed2 (m.outstanding * rate)
  codStatus : cod.codStatus = if 0 < toFixed2 (m.outstanding * rate) then some .pending else none

def SameCents (rate amount other : Decimal) : Prop :=
  toFixed2 (amount * rate) = toFixed2 (other * rate)

instance (rate amount other : Decimal) : Decidable (SameCents rate amount other) :=
  inferInstanceAs (Decidable (_ = _))

variable {env service locale}

theorem convertOrNull_eq {rate : Decimal} {source target : String}
    (h : service.convertOrNull locale 1 source target = some rate) (amount : Decimal) :
    service.convertOrNull locale amount source target = some (amount * rate) := by
  rw [CurrencyService.convertOrNull] at h ⊢
  split at h
  · rename_i hsame
    obtain rfl := Option.some.inj h
    rw [if_pos hsame, mul_one]
  · rename_i hother
    rw [if_neg hother]
    split at h
    · split at h
      · cases h
      · rename_i hrates
        obtain rfl := Option.some.inj h
        rw [if_neg hrates, one_mul]
    · cases h

theorem collectsOutstanding_iff {m : OrderMoney} {preview : CodPreview} {cod : DispatchedCod}
    {rate : Decimal} (hsame : preview.currency = m.currency)
    (hrate : service.convertOrNull locale 1 m.currency "MAD" = some rate)
    (hcod : dispatchCod service locale preview = .ok cod) :
    CollectsOutstanding m rate cod ↔ SameCents rate preview.codAmount m.outstanding := by
  rw [dispatchCod, CurrencyService.convertAmount, hsame, convertOrNull_eq hrate] at hcod
  obtain rfl := Except.ok.inj hcod
  constructor
  · exact fun h => h.codAmount
  · intro h
    rw [SameCents] at h
    refine ⟨h, h, ?_⟩
    dsimp only
    rw [h]

theorem SameCents.near {rate amount other : Decimal} (h : SameCents rate amount other) :
    |(amount - other) * rate| ≤ 1 / 100 := by
  have hamount := toFixed2_error (amount * rate)
  have hother := toFixed2_error (other * rate)
  rw [SameCents] at h
  rw [h] at hamount
  rw [abs_le] at hamount hother ⊢
  constructor <;> linarith [hamount.1, hamount.2, hother.1, hother.2]

/-! ### Which previews tell what is outstanding -/

variable (env)

def PlacedOrder.amounts : PlacedOrder → List Decimal
  | .platform (.shopify order) =>
    [Shopify.currentSubtotal env order, (Shopify.figures env order).shipping,
      (Shopify.figures env order).totalCollected]
  | .platform (.youcan order _) =>
    [(YouCan.figuresOf env order).shipping, (YouCan.figuresOf env order).tax,
      (YouCan.figuresOf env order).orderTotal, YouCan.refundsOf env order] ++
      YouCan.lineAmounts env order
  | .platform (.lightfunnels _ order) =>
    [Lightfunnels.grossSales env order, Lightfunnels.discounts env order,
      Lightfunnels.refunds env order, Lightfunnels.shipping env order,
      Lightfunnels.netPayment env order]
  | .manual dto moment =>
    ((manualOrder dto moment).map fun order => [order.netSales, order.shipping]).getD []

/-- The payment status that YouCan's adapter reads says that something was collected. -/
def YouCan.isCollected (order : Json) : Bool :=
  YouCan.isCollectedStatus (YouCan.mapPaymentStatus (YouCan.paymentStatusSlug env order)
    (YouCan.refundsOf env order) (YouCan.figuresOf env order).orderTotal)

/-- **The orders whose preview tells what is outstanding.** Shopify: shipping and payment cancel
out. YouCan: nothing was collected and shipping is not discounted, or what was collected makes up
for it. Lightfunnels: the total is what is left of sales and shipping. Manual: two decimals. -/
def PlacedOrder.Settled : PlacedOrder → Prop
  | .platform (.shopify order) =>
    let subtotal := Shopify.currentSubtotal env order
    let shipping := (Shopify.figures env order).shipping
    let paid := (Shopify.figures env order).totalCollected
    (shipping = paid ∧ 0 ≤ subtotal) ∨ (subtotal = 0 ∧ shipping ≤ paid)
  | .platform (.youcan order _) =>
    let f := YouCan.figuresOf env order
    let refunds := YouCan.refundsOf env order
    if YouCan.isCollected env order then
      (f.orderTotal ≤ refunds ∧ f.orderTotal = f.shipping) ∨
        (refunds < f.orderTotal ∧ f.shipping + refunds = 2 * f.orderTotal)
    else f.shipping ≤ f.orderTotal ∧ f.orderTotal ≤ f.grossSales + f.shipping
  | .platform (.lightfunnels _ order) =>
    let left := max (Lightfunnels.grossSales env order - Lightfunnels.discounts env order -
      Lightfunnels.refunds env order) 0 + Lightfunnels.shipping env order
    let total := Lightfunnels.total env order
    let paid := Lightfunnels.netPayment env order
    left = total + paid ∨ (total = 0 ∧ left ≤ paid)
  | .manual dto moment =>
    ∀ order ∈ manualOrder dto moment,
      toFixed2 (order.netSales + order.shipping) = max (order.netSales + order.shipping) 0

variable {env}

theorem eq_max_sub_iff {total left paid : Decimal} (htotal : 0 ≤ total) :
    total = max (left - paid) 0 ↔ left = total + paid ∨ (total = 0 ∧ left ≤ paid) := by
  constructor
  · intro h
    rcases max_cases (left - paid) 0 with ⟨hmax, -⟩ | ⟨hmax, hneg⟩
    · exact .inl (by linarith)
    · exact .inr ⟨h.trans hmax, by linarith⟩
  · rintro (h | ⟨rfl, hle⟩)
    · rw [h, add_sub_cancel_right, max_eq_left htotal]
    · rw [max_eq_right (sub_nonpos.2 hle)]

theorem YouCan.settled_uncollected {gross shipping total : Decimal} (hgross : 0 ≤ gross)
    (hshipping : 0 ≤ shipping) :
    total = max (max (gross -
        (if 0 < gross + shipping - total then gross + shipping - total else 0) - 0) 0 +
          shipping - 0) 0 ↔ shipping ≤ total ∧ total ≤ gross + shipping := by
  split
  · rename_i hdiscount
    rw [sub_zero, sub_zero]
    have hleft : gross - (gross + shipping - total) = total - shipping := by ring
    rw [hleft]
    rcases max_cases (total - shipping) 0 with ⟨hmax, hle⟩ | ⟨hmax, hlt⟩
    · rw [hmax, sub_add_cancel]
      constructor
      · intro _
        constructor <;> linarith
      · intro h
        exact (max_eq_left (hshipping.trans h.1)).symm
    · rw [hmax, zero_add, max_eq_left hshipping]
      constructor
      · intro h
        linarith
      · rintro ⟨h, -⟩
        linarith
  · rename_i hdiscount
    rw [sub_zero, sub_zero, sub_zero, max_eq_left hgross,
      max_eq_left (add_nonneg hgross hshipping)]
    constructor
    · rintro rfl
      exact ⟨le_add_of_nonneg_left hgross, le_rfl⟩
    · rintro ⟨-, hle⟩
      linarith

theorem YouCan.settled_collected {gross shipping total refunds : Decimal}
    (hshipping : 0 ≤ shipping) (hrefunds : 0 ≤ refunds) :
    total = max (max (gross -
        (if 0 < gross + shipping - total then gross + shipping - total else 0) - refunds) 0 +
          shipping - max (total - refunds) 0) 0 ↔
      (total ≤ refunds ∧ total = shipping) ∨
        (refunds < total ∧ shipping + refunds = 2 * total) := by
  -- discounts leave no more than the total without the shipping
  have hleft : gross - (if 0 < gross + shipping - total then gross + shipping - total else 0) ≤
      total - shipping := by
    split <;> linarith
  generalize gross - (if 0 < gross + shipping - total then gross + shipping - total else 0) = left
    at hleft
  rcases le_or_gt total refunds with hle | hlt
  · rw [max_eq_right (by linarith : left - refunds ≤ 0),
      max_eq_right (by linarith : total - refunds ≤ 0), zero_add, sub_zero, max_eq_left hshipping]
    constructor
    · exact fun h => .inl ⟨hle, h⟩
    · rintro (⟨-, h⟩ | ⟨h, -⟩)
      · exact h
      · exact absurd hle (not_le.2 h)
  · rw [max_eq_left (by linarith : 0 ≤ total - refunds)]
    rcases le_or_gt refunds left with hmore | hless
    · rw [max_eq_left (by linarith : 0 ≤ left - refunds),
        max_eq_right (by linarith : left - refunds + shipping - (total - refunds) ≤ 0)]
      constructor
      · intro h
        linarith
      · rintro (⟨h, -⟩ | ⟨-, h⟩)
        · exact absurd h (not_le.2 hlt)
        · linarith
    · rw [max_eq_right (by linarith : left - refunds ≤ 0), zero_add]
      constructor
      · intro h
        rcases max_cases (shipping - (total - refunds)) 0 with ⟨hmax, -⟩ | ⟨hmax, -⟩
        · exact .inr ⟨hlt, by linarith⟩
        · linarith
      · rintro (⟨h, -⟩ | ⟨-, h⟩)
        · exact absurd h (not_le.2 hlt)
        · rw [max_eq_left (by linarith : 0 ≤ shipping - (total - refunds))]
          linarith

theorem YouCan.refundsOf_nonneg {order : Json} (h : (YouCan.figuresOf env order).NonNegative) :
    0 ≤ YouCan.refundsOf env order := by
  rw [YouCan.refundsOf, YouCan.Figures.refunds]
  split
  · exact h.orderTotal
  · exact h.rawRefunds

theorem YouCan.refunds_of_uncollected {order : Json}
    (hnonneg : 0 ≤ YouCan.refundsOf env order) (h : YouCan.isCollected env order = false) :
    YouCan.refundsOf env order = 0 := by
  by_contra hne
  have hpos : 0 < YouCan.refundsOf env order := lt_of_le_of_ne hnonneg (Ne.symm hne)
  rw [YouCan.isCollected, YouCan.mapPaymentStatus.eq_def, if_pos hpos] at h
  split at h <;> cases h

theorem ok_of_toOption {α ε : Type} {x : Except ε α} {a : α} (h : x.toOption = some a) :
    x = .ok a := by
  cases x with
  | error _ => cases h
  | ok b => exact congrArg Except.ok (Option.some.inj h)

theorem decimal_totalText {value : Json} {amount : Decimal} (h : env.amount value = some amount) :
    env.decimal (totalText value) = some amount := by
  cases value with
  | number text => exact h
  | string text =>
    rw [totalText]
    split
    · rename_i hempty
      rw [PayloadReader.amount, hempty, env.decimal_empty] at h
      cases h
    · exact h
  | _ => cases h

theorem manualOrder_total {dto : ManualOrders.CreateManualOrderDto} {moment : ManualOrders.Moment}
    {order : ManualOrders.OrderRow ManualOrders.Payload} (h : manualOrder dto moment = some order) :
    order.totalCollected = order.netSales + order.shipping := by
  have hprepare := ok_of_toOption h
  rw [ManualOrders.CreateManualOrderDto.prepare] at hprepare
  dsimp only at hprepare
  split at hprepare
  · cases hprepare
  obtain ⟨lines, -, hprepare⟩ := Except.bind_eq_ok hprepare
  obtain ⟨_, -, hprepare⟩ := Except.bind_eq_ok hprepare
  obtain ⟨_, -, hprepare⟩ := Except.bind_eq_ok hprepare
  obtain ⟨_, -, hprepare⟩ := Except.bind_eq_ok hprepare
  obtain rfl := Except.ok.inj hprepare
  rfl

theorem toFixed4_max {x : Decimal} (h : toFixed4 x = x) : toFixed4 (max x 0) = max x 0 := by
  rw [toFixed4_max_zero, h]

theorem PlacedOrder.settled_iff {order : PlacedOrder} {m : OrderMoney} {preview : CodPreview}
    (hmoney : order.money env = some m) (hpreview : order.codPreview env = some preview)
    (huntaxed : m.tax = 0) (hfour : ∀ amount ∈ order.amounts env, toFixed4 amount = amount) :
    preview.codAmount = m.outstanding ↔ order.Settled env := by
  cases order with
  | platform payload =>
    obtain ⟨normalized, hok, rfl⟩ := Option.map_eq_some_iff.1 hmoney
    replace hok := ok_of_toOption hok
    have hrounds := Payload.normalize_spec hok
    rw [OrderMoney.outstanding]
    dsimp only at huntaxed ⊢
    rw [hrounds.tax] at huntaxed
    rw [hrounds.netSales, hrounds.shipping, hrounds.totalCollected]
    cases payload with
    | shopify raw =>
      obtain ⟨amount, hread, rfl⟩ := Option.map_eq_some_iff.1 hpreview
      have hamount : Shopify.currentSubtotal env raw = amount := by
        rw [Shopify.currentSubtotal, PayloadReader.decimalOf, hread, Option.getD_some]
      obtain rfl := hamount
      have hsubtotal := hfour (Shopify.currentSubtotal env raw) (by simp [amounts])
      have hshipping := hfour (Shopify.figures env raw).shipping (by simp [amounts])
      have hpaid := hfour (Shopify.figures env raw).totalCollected (by simp [amounts])
      change Shopify.currentSubtotal env raw = max (toFixed4 (Shopify.currentSubtotal env raw) +
        toFixed4 (Shopify.figures env raw).shipping -
          toFixed4 (Shopify.figures env raw).totalCollected) 0 ↔ _
      rw [hsubtotal, hshipping, hpaid, Settled]
      generalize (Shopify.figures env raw).shipping = shipping
      generalize (Shopify.figures env raw).totalCollected = paid
      generalize Shopify.currentSubtotal env raw = subtotal
      constructor
      · intro h
        rcases max_cases (subtotal + shipping - paid) 0 with ⟨hmax, hle⟩ | ⟨hmax, hlt⟩
        · exact .inl ⟨by linarith, by linarith⟩
        · exact .inr ⟨h.trans hmax, by linarith⟩
      · rintro (⟨rfl, hnonneg⟩ | ⟨rfl, hle⟩)
        · rw [add_sub_cancel_right, max_eq_left hnonneg]
        · rw [zero_add, max_eq_right (sub_nonpos.2 hle)]
    | youcan raw storeCurrency =>
      obtain ⟨-, hnonneg, hread⟩ := YouCan.normalize_spec hok
      obtain ⟨amount, hamount, rfl⟩ := Option.map_eq_some_iff.1 hpreview
      rw [decimal_totalText hread] at hamount
      obtain rfl := Option.some.inj hamount
      have hshipping := hfour (YouCan.figuresOf env raw).shipping (by simp [amounts])
      have htax := hfour (YouCan.figuresOf env raw).tax (by simp [amounts])
      have htotal := hfour (YouCan.figuresOf env raw).orderTotal (by simp [amounts])
      have hrefunds := hfour (YouCan.refundsOf env raw) (by simp [amounts])
      have hgross : toFixed4 (YouCan.figuresOf env raw).grossSales =
          (YouCan.figuresOf env raw).grossSales :=
        toFixed4_sum fun amount hamount => hfour amount (by simp [amounts, hamount])
      have hnone : (YouCan.figuresOf env raw).tax = 0 := htax.symm.trans huntaxed
      have hdiscounts : (YouCan.figuresOf env raw).discounts =
          if 0 < (YouCan.figuresOf env raw).grossSales +
            (YouCan.figuresOf env raw).shipping - (YouCan.figuresOf env raw).orderTotal then
            (YouCan.figuresOf env raw).grossSales + (YouCan.figuresOf env raw).shipping -
              (YouCan.figuresOf env raw).orderTotal
          else 0 := by
        rw [YouCan.Figures.discounts, hnone, add_zero]
      have hround : toFixed4 (YouCan.figuresOf env raw).discounts =
          (YouCan.figuresOf env raw).discounts := by
        rw [hdiscounts]
        split
        · exact toFixed4_sub (toFixed4_add hgross hshipping) htotal
        · exact toFixed4_zero
      have hleft := toFixed4_max (toFixed4_sub (toFixed4_sub hgross hround) hrefunds)
      have hcollected : toFixed4 (YouCan.collected env raw) = YouCan.collected env raw := by
        rw [YouCan.collected]
        split
        · exact toFixed4_max (toFixed4_sub htotal hrefunds)
        · exact toFixed4_zero
      have hnotNeg := YouCan.refundsOf_nonneg hnonneg
      change (YouCan.figuresOf env raw).orderTotal =
        max (toFixed4 (max ((YouCan.figuresOf env raw).grossSales -
          (YouCan.figuresOf env raw).discounts - YouCan.refundsOf env raw) 0) +
            toFixed4 (YouCan.figuresOf env raw).shipping -
              toFixed4 (YouCan.collected env raw)) 0 ↔ _
      rw [hleft, hshipping, hcollected, hdiscounts, Settled]
      cases hstatus : YouCan.isCollected env raw with
      | false =>
        have hunpaid : YouCan.collected env raw = 0 :=
          if_neg (Bool.eq_false_iff.1 hstatus)
        rw [YouCan.refunds_of_uncollected hnotNeg hstatus, hunpaid, if_neg Bool.false_ne_true]
        exact YouCan.settled_uncollected hnonneg.grossSales hnonneg.shipping
      | true =>
        have hpaid : YouCan.collected env raw = max ((YouCan.figuresOf env raw).orderTotal -
            YouCan.refundsOf env raw) 0 := if_pos hstatus
        rw [hpaid, if_pos rfl]
        exact YouCan.settled_collected hnonneg.shipping hnotNeg
    | lightfunnels now raw =>
      obtain ⟨-, hdiscounts, htotal, hread⟩ := Lightfunnels.normalize_spec hok
      obtain ⟨amount, hamount, rfl⟩ := Option.map_eq_some_iff.1 hpreview
      rw [decimal_totalText hread] at hamount
      obtain rfl := Option.some.inj hamount
      have hgross := hfour (Lightfunnels.grossSales env raw) (by simp [amounts])
      have hdiscounts := hfour (Lightfunnels.discounts env raw) (by simp [amounts])
      have hrefunds := hfour (Lightfunnels.refunds env raw) (by simp [amounts])
      have hshipping := hfour (Lightfunnels.shipping env raw) (by simp [amounts])
      have hpaid := hfour (Lightfunnels.netPayment env raw) (by simp [amounts])
      have hleft := toFixed4_max (toFixed4_sub (toFixed4_sub hgross hdiscounts) hrefunds)
      change Lightfunnels.total env raw = max (toFixed4 (max (Lightfunnels.grossSales env raw -
        Lightfunnels.discounts env raw - Lightfunnels.refunds env raw) 0) +
          toFixed4 (Lightfunnels.shipping env raw) -
            toFixed4 (Lightfunnels.netPayment env raw)) 0 ↔ _
      rw [hleft, hshipping, hpaid]
      exact eq_max_sub_iff htotal
  | manual dto moment =>
    obtain ⟨order, horder, rfl⟩ := Option.map_eq_some_iff.1 hmoney
    obtain ⟨other, hother, rfl⟩ := Option.map_eq_some_iff.1 hpreview
    obtain rfl := Option.some.inj (horder.symm.trans hother)
    have hamounts : (PlacedOrder.manual dto moment).amounts env =
        [order.netSales, order.shipping] := by
      rw [amounts, horder]
      rfl
    rw [hamounts] at hfour
    have hnet := hfour order.netSales (by simp)
    have hshipping := hfour order.shipping (by simp)
    change toFixed2 (toFixed4 order.totalCollected) =
      max (toFixed4 order.netSales + toFixed4 order.shipping - 0) 0 ↔ _
    rw [manualOrder_total horder, hnet, hshipping, toFixed4_add hnet hshipping, sub_zero]
    constructor
    · intro h found hfound
      obtain rfl := Option.some.inj (horder.symm.trans hfound)
      exact h
    · exact fun h => h order horder

theorem SameCents.iff_eq {amount other : Decimal} (hamount : toFixed2 amount = amount)
    (hother : toFixed2 other = other) : SameCents 1 amount other ↔ amount = other := by
  rw [SameCents, mul_one, mul_one, hamount, hother]

/-- **When the courier is told the right amount**: when the preview tells what is outstanding to the
cent, which never hides a difference of more than one, and none in whole cents of a dirham.  For
amounts with at most four decimals, the previews that tell what is outstanding are those of orders
that are settled. -/
theorem courierAmounts {order : PlacedOrder} {m : OrderMoney} {preview : CodPreview}
    {cod : DispatchedCod} {rate : Decimal} (hmoney : order.money env = some m)
    (hpreview : order.codPreview env = some preview) (hsame : preview.currency = m.currency)
    (huntaxed : m.tax = 0)
    (hrate : service.convertOrNull locale 1 m.currency "MAD" = some rate)
    (hcod : dispatchCod service locale preview = .ok cod) :
    (CollectsOutstanding m rate cod ↔ SameCents rate preview.codAmount m.outstanding) ∧
      (SameCents rate preview.codAmount m.outstanding →
        |(preview.codAmount - m.outstanding) * rate| ≤ 1 / 100) ∧
      (toFixed2 preview.codAmount = preview.codAmount → toFixed2 m.outstanding = m.outstanding →
        (SameCents 1 preview.codAmount m.outstanding ↔ preview.codAmount = m.outstanding)) ∧
      ((∀ amount ∈ order.amounts env, toFixed4 amount = amount) →
        (preview.codAmount = m.outstanding ↔ order.Settled env)) :=
  ⟨collectsOutstanding_iff hsame hrate hcod, SameCents.near, SameCents.iff_eq,
    PlacedOrder.settled_iff hmoney hpreview huntaxed⟩

/-! ### An order that is paid for twice -/

def dirhamsOnly : CurrencyService := { rates := none }

def plainLocale : Locale :=
  { toUpperCase := id, toLowerCase := id, localeCompare := fun _ _ => .eq }

def unpaidPlacedOrder : PlacedOrder := .platform (youCanPayload "120" identifiedLines)

def paidPlacedOrder : PlacedOrder :=
  .platform (.shopify {
    id := "gid://shopify/Order/1"
    createdAt := "2026-07-18T10:00:00.000Z"
    updatedAt := "2026-07-19T10:00:00.000Z"
    displayFinancialStatus := some "PAID"
    subtotalPriceSet := some { amount := "90" }
    currentSubtotalPriceSet := { amount := "90" }
    totalDiscountsSet := some { amount := "0" }
    currentShippingPriceSet := { amount := "20" }
    currentTotalTaxSet := { amount := "0" }
    netPaymentSet := { amount := "110" }
    lineItems := [{
      id := "gid://shopify/LineItem/1"
      originalUnitPriceSet := { amount := "90" }
      priceAfterAllDiscountsBeforeTaxesSet := { amount := "90" } }] })

def unpaidMoney : OrderMoney :=
  { netSales := 100, shipping := 20, tax := 0, paid := 0, currency := "MAD" }

def paidMoney : OrderMoney :=
  { netSales := 90, shipping := 20, tax := 0, paid := 110, currency := "MAD" }

def unpaidPreview : CodPreview := { codAmount := 120, currency := "MAD" }

def paidPreview : CodPreview := { codAmount := 90, currency := "MAD" }

def unpaidCod : DispatchedCod := { sent := 120, codAmount := 120, codStatus := some .pending }

def paidCod : DispatchedCod := { sent := 90, codAmount := 90, codStatus := some .pending }

theorem courierAmounts_unpaid :
    CollectsOutstanding unpaidMoney 1 unpaidCod ∧ unpaidPlacedOrder.Settled plainReader := by
  have hmoney : unpaidPlacedOrder.money plainReader = some unpaidMoney := by decide +kernel
  have hpreview : unpaidPlacedOrder.codPreview plainReader = some unpaidPreview := by decide +kernel
  have hrate : dirhamsOnly.convertOrNull plainLocale 1 "MAD" "MAD" = some 1 := by decide +kernel
  have hcod : dispatchCod dirhamsOnly plainLocale unpaidPreview = .ok unpaidCod := by decide +kernel
  have hall := courierAmounts hmoney hpreview rfl rfl hrate hcod
  refine ⟨hall.1.2 (by decide +kernel), (hall.2.2.2 ?_).1 ?_⟩ <;> decide +kernel

/-- **An order that is paid for twice**: the courier is told to collect what was paid by card. -/
theorem courierAmounts_paid : ¬ ∀ (order : PlacedOrder) (m : OrderMoney) (preview : CodPreview)
    (cod : DispatchedCod) (rate : Decimal), order.money plainReader = some m →
    order.codPreview plainReader = some preview → preview.currency = m.currency → m.tax = 0 →
    dirhamsOnly.convertOrNull plainLocale 1 m.currency "MAD" = some rate →
    dispatchCod dirhamsOnly plainLocale preview = .ok cod → CollectsOutstanding m rate cod := by
  intro h
  have hmoney : paidPlacedOrder.money plainReader = some paidMoney := by decide +kernel
  have hpreview : paidPlacedOrder.codPreview plainReader = some paidPreview := by decide +kernel
  have hrate : dirhamsOnly.convertOrNull plainLocale 1 "MAD" "MAD" = some 1 := by decide +kernel
  have hcod : dispatchCod dirhamsOnly plainLocale paidPreview = .ok paidCod := by decide +kernel
  have hcollects := h _ _ _ _ _ hmoney hpreview rfl rfl hrate hcod
  exact absurd hcollects.codAmount (by decide +kernel)

end Zomaal
