/-
**What the return screen says an order has lost.**

The delivery cost is read anew: the fee of the courier's parcel as it is stored now, or that of the
latest Ameex event, or what the customer paid for shipping.  The losses of the lines are read off
their saved allocations.  This module embeds `computeLoss` of `return-request.service.ts`,
`conditionLoss` of `condition-loss.util.ts` and `resolveEffectiveShippingCost`.

Main results:

* `rounded_add` — an amount that is shown with two decimals, and booked with four.
-/

import Zomaal.DeliveredSales
import Zomaal.LineLosses
import Zomaal.ReturnRecording

set_option autoImplicit false

namespace Zomaal

/-! ### What the screen shows -/

/-- `toFixed(2)`. -/
def toFixed2 (x : Decimal) : Decimal :=
  if 0 ≤ x then (⌊x * 100 + 1 / 2⌋ : ℚ) / 100 else (⌈x * 100 - 1 / 2⌉ : ℚ) / 100

/-- `conditionLoss`: the loss of the saved allocation; else, of a condition that was recorded
without one, the damage or the purchase cost. -/
def conditionLoss (line : OrderLine) : Decimal :=
  match line.conditionAllocations with
  | some allocations => allocations.loss
  | none =>
    let cost : Decimal := (line.warehouseVariant.map fun variant =>
      variant.costPrice * (line.quantity : ℚ)).getD 0
    if line.condition = some ProductCondition.damaged.text then line.damageCost.getD cost
    else if line.condition = some ProductCondition.lost.text ∨
        line.condition = some ProductCondition.missing.text then cost
    else 0

variable (environment : Environment)

/-- The loss of a line in the currency of the order; purchase costs are in that of the store. -/
def itemLoss (order : EcommerceOrder) (line : OrderLine) : Except ServiceError Decimal :=
  if line.conditionAllocations.isSome ∨
      (line.condition = some ProductCondition.damaged.text ∧ line.damageCost.isSome) then
    .ok (conditionLoss line)
  else
    environment.convert (conditionLoss line) (some order.baseCurrency) (some order.currency)

structure LossSummary where
  originalOrderValue : Decimal
  deliveryCost : Decimal
  netLoss : Decimal

/-- **`computeLoss`**, of the lines of a return. -/
def computeLoss (order : EcommerceOrder) (lines : List OrderLine) (deliveryCost : Decimal)
    : Except ServiceError LossSummary := do
  let losses ← lines.mapM (itemLoss environment order)
  .ok
    { originalOrderValue := toFixed2 (lines.map OrderLine.totalPrice).sum
      deliveryCost := toFixed2 deliveryCost
      netLoss := toFixed2 (deliveryCost + losses.sum) }

namespace SaleWorld

def parcelFee (w : SaleWorld) : Option ShipmentFee :=
  (w.dispatch.bind pickCourierShipment).map CourierShipment.shipmentFee

def evaluatedFee (w : SaleWorld) : Option ShipmentFee :=
  match w.dispatch with
  | none => latestAmeexFee w.events
  | some _ => w.parcelFee

/-- An evaluation finds an outcome that the courier charges for. -/
def chargedOutcome (w : SaleWorld) : Bool :=
  match w.dispatch with
  | none => (deriveTerminalOutcome w.events).any fun outcome =>
    outcome = .delivered || outcome.shippedFailure
  | some dispatch => (pickCourierShipment dispatch).any fun shipment =>
    shipment.normalizedStatus = .delivered || shipment.normalizedStatus.shippedFailure

end SaleWorld

/-- **`resolveEffectiveShippingCost`**: the courier's fee, or the latest Ameex event's, or what the
customer paid. -/
def resolveEffectiveShippingCost (w : SaleWorld) (order : EcommerceOrder)
    : Except ServiceError Decimal := do
  let fee ← convertShipmentFee environment w.parcelFee order.currency
  match fee with
  | some fee => .ok fee
  | none => do
      let ameexFee ← convertShipmentFee environment (latestAmeexFee w.events) order.currency
      .ok (ameexFee.getD order.shipping)

def evaluatedShippingCost (w : SaleWorld) (order : EcommerceOrder) : Except ServiceError Decimal :=
  (convertShipmentFee environment w.evaluatedFee order.currency).map fun fee =>
    fee.getD order.shipping

/-! ### Steps -/

inductive LossAct
  | snapshot (dispatch : CourierDispatch)
  | timeline (event : TimelineEvent)
  | evaluate
  | record (now : ℤ) (storeId : String) (inputs : List ConditionInput)
      (context : Option ReturnContext)

def LossAct.step (orderId : String) (w : SaleWorld) :
    LossAct → SaleWorld
  | .snapshot dispatch => { w with dispatch := some { dispatch with orderId } }
  | .timeline event => { w with events := w.events ++ [event] }
  | .evaluate =>
    { w with store := (withOrderTransaction (w.evaluation environment orderId)).final w.store }
  | .record now storeId inputs context =>
    { w with
      store := (Zomaal.record environment now storeId orderId inputs context).final w.store }

def FinancialEvent.charges (event : FinancialEvent) : Bool :=
  event.type = .revenueRecognized || event.type = .shippingLoss

def Store.charged (s : Store) (orderId : String) : Bool :=
  (s.ledger orderId).any FinancialEvent.charges

def Store.shippingTotal (s : Store) (orderId : String) : Decimal :=
  (getSummary orderId s).shippingCost

def Rounded (shown booked : Decimal) : Prop := |shown - booked| ≤ 1 / 200 + 1 / 20000

/-- **The screen shows what the ledger has booked**, for any lines of a charged order. -/
def ShowsBooks (orderId : String) (w : SaleWorld) : Prop :=
  ∀ order, w.store.findOrder orderId = some order → w.store.charged orderId →
    ∀ lines ⊆ order.lines, ∀ cost summary,
      resolveEffectiveShippingCost environment w order = .ok cost →
      computeLoss environment order lines cost = .ok summary →
      Rounded summary.deliveryCost (w.store.shippingTotal orderId) ∧
      Rounded summary.netLoss (w.store.shippingTotal orderId +
        (lines.map fun line => w.store.bookedLoss orderId line.id).sum)

/-- **A step keeps the fee**: once the order is charged, a snapshot or an event leaves the fee as it
is, to four decimals; and an evaluation that charges goes by the fee that is shown. -/
def KeepsFee (orderId : String) (w : SaleWorld) : LossAct → Prop
  | .evaluate => w.store.charged orderId = false → w.chargedOutcome →
      ∀ order, w.store.findOrder orderId = some order →
        (evaluatedShippingCost environment w order).map toFixed4 =
          (resolveEffectiveShippingCost environment w order).map toFixed4
  | .record .. => True
  | act => w.store.charged orderId → ∀ order, w.store.findOrder orderId = some order →
      (resolveEffectiveShippingCost environment (act.step environment orderId w) order).map
          toFixed4 =
        (resolveEffectiveShippingCost environment w order).map toFixed4

/-- An order that was placed: nothing is booked for it, and nothing of it came back. -/
structure Placed (orderId : String) (w : SaleWorld) : Prop where
  unbooked : w.store.ledger orderId = []
  lines : ∀ order, w.store.findOrder orderId = some order → ∀ line ∈ order.lines,
    ':' ∉ line.id.toList ∧ line.condition = none ∧ line.conditionAllocations = none
  dispatch : ∀ dispatch ∈ w.dispatch, dispatch.orderId = orderId
  books : LossBooks w.store

/-! ### Rounding -/

theorem rounding_error {k : ℚ} (hk : 0 < k) (x : ℚ) :
    |(if 0 ≤ x then (⌊x * k + 1 / 2⌋ : ℚ) / k else (⌈x * k - 1 / 2⌉ : ℚ) / k) - x| ≤
      1 / (2 * k) := by
  have hscaled : ∀ z : ℚ, |z - x * k| ≤ 1 / 2 → |z / k - x| ≤ 1 / (2 * k) := by
    intro z hz
    have hrewrite : z / k - x = (z - x * k) / k := by
      field_simp
    rw [hrewrite, abs_div, abs_of_pos hk, div_le_iff₀ hk]
    calc
      |z - x * k| ≤ 1 / 2 := hz
      _ = 1 / (2 * k) * k := by field_simp
  split
  · refine hscaled _ (abs_le.2 ⟨?_, ?_⟩)
    · linarith [Int.lt_floor_add_one (x * k + 1 / 2)]
    · linarith [Int.floor_le (x * k + 1 / 2)]
  · refine hscaled _ (abs_le.2 ⟨?_, ?_⟩)
    · linarith [Int.le_ceil (x * k - 1 / 2)]
    · linarith [Int.ceil_lt_add_one (x * k - 1 / 2)]

theorem toFixed2_error (x : Decimal) : |toFixed2 x - x| ≤ 1 / 200 := by
  have herror := rounding_error (by norm_num : (0 : ℚ) < 100) x
  norm_num at herror ⊢
  exact herror

theorem toFixed4_error (x : Decimal) : |toFixed4 x - x| ≤ 1 / 20000 := by
  have herror := rounding_error (by norm_num : (0 : ℚ) < 10000) x
  norm_num at herror ⊢
  exact herror

theorem rounded_add (cost losses : Decimal) :
    Rounded (toFixed2 (cost + losses)) (toFixed4 cost + losses) := by
  rw [Rounded]
  calc
    |toFixed2 (cost + losses) - (toFixed4 cost + losses)| =
        |(toFixed2 (cost + losses) - (cost + losses)) - (toFixed4 cost - cost)| := by
      congr 1
      ring
    _ ≤ |toFixed2 (cost + losses) - (cost + losses)| + |toFixed4 cost - cost| := abs_sub _ _
    _ ≤ 1 / 200 + 1 / 20000 := add_le_add (toFixed2_error _) (toFixed4_error _)

end Zomaal
