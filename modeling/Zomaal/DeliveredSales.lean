/-
**Sales that were delivered before their product existed.**

A line that has no warehouse product when its order is delivered takes nothing out of the stock, and
when a product is linked to it later, its units must not be deducted either.  This module puts the
linking of `OrderLinking` and the evaluations of `OrderLedger` together.

Main results:

* `deliveredSale` — **no unit of the line is deducted**, in any run of such steps.
-/

import Zomaal.OrderLedgerRules
import Zomaal.OrderLinking
import Zomaal.OrderStockRules

set_option autoImplicit false

namespace Zomaal

open Command

/-! ### One order, its lines and its outcome -/

/-- The store, what the platform says of the lines, and what decides the outcome of one order: its
timeline, or its dispatch. -/
structure SaleWorld where
  store : Store
  externalLineIds : String → String := fun _ => ""
  columns : String → LineColumns := fun _ => {}
  events : List TimelineEvent := []
  dispatch : Option CourierDispatch := none

namespace SaleWorld

variable (orderId : String)

def rows (w : SaleWorld) : List OrderLineRow :=
  (((w.store.findOrder orderId).map EcommerceOrder.lines).getD []).map fun line =>
    { line with
      toLineColumns := w.columns line.id
      externalLineId := w.externalLineIds line.id }

def putRows (w : SaleWorld) (rows : List OrderLineRow) : SaleWorld :=
  let find (lineId : String) := rows.find? fun row => row.id = lineId
  { w with
    store := { w.store with
      orders := w.store.orders.map fun order =>
        if order.id = orderId then { order with lines := rows.map OrderLineRow.toOrderLine }
        else order }
    externalLineIds := fun lineId =>
      ((find lineId).map OrderLineRow.externalLineId).getD (w.externalLineIds lineId)
    columns := fun lineId =>
      ((find lineId).map OrderLineRow.toLineColumns).getD (w.columns lineId) }

/-- Whether an order counts as delivered when a product of it is created: it has a delivery in its
timeline, or recognized revenue. -/
def saleDelivered (w : SaleWorld) : Bool :=
  (w.events.any fun event => event.type = .delivered) ||
    (w.store.financialEvents.any fun event =>
      event.orderId = orderId ∧ event.type = .revenueRecognized)

/-- `syncFromDispatch`: an order without a dispatch is evaluated by its timeline. -/
def evaluation (environment : Environment) (orderId : String) (w : SaleWorld) :
    Service SyncResult :=
  match w.dispatch with
  | none => syncFromTimelineEvents environment orderId w.events
  | some dispatch => syncFromDispatchIdLocked environment (some dispatch)

def DeliveredOutcome (w : SaleWorld) : Prop :=
  match w.dispatch with
  | none => deriveTerminalOutcome w.events = some .delivered
  | some dispatch => dispatch.orderId = orderId ∧
      ∃ shipment, pickCourierShipment dispatch = some shipment ∧
        shipment.normalizedStatus = .delivered

/-- When the order was delivered, as far as an evaluation knows. -/
def outcomeAt (w : SaleWorld) : Option ℤ :=
  match w.dispatch with
  | none => some (deliveredAt w.events)
  | some _ => none

end SaleWorld

inductive SaleAct
  | sync (created : CreatedRows) (read : List SkuVariant) (page : List (List NormalizedOrderLine))
      (lines : List NormalizedOrderLine)
  | webhook (created : CreatedRows) (read : List SkuVariant) (lines : List NormalizedOrderLine)
  | create (variants : List SkuVariant)
  | evaluate (environment : Environment)

section Runs

variable (lower : String → String) (orderId : String)

def SaleAct.step (w : SaleWorld) : SaleAct → SaleWorld
  | .sync created read page lines =>
    w.putRows orderId (syncOrderLines lower created read page lines (w.rows orderId))
  | .webhook created read lines =>
    w.putRows orderId (webhookOrderLines lower created read lines (w.rows orderId))
  | .create variants =>
    w.putRows orderId ((w.rows orderId).map
      (linkOrderLinesForProduct lower (w.saleDelivered orderId) variants))
  | .evaluate environment =>
    { w with
      store := (withOrderTransaction (w.evaluation environment orderId)).final w.store }

/-- The line was first synced after the delivery that the timeline reports. -/
def OrderLine.late (deliveredAt : Option ℤ) (line : OrderLine) : Prop :=
  deliveredAt.any (fun delivered => decide (delivered < line.createdAt)) = true

def LeavesUnlinked (lineId : String) (w : SaleWorld) (lines : List OrderLineWrite) : Prop :=
  ∀ row ∈ w.rows orderId, row.id = lineId → row.warehouseVariant = none → row.stockStatus = none →
    row.late w.outcomeAt ∨ ∀ line ∈ lines, line.externalLineId = row.externalLineId →
      line.warehouseVariant = none

/-- **No sync or webhook is the first to link the line**, unless the line was first synced after the
delivery.  The identifiers of new rows are new. -/
def FirstLinkedByProduct (lineId : String) (w : SaleWorld) : SaleAct → Prop
  | .sync created read page lines => (∀ line, created.id line ≠ lineId) ∧
      LeavesUnlinked orderId lineId w
        (lines.map (NormalizedOrderLine.linked lower (syncVariants read page)))
  | .webhook created read lines => (∀ line, created.id line ≠ lineId) ∧
      LeavesUnlinked orderId lineId w
        (lines.map (NormalizedOrderLine.linked lower (webhookVariants lower read lines)))
  | .create _ => True
  | .evaluate _ => True

end Runs

/-! ### Lines that an evaluation passes over -/

/-- A delivery passes over the line: it is not linked, or delivered already, or it was first synced
after the delivery. -/
def OrderLine.PassedOver (deliveredAt : Option ℤ) (line : OrderLine) : Prop :=
  line.warehouseVariant = none ∨ line.stockStatus = some .delivered ∨
    line.stockStatus = none ∧ line.late deliveredAt

theorem OrderLine.PassedOver.not_deliverable {deliveredAt : Option ℤ} {line : OrderLine}
    (h : line.PassedOver deliveredAt) : line.deliverable deliveredAt = false := by
  rw [OrderLine.deliverable]
  rcases h with hnone | hdelivered | ⟨hnone, hlate⟩
  · rw [hnone]
    rfl
  · rw [hdelivered]
    simp
  · rw [hnone, hlate]
    simp

def InventoryMovement.deducts (lineId : String) (movement : InventoryMovement) : Bool :=
  movement.refersTo lineId && movement.bucket = .onHand

/-- **The invariant**: revenue is recognized, every delivery passes over the line, and its movements
on hand are the ones it had. -/
structure SaleSettled (orderId lineId : String) (deliveredAt : Option ℤ)
    (deducted : List InventoryMovement) (s : Store) : Prop where
  recognized : ∃ event ∈ s.financialEvents,
    event.orderId = orderId ∧ event.type = .revenueRecognized
  line : ∀ order ∈ s.orders, order.id = orderId → ∀ line ∈ order.lines, line.id = lineId →
    line.PassedOver deliveredAt
  onHand : s.movements.filter (InventoryMovement.deducts lineId) = deducted

section Settled

variable {orderId lineId : String} {outcome : Option ℤ} {deducted : List InventoryMovement}

theorem saleSettled_stable : StockStable (fun other => other ≠ lineId)
    (SaleSettled orderId lineId outcome deducted) where
  quiet {s t} hquiet h := by
    refine ⟨?_, ?_, hquiet.movements ▸ h.onHand⟩
    · rw [hquiet.sameBut]
      exact h.recognized
    · rw [hquiet.sameBut.orders]
      exact h.line
  moved {s t other item input applied} hother hinput hmoved h := by
    refine ⟨?_, ?_, ?_⟩
    · rw [hmoved.sameBut]
      exact h.recognized
    · rw [hmoved.sameBut.orders]
      exact h.line
    · have helsewhere : InventoryMovement.deducts lineId (input.movement item applied
          (bucketField input.bucket (s.balanceOf item) + applied)) = false := by
        have hline := hinput.lineId_eq
        simp [InventoryMovement.deducts, InventoryMovement.refersTo, MoveInput.movement, hline,
          hother]
      rw [hmoved.movements, List.filter_append, List.filter_cons, helsewhere, h.onHand]
      simp
  status {s other} status hother h := by
    refine ⟨h.recognized, fun order horder hid line hline hlineid => ?_, h.onHand⟩
    obtain ⟨before, hbefore, rfl⟩ := List.mem_map.1 horder
    obtain ⟨old, hold, rfl⟩ := List.mem_map.1 hline
    by_cases hsame : old.id = other
    · rw [if_pos hsame] at hlineid
      exact absurd (hsame.symm.trans hlineid) hother
    · rw [if_neg hsame] at hlineid ⊢
      exact h.line before hbefore hid old hold hlineid

theorem saleSettled_ledger : LedgerStable (SaleSettled orderId lineId outcome deducted) where
  drawn _ h := ⟨h.recognized, h.line, h.onHand⟩
  appended _ h := by
    obtain ⟨found, hfound, his⟩ := h.recognized
    exact ⟨⟨found, List.mem_append_left _ hfound, his⟩, h.line, h.onHand⟩

theorem deliverOrder_settled :
    Keeps (SaleSettled orderId lineId outcome deducted) (deliverOrder orderId outcome) := by
  intro s h
  rw [deliverOrder, Command.final, loadOrder, Command.ask_bind_apply]
  cases hfind : s.findOrder orderId with
  | none => exact h
  | some order =>
    have hin : order ∈ s.orders := List.mem_of_find?_eq_some hfind
    have hid : order.id = orderId := by simpa using List.find?_some hfind
    refine Keeps.forEach (fun line hline => ?_) s h
    by_cases hsame : line.id = lineId
    · rw [deliverLine, (h.line order hin hid line hline hsame).not_deliverable]
      exact Keeps.pure ()
    · exact saleSettled_stable.moves.deliverLine hsame _ _

theorem syncDelivered_settled (environment : Environment) {order : EcommerceOrder}
    (hid : order.id = orderId) (shipment : Option ShipmentFee) :
    Keeps (SaleSettled orderId lineId outcome deducted)
      (syncDelivered environment order shipment outcome) :=
  (saleSettled_ledger.applyRevenueRecognition environment order shipment).bind
    fun _ => hid ▸ deliverOrder_settled

variable {w : SaleWorld}

theorem evaluation_settled (environment : Environment) (hdelivered : w.DeliveredOutcome orderId)
    (houtcome : w.outcomeAt = outcome) :
    Keeps (SaleSettled orderId lineId outcome deducted) (w.evaluation environment orderId) := by
  subst houtcome
  rw [SaleWorld.DeliveredOutcome] at hdelivered
  rw [SaleWorld.evaluation, SaleWorld.outcomeAt]
  cases hdispatch : w.dispatch with
  | none =>
    rw [hdispatch] at hdelivered
    rw [syncFromTimelineEvents]
    refine Keeps.ite (Keeps.pure _) fun s h => ?_
    rw [Command.final, Command.ask_bind_apply]
    cases hfind : s.findOrder orderId with
    | none => exact h
    | some order =>
      have hid : order.id = orderId := by simpa using List.find?_some hfind
      simp only [hdelivered]
      exact (syncDelivered_settled environment hid _).bind (fun _ => Keeps.pure _) s h
  | some dispatch =>
    rw [hdispatch] at hdelivered
    obtain ⟨hof, shipment, hpick, hstatus⟩ := hdelivered
    intro s h
    dsimp only
    rw [syncFromDispatchIdLocked, Command.final, Command.ask_bind_apply]
    cases hfind : s.findOrder dispatch.orderId with
    | none => exact h
    | some order =>
      have hid : order.id = orderId := (by simpa using List.find?_some hfind : _ = _).trans hof
      simp only [hpick, hstatus]
      exact (syncDelivered_settled environment hid _).bind (fun _ => Keeps.pure _) s h

/-! ### What the paths do to the line -/

variable {row : OrderLineRow}

theorem settled_rows (h : SaleSettled orderId lineId outcome deducted w.store)
    (hrow : row ∈ w.rows orderId) (hid : row.id = lineId) : row.PassedOver outcome := by
  rw [SaleWorld.rows] at hrow
  obtain ⟨line, hline, rfl⟩ := List.mem_map.1 hrow
  cases hfind : w.store.findOrder orderId with
  | none =>
    rw [hfind] at hline
    cases hline
  | some order =>
    rw [hfind] at hline
    have horder : order.id = orderId := by simpa using List.find?_some hfind
    exact h.line order (List.mem_of_find?_eq_some hfind) horder line hline hid

theorem settled_putRows (h : SaleSettled orderId lineId outcome deducted w.store)
    {rows : List OrderLineRow} (hrows : ∀ row ∈ rows, row.id = lineId → row.PassedOver outcome) :
    SaleSettled orderId lineId outcome deducted (w.putRows orderId rows).store := by
  refine ⟨h.recognized, fun order horder hid line hline hlineid => ?_, h.onHand⟩
  obtain ⟨before, hbefore, rfl⟩ := List.mem_map.1 horder
  by_cases hthis : before.id = orderId
  · rw [if_pos hthis] at hline
    obtain ⟨row, hrow, rfl⟩ := List.mem_map.1 hline
    exact hrows row hrow hlineid
  · rw [if_neg hthis] at hid
    exact absurd hid hthis

theorem settled_replace (h : SaleSettled orderId lineId outcome deducted w.store)
    (houtcome : w.outcomeAt = outcome) {created : CreatedRows} {lines : List OrderLineWrite}
    (hfresh : ∀ line, created.id line ≠ lineId) (hleaves : LeavesUnlinked orderId lineId w lines)
    (hrow : row ∈ replaceOrderLines created (w.rows orderId) lines) (hid : row.id = lineId) :
    row.PassedOver outcome := by
  rcases mem_replaceOrderLines hrow with ⟨old, hold, rfl⟩ | ⟨line, -, -, rfl⟩
  · obtain ⟨-, hkept, hstatus, hcreated, hout, hin⟩ := old.apply_spec lines
    have holdid : old.id = lineId := hkept.symm.trans hid
    have hsettled := settled_rows h hold holdid
    by_cases hmem : old.externalLineId ∈ lines.map fun line => line.externalLineId
    · obtain ⟨line, hline, hlineid, -, hvariant⟩ := hin hmem
      by_cases hnone : old.stockStatus = none
      · rw [if_pos hnone] at hvariant
        have hlate : old.late outcome → (old.apply lines).PassedOver outcome := fun hlate =>
          Or.inr (Or.inr ⟨hstatus.trans hnone, by rw [OrderLine.late, hcreated]; exact hlate⟩)
        rcases hsettled with hunlinked | hdelivered | ⟨-, hsynced⟩
        · rcases hleaves old hold holdid hunlinked hnone with hsynced | hleft
          · exact hlate (houtcome ▸ hsynced)
          · exact Or.inl (hvariant.trans (hleft line hline hlineid))
        · exact absurd (hnone.symm.trans hdelivered) (by simp)
        · exact hlate hsynced
      · rw [if_neg hnone] at hvariant
        rcases hsettled with hunlinked | hdelivered | ⟨hno, -⟩
        · exact Or.inl (hvariant.trans hunlinked)
        · exact Or.inr (Or.inl (hstatus.trans hdelivered))
        · exact absurd hno hnone
    · rw [hout hmem]
      exact hsettled
  · exact absurd hid (hfresh _)

theorem settled_link {lower : String → String} (variants : List SkuVariant)
    (h : row.PassedOver outcome) :
    (linkOrderLinesForProduct lower true variants row).PassedOver outcome := by
  induction variants generalizing row with
  | nil => exact h
  | cons variant variants ih =>
    have hlinked : (row.link lower true variant).PassedOver outcome := by
      rw [OrderLineRow.link]
      split
      · exact Or.inr (Or.inl rfl)
      · exact h
    exact ih hlinked

end Settled

/-! ### Runs -/

structure SaleInv (orderId lineId : String) (outcome : Option ℤ)
    (deducted : List InventoryMovement) (w : SaleWorld) : Prop where
  delivered : w.DeliveredOutcome orderId
  at_outcome : w.outcomeAt = outcome
  settled : SaleSettled orderId lineId outcome deducted w.store

theorem SaleInv.step {lower : String → String} {orderId lineId : String} {outcome : Option ℤ}
    {deducted : List InventoryMovement} {w : SaleWorld} {act : SaleAct}
    (h : SaleInv orderId lineId outcome deducted w)
    (hfirst : FirstLinkedByProduct lower orderId lineId w act) :
    SaleInv orderId lineId outcome deducted (act.step lower orderId w) := by
  cases act with
  | sync created read page lines =>
    refine ⟨h.delivered, h.at_outcome, settled_putRows h.settled fun row hrow hid => ?_⟩
    rw [syncOrderLines] at hrow
    split at hrow
    · exact settled_rows h.settled hrow hid
    · exact settled_replace h.settled h.at_outcome hfirst.1 hfirst.2 hrow hid
  | webhook created read lines =>
    refine ⟨h.delivered, h.at_outcome, settled_putRows h.settled fun row hrow hid => ?_⟩
    exact settled_replace h.settled h.at_outcome hfirst.1 hfirst.2 hrow hid
  | create variants =>
    refine ⟨h.delivered, h.at_outcome, settled_putRows h.settled fun row hrow hid => ?_⟩
    obtain ⟨old, hold, rfl⟩ := List.mem_map.1 hrow
    have hrecognized : w.saleDelivered orderId = true := by
      obtain ⟨event, hevent, hof⟩ := h.settled.recognized
      rw [SaleWorld.saleDelivered, Bool.or_eq_true]
      exact Or.inr (List.any_eq_true.2 ⟨event, hevent, by simpa using hof⟩)
    have holdid : old.id = lineId :=
      (linkOrderLinesForProduct_columns _ variants old).2.2.symm.trans hid
    rw [hrecognized]
    exact settled_link variants (settled_rows h.settled hold holdid)
  | evaluate environment =>
    refine ⟨h.delivered, h.at_outcome, ?_⟩
    exact saleSettled_stable.withOrderTransaction
      (evaluation_settled environment h.delivered h.at_outcome) w.store h.settled

/-- **A sale that was delivered before its product was linked.**  The revenue of the order is
recognized and its line is not linked.  In every run of syncs, webhooks, created products and
evaluations of that delivery in which no sync or webhook is the first to link the line, unless the
line was first synced after the delivery, no movement on hand that references the line is
written. -/
theorem deliveredSale (lower : String → String) (orderId lineId : String) (w : SaleWorld)
    (acts : List SaleAct) (hdelivered : w.DeliveredOutcome orderId)
    (hrecognized : ∃ event ∈ w.store.financialEvents,
      event.orderId = orderId ∧ event.type = .revenueRecognized)
    (hunlinked : ∀ order ∈ w.store.orders, order.id = orderId → ∀ line ∈ order.lines,
      line.id = lineId → line.warehouseVariant = none)
    (hfirst : Machine.Along (SaleAct.step lower orderId)
      (FirstLinkedByProduct lower orderId lineId) w acts) :
    (Machine.run (SaleAct.step lower orderId) w acts).store.movements.filter
        (InventoryMovement.deducts lineId) =
      w.store.movements.filter (InventoryMovement.deducts lineId) := by
  have hstart : SaleInv orderId lineId w.outcomeAt
      (w.store.movements.filter (InventoryMovement.deducts lineId)) w :=
    ⟨hdelivered, rfl, hrecognized, fun order horder hid line hline hlineid =>
      Or.inl (hunlinked order horder hid line hline hlineid), rfl⟩
  exact (Machine.run_keeps_along (fun _ _ hinv hact => hinv.step hact) hstart hfirst).settled.onHand

/-! ### A sync that links first -/

def capeEnvironment : Environment where
  locale :=
    { toUpperCase := fun text => String.ofList (text.toList.map Char.toUpper)
      toLowerCase := lowerAscii
      localeCompare := fun _ _ => .eq }
  currency := none
  packaging := {}

/-- An order with a line that no product is linked to, delivered at 100; five capes are on the
shelf. -/
def capeOrdered : SaleWorld where
  store :=
    { balances := fun item => if item = "cape-item" then some { onHand := 5 } else none
      orders :=
        [{ id := "order-1"
           storeId := "store-1"
           lines := [{ id := "line-1", quantity := 1, quantity_pos := Int.one_pos }] }] }
  externalLineIds := fun _ => "line-1"
  columns := fun _ => { sku := some "CAPE-1" }
  events := [{ type := .delivered, occurredAt := 100 }]

def capeSold : SaleWorld :=
  SaleAct.step lowerAscii "order-1" capeOrdered (.evaluate capeEnvironment)

def capeResync : SaleAct :=
  .sync { id := fun _ => "line-2", createdAt := 200 } [capeVariant] [[capeLineSpelled]]
    [capeLineSpelled]

/-- **A sync that is the first to link the line** leaves it without a stock status, and the next
evaluation of the delivery deducts its unit. -/
theorem deliveredSale_linked_by_sync :
    capeSold.DeliveredOutcome "order-1" ∧
      (capeSold.store.financialEvents.any fun event =>
        event.orderId = "order-1" ∧ event.type = .revenueRecognized) = true ∧
      (capeSold.store.lines.map fun line => line.warehouseVariant) = [none] ∧
      capeSold.store.movements = [] ∧
      ((Machine.run (SaleAct.step lowerAscii "order-1") capeSold
          [capeResync, .evaluate capeEnvironment]).store.movements.filter
        (InventoryMovement.deducts "line-1")).map InventoryMovement.quantityDelta = [-1] := by
  refine ⟨?_, by decide +kernel, by decide +kernel, by decide +kernel, by decide +kernel⟩
  exact rfl

/-- If creating the product links the line first, the same sync and evaluation deduct nothing. -/
theorem deliveredSale_linked_by_product :
    (Machine.run (SaleAct.step lowerAscii "order-1") capeSold
        [.create [capeVariant], capeResync, .evaluate capeEnvironment]).store.movements.filter
        (InventoryMovement.deducts "line-1") =
      capeSold.store.movements.filter (InventoryMovement.deducts "line-1") := by
  have hrecognized : (capeSold.store.financialEvents.any fun event =>
      event.orderId = "order-1" ∧ event.type = .revenueRecognized) = true := by decide +kernel
  have hunlinked : (capeSold.store.orders.all fun order =>
      order.lines.all fun line => line.warehouseVariant = none) = true := by decide +kernel
  refine deliveredSale lowerAscii "order-1" "line-1" capeSold _ rfl ?_ ?_ ⟨trivial, ?_, trivial,
    trivial⟩
  · simpa using hrecognized
  · intro order horder _ line hline _
    simpa using List.all_eq_true.1 (List.all_eq_true.1 hunlinked order horder) line hline
  · have hnew : "line-2" ≠ "line-1" := by decide
    refine ⟨fun _ => hnew, fun row hrow _ hnone _ => ?_⟩
    have hlinked : ((SaleAct.step lowerAscii "order-1" capeSold (.create [capeVariant])).rows
        "order-1").all (fun row => row.warehouseVariant ≠ none) = true := by decide +kernel
    exact absurd hnone (by simpa using List.all_eq_true.1 hlinked row hrow)

end Zomaal
