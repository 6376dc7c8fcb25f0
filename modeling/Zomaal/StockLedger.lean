/-
**The stock ledger: balances and movements tell the same story.**

Every balance is valid, every bucket is the sum of its movements, and every movement recorded the
running sum it led to.  Every writer comes down to one of two things: nothing happened to the stock
(`Store.Quiet`), or one movement was written together with the balance it explains (`Store.Wrote`).

Main results:

* `reserveOrder_ensures` — reserving never fails on a ledger that keeps the invariant;
* `stockLedger_run` — **the ledger invariant holds after every run, and a rejected operation changes
  neither balances nor movements**.
-/

import Zomaal.Inventory
import Zomaal.MachineRun
import Zomaal.OrderStockRules

set_option autoImplicit false

namespace Zomaal

def InventoryMovement.account (movement : InventoryMovement) : String × InventoryBucket :=
  (movement.inventoryItemId, movement.bucket)

structure LedgerInv (s : Store) : Prop where
  valid : ∀ item, ValidBalance (s.balanceOf item)
  explained : ∀ item bucket, bucketField bucket (s.balanceOf item) =
    s.sumMovements fun movement => movement.account = (item, bucket)
  running : Ledger.RunningTotals InventoryMovement.quantityDelta
    InventoryMovement.resultingQuantity InventoryMovement.account s.movements

variable {s : Store}

theorem LedgerInv.of_empty (hb : ∀ item, s.balances item = none) (hm : s.movements = []) :
    LedgerInv s := by
  have hempty : ∀ item, s.balanceOf item = {} := fun item => by rw [Store.balanceOf, hb]; rfl
  refine ⟨fun item => ?_, fun item bucket => ?_, ?_⟩
  · rw [hempty]
    exact ValidBalance.empty
  · rw [hempty, Store.sumMovements, hm]
    cases bucket <;> rfl
  · rw [hm]
    exact Ledger.RunningTotals.nil

/-! ### One movement written -/

namespace Store

/-- One movement was written, together with the balance it explains. -/
structure Wrote (s t : Store) (movement : InventoryMovement) : Prop where
  result : movement.resultingQuantity =
    bucketField movement.bucket (s.balanceOf movement.inventoryItemId) + movement.quantityDelta
  balanceOf : ∀ other, t.balanceOf other =
    if other = movement.inventoryItemId then
      setBucketField movement.resultingQuantity movement.bucket (s.balanceOf other)
    else s.balanceOf other
  movements : t.movements = s.movements ++ [movement]

theorem Moved.wrote {t : Store} {item : String} {input : MoveInput} {applied : ℤ}
    (h : s.Moved t item input applied) :
    s.Wrote t (input.movement item applied
      (bucketField input.bucket (s.balanceOf item) + applied)) := by
  refine ⟨rfl, fun other => ?_, h.movements⟩
  rw [h.balanceOf]
  change (if other = item then _ else _) = if other = item then _ else _
  split
  · rename_i hother
    rw [hother]
    rfl
  · rfl

end Store

variable {item : String}

theorem Explains.wrote {u : Store} {next : BalanceQuantities × InventoryMovement}
    (h : Explains item (s.balanceOf item) next)
    (hbalance : ∀ other, u.balanceOf other = s.balanceOf other)
    (hmovements : u.movements = s.movements) : s.Wrote (u.post next.1 next.2) next.2 := by
  refine ⟨?_, fun other => ?_, ?_⟩
  · rw [h.item_eq]
    exact h.result
  · rw [Store.balanceOf_post, hbalance]
    split
    · rename_i hother
      rw [hother, h.item_eq]
      exact h.balance_eq
    · rfl
  · rw [Store.movements_post, hmovements]

variable {t : Store}

theorem LedgerInv.of_quiet (h : LedgerInv s) (hb : ∀ item, t.balanceOf item = s.balanceOf item)
    (hm : t.movements = s.movements) : LedgerInv t := by
  refine ⟨fun item => hb item ▸ h.valid item, fun item bucket => ?_, hm ▸ h.running⟩
  rw [hb, h.explained, Store.sumMovements, Store.sumMovements, hm]

/-- **A written movement keeps the ledger invariant**, when the balance it leads to is valid. -/
theorem LedgerInv.wrote {movement : InventoryMovement} (h : LedgerInv s) (hw : s.Wrote t movement)
    (hvalid : ValidBalance (t.balanceOf movement.inventoryItemId)) : LedgerInv t := by
  refine ⟨fun item => ?_, fun item bucket => ?_, ?_⟩
  · by_cases hitem : item = movement.inventoryItemId
    · rw [hitem]
      exact hvalid
    · rw [hw.balanceOf, if_neg hitem]
      exact h.valid item
  · rw [hw.balanceOf, Store.sumMovements, hw.movements, Ledger.total_concat]
    have hold := h.explained item bucket
    rw [Store.sumMovements] at hold
    by_cases hitem : item = movement.inventoryItemId
    · rw [if_pos hitem]
      by_cases hbucket : bucket = movement.bucket
      · -- the account of the movement grows by what the movement says
        subst hitem hbucket
        rw [bucketField_set_self, hw.result, hold]
        simp [InventoryMovement.account]
      · rw [bucketField_set_of_ne hbucket, hold]
        simp [InventoryMovement.account, Ne.symm hbucket]
    · rw [if_neg hitem, hold]
      simp [InventoryMovement.account, Ne.symm hitem]
  · rw [hw.movements]
    refine h.running.concat ?_
    rw [hw.result, h.explained]
    rfl

/-! ### The order flow -/

theorem LedgerInv.moved {input : MoveInput} {applied : ℤ} (h : LedgerInv s)
    (hm : s.Moved t item input applied) : LedgerInv t := by
  refine h.wrote hm.wrote ?_
  have hclamped := hm.clamped
  subst hclamped
  rw [hm.balanceOf]
  change ValidBalance (if item = item then _ else _)
  rw [if_pos rfl]
  exact (h.valid item).clamped input.bucket input.delta hm.fits

theorem ledgerInv_stable : StockStable (fun _ => True) LedgerInv where
  quiet hq hs := hs.of_quiet hq.balanceOf hq.movements
  moved _ _ hm hs := hs.moved hm
  status _ _ hs := hs.of_quiet (fun _ => rfl) rfl

/-! ### Reserving is never rejected -/

open Command in
theorem move_ensures {P : Store → Prop} {input : MoveInput} (hP : ∀ s, P s → LedgerInv s)
    (hsafe : input.delta ≤ 0 ∨ input.bucket = .reserved ∨ input.bucket = .damaged) :
    Ensures P (move item input) (fun _ => LedgerInv) := by
  intro s hs
  rcases move_cases item input s with ⟨duplicate, -, h⟩ | ⟨t, -, -, hq, -, h⟩ |
    ⟨applied, t, hm, h⟩ | ⟨t, hlarge, -, -⟩
  · exact ⟨_, _, h, hP s hs⟩
  · exact ⟨_, _, h, (hP s hs).of_quiet hq.balanceOf hq.movements⟩
  · exact ⟨_, _, h, (hP s hs).moved hm⟩
  · have := clampDelta_fits ((hP s hs).valid item) hsafe
    omega

open Command in
/-- **Reserving is never rejected** on a ledger that keeps the invariant. -/
theorem reserveOrder_ensures (orderId : String) :
    Ensures LedgerInv (reserveOrder orderId) (fun _ => LedgerInv) := by
  refine Ensures.ask_bind fun loaded => ?_
  refine Ensures.conseq (P := LedgerInv) ?_ (fun s hs => hs.1) (fun _ _ hs => hs)
  cases loaded with
  | none => exact Ensures.pure fun s hs => hs
  | some order =>
    refine Ensures.forEach (I := fun _ => LedgerInv) fun line _ _ => ?_
    unfold reserveLine
    split
    · refine Ensures.bind (Ensures.forEach (I := fun _ => LedgerInv) fun unit _ _ => ?_)
        fun _ => Ensures.modify fun s hs => ledgerInv_stable.status _ trivial hs
      exact (move_ensures (fun s hs => hs) (Or.inr (Or.inl rfl))).bind fun _ =>
        Ensures.pure fun s hs => hs
    · exact Ensures.pure fun s hs => hs

/-! ### The strict writers -/

open Command in
theorem changeStock_keeps {key : String} (storeId : String)
    {change : BalanceQuantities → BalanceQuantities × InventoryMovement}
    (hchange : ∀ balance, Explains item balance (change balance)) :
    Keeps LedgerInv (changeStock storeId item key change) := by
  intro s hs
  rcases changeStock_cases storeId item key change s with ⟨e, h⟩ | ⟨duplicate, -, h⟩ |
    ⟨-, hvalid, h⟩
  · rw [Command.final, h]
    exact hs
  · rw [Command.final, h]
    exact hs
  · rw [Command.final, h]
    have hx := hchange (s.balanceOf item)
    refine hs.wrote (hx.wrote (fun _ => rfl) rfl) ?_
    rw [Store.balanceOf_post, if_pos rfl]
    exact hvalid

variable {e : ServiceError}

theorem changeStock_rejected {storeId key : String}
    {change : BalanceQuantities → BalanceQuantities × InventoryMovement}
    (h : changeStock storeId item key change s = (.error e, t)) : t = s := by
  rcases changeStock_cases storeId item key change s with ⟨e', h'⟩ | ⟨duplicate, -, h'⟩ |
    ⟨-, -, h'⟩ <;> rw [h'] at h <;> simp at h
  exact h.2.symm

theorem explains_setOnHand (item : String) (dto : SetInventoryOnHandDto)
    (balance : BalanceQuantities) :
    Explains item balance
      ({ balance with onHand := dto.quantity },
        { inventoryItemId := item
          type := .manualAdjustment
          bucket := .onHand
          quantityDelta := dto.quantity - balance.onHand
          resultingQuantity := dto.quantity
          reason := JsText.trim dto.reason
          referenceType := some "ABSOLUTE_STOCK_UPDATE"
          idempotencyKey := some dto.idempotencyKey }) := by
  refine ⟨rfl, ?_, rfl⟩
  change dto.quantity = balance.onHand + (dto.quantity - balance.onHand)
  omega

open Command in
theorem moveOnHandInTx_keeps (item : String) (movement : OnHandMovement) :
    Keeps LedgerInv (withOrderTransaction (moveOnHandInTx item movement)) := by
  intro s hs
  rcases moveOnHandInTx_cases item movement s with ⟨e, t, h⟩ | ⟨next, hx, hvalid, -, -, h⟩
  · rw [Command.final, withOrderTransaction, transaction_of_error h]
    exact ledgerInv_stable.quiet (quiet_rollback s t) hs
  · rw [Command.final, withOrderTransaction, transaction_of_ok h]
    refine hs.wrote (hx.wrote (fun other => s.balanceOf_ensureDefaultBalance item other) rfl) ?_
    rw [Store.balanceOf_post, if_pos rfl]
    exact hvalid

/-! ### Runs -/

/-- The operations on stock. The order flow runs in a transaction on the order, purchases run
`moveOnHandInTx` in theirs; meanwhile orders and products may be edited in any way. -/
inductive StockOperation
  | reserveOrder (orderId : String)
  | deliverOrder (orderId : String) (deliveredAt : Option ℤ)
  | releaseOrder (orderId : String)
  | applyReturnCondition (input : ReturnConditionInput)
  | reconcileReturnTargets (input : ReconcileInput)
  | adjust (storeId inventoryItemId : String) (dto : AdjustInventoryDto)
  | setOnHand (storeId inventoryItemId : String) (dto : SetInventoryOnHandDto)
  | applyMovement (storeId inventoryItemId : String) (input : MovementInput)
  | moveOnHandInTx (inventoryItemId : String) (movement : OnHandMovement)
  | editOrders (orders : List EcommerceOrder)

def StockOperation.perform : StockOperation → Service Unit
  | .reserveOrder orderId => Zomaal.reserveOrder orderId
  | .deliverOrder orderId deliveredAt =>
    withOrderTransaction (Zomaal.deliverOrder orderId deliveredAt)
  | .releaseOrder orderId => withOrderTransaction (Zomaal.releaseOrder orderId)
  | .applyReturnCondition input => do
      let _ ← withOrderTransaction (Zomaal.applyReturnCondition input)
  | .reconcileReturnTargets input => do
      let _ ← withOrderTransaction (Zomaal.reconcileReturnTargets input)
  | .adjust storeId item dto => do
      let _ ← Zomaal.adjust storeId item dto
  | .setOnHand storeId item dto => do
      let _ ← Zomaal.setOnHand storeId item dto
  | .applyMovement storeId item input => do
      let _ ← Zomaal.applyMovement storeId item input
  | .moveOnHandInTx item movement => do
      let _ ← withOrderTransaction (Zomaal.moveOnHandInTx item movement)
  | .editOrders orders => Command.modify fun s => { s with orders := orders }

def StockOperation.step (s : Store) (operation : StockOperation) : Store :=
  operation.perform.final s

open Command in
theorem StockOperation.keeps (operation : StockOperation) :
    Keeps LedgerInv operation.perform := by
  cases operation with
  | reserveOrder orderId => exact ledgerInv_stable.moves.reserveOrder orderId
  | deliverOrder orderId deliveredAt =>
    exact ledgerInv_stable.withOrderTransaction (ledgerInv_stable.moves.deliverOrder orderId _)
  | releaseOrder orderId =>
    exact ledgerInv_stable.withOrderTransaction (ledgerInv_stable.moves.releaseOrder orderId)
  | applyReturnCondition input =>
    exact (ledgerInv_stable.withOrderTransaction
      (ledgerInv_stable.moves.applyReturnCondition input)).bind fun _ => Keeps.pure ()
  | reconcileReturnTargets input =>
    exact (ledgerInv_stable.withOrderTransaction
      (ledgerInv_stable.moves.reconcileReturnTargets trivial)).bind fun _ => Keeps.pure ()
  | adjust storeId item dto =>
    exact (changeStock_keeps storeId fun _ => explains_changeBucket ..).bind fun _ =>
      Keeps.pure ()
  | setOnHand storeId item dto =>
    exact (changeStock_keeps storeId fun _ => explains_setOnHand ..).bind fun _ => Keeps.pure ()
  | applyMovement storeId item input =>
    exact (changeStock_keeps storeId fun _ => explains_changeBucket ..).bind fun _ =>
      Keeps.pure ()
  | moveOnHandInTx item movement =>
    exact (moveOnHandInTx_keeps item movement).bind fun _ => Keeps.pure ()
  | editOrders orders => exact Keeps.modify fun s hs => hs.of_quiet (fun _ => rfl) rfl

theorem rejected_of_discard {α : Type} {c : Service α}
    (h : (do let _ ← c : Service Unit) s = (.error e, t)) : c s = (.error e, t) := by
  rcases hc : c s with ⟨e' | a, u⟩
  · rw [Command.bind_of_error hc] at h
    simpa using h
  · rw [Command.bind_of_ok hc] at h
    simp at h

theorem withOrderTransaction_rejected {α : Type} {work : Service α}
    (h : withOrderTransaction work s = (.error e, t)) :
    t.balances = s.balances ∧ t.movements = s.movements := by
  rcases hw : work s with ⟨e' | a, u⟩
  · rw [withOrderTransaction, Command.transaction_of_error hw] at h
    obtain rfl : s.rollback u = t := congrArg Prod.snd h
    exact ⟨rfl, rfl⟩
  · rw [withOrderTransaction, Command.transaction_of_ok hw] at h
    simp at h

theorem StockOperation.rejected_unchanged (hs : LedgerInv s) {operation : StockOperation}
    (h : operation.perform s = (.error e, t)) :
    t.balances = s.balances ∧ t.movements = s.movements := by
  cases operation with
  | reserveOrder orderId =>
    obtain ⟨a, u, hok, -⟩ := reserveOrder_ensures orderId s hs
    rw [StockOperation.perform, hok] at h
    simp at h
  | deliverOrder orderId deliveredAt => exact withOrderTransaction_rejected h
  | releaseOrder orderId => exact withOrderTransaction_rejected h
  | applyReturnCondition input => exact withOrderTransaction_rejected (rejected_of_discard h)
  | reconcileReturnTargets input => exact withOrderTransaction_rejected (rejected_of_discard h)
  | adjust storeId item dto =>
    obtain rfl := changeStock_rejected (rejected_of_discard h)
    exact ⟨rfl, rfl⟩
  | setOnHand storeId item dto =>
    obtain rfl := changeStock_rejected (rejected_of_discard h)
    exact ⟨rfl, rfl⟩
  | applyMovement storeId item input =>
    obtain rfl := changeStock_rejected (rejected_of_discard h)
    exact ⟨rfl, rfl⟩
  | moveOnHandInTx item movement => exact withOrderTransaction_rejected (rejected_of_discard h)
  | editOrders orders => simp [StockOperation.perform] at h

theorem LedgerInv.run (hs : LedgerInv s) (operations : List StockOperation) :
    LedgerInv (Machine.run StockOperation.step s operations) :=
  Machine.run_keeps (fun t operation ht => operation.keeps t ht) hs operations

end Zomaal
