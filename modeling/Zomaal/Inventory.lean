/-
**Inventory endpoints: the movements that are refused rather than clamped.**

A change that would leave an invalid balance is rejected and nothing is written.  This module embeds
`adjust`, `applyMovement` and `setOnHand` of `inventory.service.ts`, each a serializable transaction
that answers with the movement its key was used for, and `moveOnHandInTx` of
`inventory-balance.util.ts`, which leaves a repeated key to the unique constraint.

Main results:

* `changeStock_cases`, `moveOnHandInTx_cases` — **everything a strict movement can do**.
-/

import Zomaal.JsText
import Zomaal.StockBalance

set_option autoImplicit false

namespace Zomaal

open JsText (trim)

/-! ### Texts -/

def trimToNull (text : Option String) : Option String :=
  (text.map trim).filter fun trimmed => trimmed ≠ ""

/-! ### The transaction shared by the endpoints -/

/-- Find the item in the store, answer a repeated key with its movement, and otherwise write the
changed balance and its movement, if the balance is valid. -/
def changeStock (storeId inventoryItemId idempotencyKey : String)
    (change : BalanceQuantities → BalanceQuantities × InventoryMovement) :
    Service InventoryMovement := fun s =>
  if s.itemStores inventoryItemId ≠ some storeId then
    (.error (.notFound "Inventory item not found"), s)
  else
    match s.findMovement inventoryItemId idempotencyKey with
    | some duplicate => (.ok duplicate, s)
    | none =>
      let next := change (s.balanceOf inventoryItemId)
      match validateBalance next.1 with
      | .error e => (.error e, s)
      | .ok () => (.ok next.2, s.post next.1 next.2)

def changeBucket (inventoryItemId : String) (type : InventoryMovementType)
    (bucket : InventoryBucket) (quantityDelta : ℤ) (reason : String)
    (referenceType referenceId idempotencyKey : Option String) (balance : BalanceQuantities) :
    BalanceQuantities × InventoryMovement :=
  let resultingQuantity := bucketField bucket balance + quantityDelta
  (setBucketField resultingQuantity bucket balance,
    { inventoryItemId, type, bucket, quantityDelta, resultingQuantity, reason, referenceType,
      referenceId, idempotencyKey })

/-! ### The endpoints -/

structure AdjustInventoryDto where
  bucket : InventoryBucket
  quantityDelta : ℤ
  reason : String
  idempotencyKey : String
  referenceType : Option String := none
  referenceId : Option String := none

variable (storeId inventoryItemId : String)

def adjust (dto : AdjustInventoryDto) : Service InventoryMovement :=
  changeStock storeId inventoryItemId dto.idempotencyKey
    (changeBucket inventoryItemId .manualAdjustment dto.bucket dto.quantityDelta (trim dto.reason)
      (trimToNull dto.referenceType) (trimToNull dto.referenceId) (some dto.idempotencyKey))

structure MovementInput where
  type : InventoryMovementType
  bucket : InventoryBucket
  quantityDelta : ℤ
  reason : String
  referenceType : Option String := none
  referenceId : Option String := none
  idempotencyKey : String

/-- A movement of an explicit type, for callers that already resolved the store. -/
def applyMovement (input : MovementInput) : Service InventoryMovement :=
  changeStock storeId inventoryItemId input.idempotencyKey
    (changeBucket inventoryItemId input.type input.bucket input.quantityDelta input.reason
      input.referenceType input.referenceId (some input.idempotencyKey))

structure SetInventoryOnHandDto where
  quantity : ℤ
  reason : String
  idempotencyKey : String

def setOnHand (dto : SetInventoryOnHandDto) : Service InventoryMovement :=
  changeStock storeId inventoryItemId dto.idempotencyKey fun balance =>
    ({ balance with onHand := dto.quantity },
      { inventoryItemId
        type := .manualAdjustment
        bucket := .onHand
        quantityDelta := dto.quantity - balance.onHand
        resultingQuantity := dto.quantity
        reason := trim dto.reason
        referenceType := some "ABSOLUTE_STOCK_UPDATE"
        idempotencyKey := some dto.idempotencyKey })

/-! ### Inside the transaction of a caller -/

structure OnHandMovement where
  type : InventoryMovementType
  quantityDelta : ℤ
  reason : String
  referenceType : String
  referenceId : String
  idempotencyKey : Option String := none

/-- Moves on-hand stock inside the caller's transaction: the balance is written before the movement,
and a movement with a used key breaks the unique constraint. -/
def moveOnHandInTx (inventoryItemId : String) (movement : OnHandMovement) :
    Service InventoryMovement := fun s =>
  let s := s.ensureDefaultBalance inventoryItemId
  let next := changeBucket inventoryItemId movement.type .onHand movement.quantityDelta
    movement.reason (some movement.referenceType) (some movement.referenceId)
    movement.idempotencyKey (s.balanceOf inventoryItemId)
  match validateBalance next.1 with
  | .error e => (.error e, s)
  | .ok () =>
    match movement.idempotencyKey.bind (s.findMovement inventoryItemId) with
    | some _ =>
      (.error .uniqueConstraint,
        { s with balances := Function.update s.balances inventoryItemId (some next.1) })
    | none => (.ok next.2, s.post next.1 next.2)

/-! ### What a strict movement can do -/

/-- What a strict movement of an item writes: a valid balance that differs in one bucket, and the
movement that explains the difference. -/
structure Explains (item : String) (balance : BalanceQuantities)
    (next : BalanceQuantities × InventoryMovement) : Prop where
  item_eq : next.2.inventoryItemId = item
  result : next.2.resultingQuantity = bucketField next.2.bucket balance + next.2.quantityDelta
  balance_eq : next.1 = setBucketField next.2.resultingQuantity next.2.bucket balance

theorem explains_changeBucket (item : String) (type : InventoryMovementType)
    (bucket : InventoryBucket) (quantityDelta : ℤ) (reason : String)
    (referenceType referenceId idempotencyKey : Option String) (balance : BalanceQuantities) :
    Explains item balance (changeBucket item type bucket quantityDelta reason referenceType
      referenceId idempotencyKey balance) :=
  ⟨rfl, rfl, rfl⟩

theorem changeStock_cases (storeId item key : String)
    (change : BalanceQuantities → BalanceQuantities × InventoryMovement) (s : Store) :
    (∃ e, changeStock storeId item key change s = (.error e, s)) ∨
    (∃ duplicate, s.findMovement item key = some duplicate ∧
      changeStock storeId item key change s = (.ok duplicate, s)) ∨
    (s.findMovement item key = none ∧ ValidBalance (change (s.balanceOf item)).1 ∧
      changeStock storeId item key change s = (.ok (change (s.balanceOf item)).2,
        s.post (change (s.balanceOf item)).1 (change (s.balanceOf item)).2)) := by
  unfold changeStock
  split
  · exact Or.inl ⟨_, rfl⟩
  · cases hfind : s.findMovement item key with
    | some duplicate => exact Or.inr (Or.inl ⟨duplicate, rfl, rfl⟩)
    | none =>
      cases hvalid : validateBalance (change (s.balanceOf item)).1 with
      | error e =>
        left
        exact ⟨e, by simp only [hvalid]⟩
      | ok u =>
        right; right
        refine ⟨rfl, (validateBalance_eq_ok_iff _).1 hvalid, ?_⟩
        simp only [hvalid]

/-- **Everything `moveOnHandInTx` can do**: be refused, or write a valid balance under a key the
item has not seen. -/
theorem moveOnHandInTx_cases (item : String) (movement : OnHandMovement) (s : Store) :
    (∃ e t, moveOnHandInTx item movement s = (.error e, t)) ∨
    (∃ next, Explains item (s.balanceOf item) next ∧ ValidBalance next.1 ∧
      next.2.bucket = .onHand ∧ next.2.idempotencyKey = movement.idempotencyKey ∧
      moveOnHandInTx item movement s =
        (.ok next.2, (s.ensureDefaultBalance item).post next.1 next.2)) := by
  unfold moveOnHandInTx
  simp only [Store.balanceOf_ensureDefaultBalance]
  set next := changeBucket item movement.type .onHand movement.quantityDelta movement.reason
    (some movement.referenceType) (some movement.referenceId) movement.idempotencyKey
    (s.balanceOf item) with hnext
  cases hvalid : validateBalance next.1 with
  | error e => exact Or.inl ⟨e, _, rfl⟩
  | ok u =>
    cases hkey : movement.idempotencyKey.bind ((s.ensureDefaultBalance item).findMovement item)
      with
    | some duplicate => exact Or.inl ⟨_, _, rfl⟩
    | none =>
      right
      exact ⟨next, explains_changeBucket .., (validateBalance_eq_ok_iff _).1 hvalid, rfl, rfl,
        rfl⟩

end Zomaal
