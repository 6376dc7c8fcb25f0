/-
**Order-driven stock.**

Units are reserved when an order is handed to a courier, deducted for good on delivery, and released
when the order is cancelled or comes back.  Every change is one `move`: an idempotent stock movement
referencing the order line, clamped to what the balance allows.  This module embeds
`OrderStockService` from `order-stock.service.ts`.  Called on the plain client each `move` and each
`setStatus` commits on its own; called through `withOrderTransaction` a method is all or nothing.
-/

import Zomaal.StockUnits

set_option autoImplicit false

namespace Zomaal

def orderLineReference : String := "ORDER_LINE"

/-- Return movements recorded before order-driven stock referenced the order. -/
def legacyReturnReferences : List String := ["ORDER_RETURN", "ORDER_RETURN_CORRECTION"]

def returnMovementTypes : List InventoryMovementType := [.returnGood, .returnDamaged, .returnLost]

/-! ### The questions asked of the ledger -/

def InventoryMovement.refersTo (lineId : String) (movement : InventoryMovement) : Bool :=
  movement.referenceType = some orderLineReference ∧ movement.referenceId = some lineId

namespace Store

variable (s : Store)

/-- `inventoryMovement.aggregate`: the sum of `quantityDelta` over the selected movements. -/
def sumMovements (sel : InventoryMovement → Bool) : ℤ :=
  Ledger.total InventoryMovement.quantityDelta sel s.movements

def netReserved (lineId inventoryItemId : String) : ℤ :=
  s.sumMovements fun movement =>
    movement.refersTo lineId && (movement.inventoryItemId = inventoryItemId &&
      movement.bucket = .reserved)

/-- What returns of a line have put into a bucket of an item; older return movements referenced the
order instead of the line. -/
def netReturned (orderId lineId inventoryItemId : String) (bucket : InventoryBucket) : ℤ :=
  s.sumMovements fun movement =>
    movement.inventoryItemId = inventoryItemId && (movement.bucket = bucket &&
      (decide (movement.type ∈ returnMovementTypes) && (movement.refersTo lineId ||
        ((movement.referenceType.any fun type => decide (type ∈ legacyReturnReferences)) &&
          movement.referenceId = some orderId))))

def returnedItems (lineId : String) : List String :=
  ((s.movements.filter fun movement =>
    movement.refersTo lineId && decide (movement.type ∈ returnMovementTypes)).map
      InventoryMovement.inventoryItemId).dedup

/-- Items still reserved for a line but no longer part of its product, with what is reserved of
them. -/
def orphanReservations (line : OrderLine) : List (String × ℤ) :=
  if line.stockStatus ≠ some .reserved then []
  else
    let current := (physicalUnits line).map StockUnit.inventoryItemId
    let items := ((s.movements.filter fun movement =>
      movement.refersTo line.id && movement.bucket = .reserved).map
        InventoryMovement.inventoryItemId).dedup
    (items.map fun item => (item, s.netReserved line.id item)).filter fun group =>
      0 < group.2 ∧ group.1 ∉ current

end Store

/-! ### One movement -/

structure MoveInput where
  type : InventoryMovementType
  bucket : InventoryBucket
  delta : ℤ
  reason : String
  lineId : String
  idempotencyKey : String
  deriving DecidableEq

def shortageWarning (item : String) (input : MoveInput) (applied : ℤ) : String :=
  "Stock short for item " ++ item ++ ": wanted " ++ toString input.delta ++ " " ++
    input.bucket.text ++ ", moved " ++ toString applied ++ " (" ++ input.idempotencyKey ++ ")"

/-- The movement that records `applied` of an `input`. -/
def MoveInput.movement (input : MoveInput) (item : String) (applied resultingQuantity : ℤ) :
    InventoryMovement where
  inventoryItemId := item
  type := input.type
  bucket := input.bucket
  quantityDelta := applied
  resultingQuantity := resultingQuantity
  reason :=
    if applied = input.delta then input.reason
    else input.reason ++ " (only " ++ toString applied.natAbs ++ " of " ++
      toString input.delta.natAbs ++ " in stock)"
  referenceType := some orderLineReference
  referenceId := some input.lineId
  idempotencyKey := some input.idempotencyKey

/-- Applies the clamped part of `delta` and returns it. A used key moves nothing and returns what it
moved then. A quantity that does not fit its column is an error. -/
def move (item : String) (input : MoveInput) : Service ℤ := fun s =>
  match s.findMovement item input.idempotencyKey with
  | some duplicate => (.ok duplicate.quantityDelta, s)
  | none =>
    let balance := s.balanceOf item
    let applied := clampDelta balance input.bucket input.delta
    let s := if applied = input.delta then s else s.warn (shortageWarning item input applied)
    if applied = 0 then (.ok 0, s.ensureDefaultBalance item)
    else
      let resultingQuantity := bucketField input.bucket balance + applied
      if resultingQuantity ≤ maxQuantity then
        (.ok applied,
          s.post (setBucketField resultingQuantity input.bucket balance)
            (input.movement item applied resultingQuantity))
      else (.error .integerOutOfRange, s)

/-! ### Orders -/

/-- What `loadOrder` returns. -/
structure LoadedOrder where
  storeId : String
  label : String
  lines : List OrderLine

def EcommerceOrder.load (order : EcommerceOrder) : LoadedOrder where
  storeId := order.storeId
  label := order.orderName.getD order.id
  lines := order.lines

variable (orderId : String)

def loadOrder : Service (Option LoadedOrder) :=
  Command.ask fun s => (s.findOrder orderId).map EcommerceOrder.load

def setStatus (lineId : String) (stockStatus : OrderLineStockStatus) : Service Unit :=
  Command.modify fun s => s.updateLine lineId fun line =>
    { line with stockStatus := some stockStatus }

def netReserved (lineId inventoryItemId : String) : Service ℤ :=
  Command.ask fun s => s.netReserved lineId inventoryItemId

def netReturned (orderId lineId inventoryItemId : String) (bucket : InventoryBucket) : Service ℤ :=
  Command.ask fun s => s.netReturned orderId lineId inventoryItemId bucket

/-! ### Reserving -/

variable (label lineId : String)

def reserveInput (unit : StockUnit) : MoveInput where
  type := .orderReserved
  bucket := .reserved
  delta := unit.quantity
  reason := "Reserved for order " ++ label
  lineId := lineId
  idempotencyKey := "order-reserve:" ++ lineId

def reserveUnit (unit : StockUnit) : Service Unit := do
  let _ ← move unit.inventoryItemId (reserveInput label lineId unit)

/-- A line takes part in a reservation when it is linked and nothing happened to it yet. -/
def OrderLine.reservable (line : OrderLine) : Bool :=
  line.warehouseVariant.isSome && line.stockStatus.isNone

def reserveLine (label : String) (line : OrderLine) : Service Unit :=
  if line.reservable then do
    Command.forEach (physicalUnits line) (reserveUnit label line.id)
    setStatus line.id .reserved
  else pure ()

def reserveOrder : Service Unit := do
  match ← loadOrder orderId with
  | none => pure ()
  | some order => Command.forEach order.lines (reserveLine order.label)

/-! ### Settling a reservation -/

/-- The movement that takes `reserved` units of a reservation back, in words that say why. -/
structure Settlement where
  type : InventoryMovementType
  reason : String
  key : String

def Settlement.input (settlement : Settlement) (lineId : String) (reserved : ℤ) : MoveInput where
  type := settlement.type
  bucket := .reserved
  delta := -reserved
  reason := settlement.reason
  lineId := lineId
  idempotencyKey := settlement.key ++ lineId

def deliverySettlement (label : String) : Settlement where
  type := .orderDelivered
  reason := "Reservation settled: order " ++ label ++ " delivered"
  key := "order-deliver-release:"

def releaseSettlement (label : String) : Settlement where
  type := .orderReleased
  reason := "Released: order " ++ label ++ " cancelled or returned"
  key := "order-release:"

def settleReserved (settlement : Settlement) (lineId inventoryItemId : String) : Service Unit := do
  let reserved ← netReserved lineId inventoryItemId
  if 0 < reserved then do
    let _ ← move inventoryItemId (settlement.input lineId reserved)
  else pure ()

/-! ### Delivering -/

def deliverInput (quantity : ℤ) : MoveInput where
  type := .orderDelivered
  bucket := .onHand
  delta := -quantity
  reason := "Order " ++ label ++ " delivered"
  lineId := lineId
  idempotencyKey := "order-deliver:" ++ lineId

def packagingInput (quantity : ℤ) : MoveInput where
  type := .packagingConsumed
  bucket := .onHand
  delta := -quantity
  reason := "Packaging used for delivered order " ++ label
  lineId := lineId
  idempotencyKey := "order-packaging:" ++ lineId

def deliverUnit (unit : StockUnit) : Service Unit :=
  if unit.role = .packaging then do
    let _ ← move unit.inventoryItemId (packagingInput label lineId unit.quantity)
  else do
    settleReserved (deliverySettlement label) lineId unit.inventoryItemId
    let _ ← move unit.inventoryItemId (deliverInput label lineId unit.quantity)

/-- An item reserved earlier that is no longer part of the product did ship. -/
def deliverOrphan (orphan : String × ℤ) : Service Unit := do
  let _ ← move orphan.1 ((deliverySettlement label).input lineId orphan.2)
  let _ ← move orphan.1 (deliverInput label lineId orphan.2)

/-- A delivery passes over unmatched lines, delivered ones, and unreserved ones first synced after a
delivery of the platform's timeline. -/
def OrderLine.deliverable (deliveredAt : Option ℤ) (line : OrderLine) : Bool :=
  line.warehouseVariant.isSome && (line.stockStatus ≠ some .delivered &&
    !(line.stockStatus.isNone && deliveredAt.any fun delivered => decide (delivered < line.createdAt)))

def deliverLine (label : String) (deliveredAt : Option ℤ) (line : OrderLine) : Service Unit :=
  if line.deliverable deliveredAt then do
    Command.forEach (expandOrderLine line) (deliverUnit label line.id)
    let orphans ← Command.ask fun s => s.orphanReservations line
    Command.forEach orphans (deliverOrphan label line.id)
    setStatus line.id .delivered
  else pure ()

def deliverOrder (deliveredAt : Option ℤ := none) : Service Unit := do
  match ← loadOrder orderId with
  | none => pure ()
  | some order => Command.forEach order.lines (deliverLine order.label deliveredAt)

/-! ### Releasing -/

def releaseUnit (unit : StockUnit) : Service Unit :=
  settleReserved (releaseSettlement label) lineId unit.inventoryItemId

def releaseOrphan (orphan : String × ℤ) : Service Unit := do
  let _ ← move orphan.1 ((releaseSettlement label).input lineId orphan.2)

def releaseLine (label : String) (line : OrderLine) : Service Unit := do
  Command.forEach (physicalUnits line) (releaseUnit label line.id)
  let orphans ← Command.ask fun s => s.orphanReservations line
  Command.forEach orphans (releaseOrphan label line.id)
  setStatus line.id .released

def releaseIfReserved (label : String) (line : OrderLine) : Service Unit :=
  if line.stockStatus = some .reserved then releaseLine label line else pure ()

def releaseOrder : Service Unit := do
  match ← loadOrder orderId with
  | none => pure ()
  | some order => Command.forEach order.lines (releaseIfReserved order.label)

/-! ### Return conditions -/

structure ReturnConditionInput where
  orderId : String
  orderLabel : String
  lineId : String
  condition : ProductCondition
  isCorrection : Bool
  recordedAt : ℤ

/-- The movement that takes back `applied` units of earlier return movements. -/
def reverseInput (input : ReturnConditionInput) (bucket : InventoryBucket) (applied : ℤ) :
    MoveInput where
  type :=
    if bucket = .damaged then .returnDamaged
    else if 0 < applied then .returnGood else .returnLost
  bucket := bucket
  delta := -applied
  reason := "Correction: reversing earlier return condition (order " ++ input.orderLabel ++ ")"
  lineId := input.lineId
  idempotencyKey := "return-reverse:" ++ input.lineId ++ ":" ++ bucket.text ++ ":" ++
    toString input.recordedAt

def reverseReturned (input : ReturnConditionInput) (item : String) (bucket : InventoryBucket) :
    Service Unit := do
  let applied ← netReturned input.orderId input.lineId item bucket
  if applied = 0 then pure ()
  else do
    let _ ← move item (reverseInput input bucket applied)

/-- The movement of one effect of a return condition on `quantity` units. -/
def effectInput (input : ReturnConditionInput) (quantity : ℤ) (effect : ConditionEffect × ℕ) :
    MoveInput where
  type := effect.1.type
  bucket := effect.1.bucket
  delta := effect.1.sign * quantity
  reason := "Return condition: " ++ input.condition.text ++ " (order " ++ input.orderLabel ++ ")"
  lineId := input.lineId
  idempotencyKey :=
    let key := "return:" ++ input.lineId ++ ":" ++ input.condition.text
    if input.isCorrection then key ++ ":" ++ toString effect.2 ++ ":" ++ toString input.recordedAt
    else if effect.2 = 0 then key else key ++ ":" ++ toString effect.2

def applyEffect (input : ReturnConditionInput) (unit : StockUnit) (effect : ConditionEffect × ℕ) :
    Service Bool := do
  let applied ← move unit.inventoryItemId (effectInput input unit.quantity effect)
  pure (applied ≠ 0)

/-- Stock effect of a recorded return condition. A correction first undoes what the earlier return
movements actually applied. -/
def applyReturnCondition (input : ReturnConditionInput) : Service Bool := do
  match ← Command.ask fun s => s.lines.find? fun line => line.id = input.lineId with
  | none => pure false
  | some line =>
    if line.warehouseVariant.isNone then pure false
    else do
      releaseIfReserved input.orderLabel line
      let delivered := decide (line.stockStatus = some .delivered)
      let units := (expandOrderLine line).filter fun unit => unit.role = .product
      Command.anyEach units fun unit => do
        (if input.isCorrection then
          Command.forEach [InventoryBucket.damaged, .onHand]
            (reverseReturned input unit.inventoryItemId)
        else pure ())
        Command.anyEach (conditionEffects input.condition delivered).zipIdx
          (applyEffect input unit)

/-- What the return movements of a line should add up to for one item. -/
structure ReturnTarget where
  onHand : ℤ := 0
  damaged : ℤ := 0

/-- A `Map` from inventory items to targets, in insertion order. -/
abbrev ReturnTargets := List (String × ReturnTarget)

def ReturnTargets.get (targets : ReturnTargets) (item : String) : ReturnTarget :=
  ((targets.find? fun entry => entry.1 = item).map Prod.snd).getD {}

/-- `targets.set(item, zero)` for the items the map does not have yet. -/
def ReturnTargets.cover (targets : ReturnTargets) (items : List String) : ReturnTargets :=
  items.foldl
    (fun targets item =>
      if item ∈ targets.map Prod.fst then targets else targets ++ [(item, ({} : ReturnTarget))])
    targets

structure ReconcileInput where
  orderId : String
  lineId : String
  revision : ℕ
  targets : ReturnTargets

/-- The changes that bring an item's returns to the target: damaged stock goes down before and up
after the change on hand, so that it finds room. -/
def returnDeltas (target : ReturnTarget) (onHand damaged : ℤ) : List (InventoryBucket × ℤ) :=
  (if target.damaged < damaged then [(.damaged, target.damaged - damaged)] else []) ++
    [(.onHand, target.onHand - onHand)] ++
    (if damaged < target.damaged then [(.damaged, target.damaged - damaged)] else [])

def returnAllocationKey (lineId : String) (revision : ℕ) (item : String) (index : ℕ) : String :=
  "return-allocation:" ++ lineId ++ ":" ++ toString revision ++ ":" ++ item ++ ":" ++
    toString index

def returnDeltaInput (input : ReconcileInput) (item : String)
    (change : (InventoryBucket × ℤ) × ℕ) : MoveInput where
  bucket := change.1.1
  delta := change.1.2
  type :=
    if change.1.1 = .damaged then .returnDamaged
    else if 0 < change.1.2 then .returnGood else .returnLost
  reason := "Warehouse condition allocation reconciled"
  lineId := input.lineId
  idempotencyKey := returnAllocationKey input.lineId input.revision item change.2

def applyReturnDelta (input : ReconcileInput) (item : String)
    (change : (InventoryBucket × ℤ) × ℕ) : Service Bool :=
  if change.1.2 = 0 then pure false
  else do
    let applied ← move item (returnDeltaInput input item change)
    pure (applied ≠ 0)

def reconcileItem (input : ReconcileInput) (entry : String × ReturnTarget) : Service Bool := do
  let onHand ← netReturned input.orderId input.lineId entry.1 .onHand
  let damaged ← netReturned input.orderId input.lineId entry.1 .damaged
  Command.anyEach (returnDeltas entry.2 onHand damaged).zipIdx (applyReturnDelta input entry.1)

def reconcileReturnTargets (input : ReconcileInput) : Service Bool := do
  match ← loadOrder input.orderId with
  | none => pure false
  | some order =>
    match order.lines.find? fun line => line.id = input.lineId with
    | none => pure false
    | some line => do
        releaseIfReserved order.label line
        let prior ← Command.ask fun s => s.returnedItems input.lineId
        Command.anyEach (input.targets.cover prior) (reconcileItem input)

end Zomaal
