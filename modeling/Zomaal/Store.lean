/-
**The stored rows of order-driven stock, return conditions and the order ledger.**

This module declares the rows that the services read and write, in the words of the Prisma schema,
and the `Store` that holds them.  Joined rows are kept joined, because the services only ever read
them through the line.  Quantities are integers; the positive ones carry their proof, as the `CHECK
(… > 0)` constraints of the migrations do.  Money is a rational number; the columns keep four
decimals, and `toFixed4` is where that happens.  Identifiers are texts and instants are
milliseconds.
-/

import Mathlib.Data.Rat.Floor
import Zomaal.Command

set_option autoImplicit false

namespace Zomaal

/-- An amount of money, as `Prisma.Decimal` computes it. -/
abbrev Decimal := ℚ

/-- Rounding to the four decimals of a `Decimal(20, 4)` column: to the nearest, ties away from
zero.  `Decimal.toFixed(4)` rounds the same way. -/
def toFixed4 (x : Decimal) : Decimal :=
  if 0 ≤ x then (⌊x * 10000 + 1 / 2⌋ : ℚ) / 10000 else (⌈x * 10000 - 1 / 2⌉ : ℚ) / 10000

/-! ### Inventory -/

inductive InventoryBucket
  | onHand
  | reserved
  | damaged
  | incoming
  deriving DecidableEq

inductive InventoryMovementType
  | openingBalance
  | manualAdjustment
  | orderReserved
  | orderReleased
  | orderShipped
  | orderDelivered
  | returnLost
  | returnGood
  | returnDamaged
  | packagingReceived
  | packagingConsumed
  | purchaseReceived
  deriving DecidableEq

/-- The quantities of one inventory item at the store's default location. -/
structure BalanceQuantities where
  onHand : ℤ := 0
  reserved : ℤ := 0
  damaged : ℤ := 0
  incoming : ℤ := 0
  deriving DecidableEq

/-- A stock movement.  Every writer modelled here moves stock at the default location, so the
location of a movement is not recorded. -/
structure InventoryMovement where
  inventoryItemId : String
  type : InventoryMovementType
  bucket : InventoryBucket
  quantityDelta : ℤ
  resultingQuantity : ℤ
  reason : String
  referenceType : Option String := none
  referenceId : Option String := none
  idempotencyKey : Option String := none

/-! ### Warehouse products, as an order line sees them -/

inductive WarehouseProductKind
  | standard
  | bundle
  deriving DecidableEq

structure ComponentVariant where
  id : String
  storeId : String
  costPrice : Decimal := 0
  inventoryItem : Option String
  deriving DecidableEq

theorem pair_pos : (0 : ℤ) < 2 := by decide

theorem triple_pos : (0 : ℤ) < 3 := by decide

structure BundleComponent where
  quantity : ℤ
  quantity_pos : 0 < quantity
  componentVariant : ComponentVariant
  deriving DecidableEq

/-- A variant together with the kind and the bundle components of its product. -/
structure PhysicalVariant where
  id : String
  storeId : String
  costPrice : Decimal := 0
  inventoryItem : Option String
  kind : WarehouseProductKind := .standard
  bundleComponents : List BundleComponent := []
  deriving DecidableEq

structure ProductGift where
  quantity : ℤ
  quantity_pos : 0 < quantity
  giftVariant : PhysicalVariant
  deriving DecidableEq

/-- A packaging rule: of the whole product when `variantId` is `none`, of one variant otherwise. -/
structure PackagingRequirement where
  variantId : Option String
  quantityPerUnit : ℤ
  quantityPerUnit_pos : 0 < quantityPerUnit
  packagingMaterialId : String
  inventoryItem : Option String
  deriving DecidableEq

/-- The variant an order line is linked to, with its product's gift and packaging rules. -/
structure WarehouseVariant extends PhysicalVariant where
  gift : Option ProductGift := none
  packagingRequirements : List PackagingRequirement := []
  deriving DecidableEq

/-! ### Return conditions -/

inductive ProductCondition
  | good
  | damaged
  | lost
  | returned
  | missing
  deriving DecidableEq

/-- How many units of an inventory item an allocation covers. -/
structure ConditionUnit where
  inventoryItemId : String
  quantity : ℤ
  deriving DecidableEq

structure StoredConditionEntry where
  componentVariantId : Option String
  quantity : ℤ
  condition : ProductCondition
  damageCost : Option Decimal
  unitCost : Decimal
  saleValue : Decimal
  physicalQuantity : ℤ
  units : List ConditionUnit
  deriving DecidableEq

structure ConditionSnapshot where
  completed : Bool
  expectedQuantity : ℤ
  loss : Decimal
  entries : List StoredConditionEntry
  deriving DecidableEq

/-! ### Orders -/

inductive OrderLineStockStatus
  | reserved
  | released
  | delivered
  deriving DecidableEq

structure OrderLine where
  id : String
  quantity : ℤ
  quantity_pos : 0 < quantity
  totalPrice : Decimal := 0
  createdAt : ℤ := 0
  stockStatus : Option OrderLineStockStatus := none
  warehouseVariant : Option WarehouseVariant := none
  condition : Option String := none
  damageCost : Option Decimal := none
  conditionNotes : Option String := none
  conditionAllocations : Option ConditionSnapshot := none
  conditionRevision : ℕ := 0
  conditionRecordedAt : Option ℤ := none
  deriving DecidableEq

/-- An order, with the store of its connection and that store's base currency. -/
structure EcommerceOrder where
  id : String
  storeId : String
  orderName : Option String := none
  currency : String := "MAD"
  baseCurrency : String := "MAD"
  totalCollected : Decimal := 0
  shipping : Decimal := 0
  lines : List OrderLine := []
  deriving DecidableEq

inductive ReturnRequestStatus
  | needVerification
  | processed
  deriving DecidableEq

structure ReturnRequest where
  id : String
  orderId : String
  status : ReturnRequestStatus
  lineIds : List String
  verifiedAt : Option ℤ := none
  reason : Option String := none

/-! ### The order ledger -/

inductive FinancialEventType
  | revenueRecognized
  | revenueReinstated
  | revenueReversed
  | shippingLoss
  | damageLoss
  deriving DecidableEq

structure FinancialEventData where
  orderId : String
  type : FinancialEventType
  revenue : Decimal
  productCost : Decimal
  shippingCost : Decimal
  damageCost : Decimal
  giftCost : Decimal := 0
  packagingCost : Decimal := 0
  netProfitImpact : Decimal
  currency : String
  reason : String
  idempotencyKey : String

/-- A row of the order ledger.  The rows of the store are kept in the order of their `createdAt`,
which is therefore not a field. -/
structure FinancialEvent extends FinancialEventData where
  id : String

/-! ### The store -/

/-- The database, together with the warnings the services logged and the number of random
identifiers they drew. -/
structure Store where
  balances : String → Option BalanceQuantities := fun _ => none
  movements : List InventoryMovement := []
  itemStores : String → Option String := fun _ => none
  orders : List EcommerceOrder := []
  returnRequests : List ReturnRequest := []
  financialEvents : List FinancialEvent := []
  warnings : List String := []
  uuids : ℕ := 0

inductive ServiceError
  | badRequest (message : String)
  | notFound (message : String)
  | conflict (message : String)
  | serviceUnavailable (message : String)
  | uniqueConstraint
  | integerOutOfRange
  deriving DecidableEq

abbrev Service (α : Type) := Command ServiceError Store α

namespace Store

/-- What is left of a rolled-back transaction: nothing but the warnings it logged. -/
def rollback (before after : Store) : Store := { before with warnings := after.warnings }

def findOrder (s : Store) (orderId : String) : Option EcommerceOrder :=
  s.orders.find? fun order => order.id = orderId

def lines (s : Store) : List OrderLine := s.orders.flatMap EcommerceOrder.lines

def updateLine (s : Store) (lineId : String) (change : OrderLine → OrderLine) : Store :=
  { s with
    orders := s.orders.map fun order =>
      { order with
        lines := order.lines.map fun line => if line.id = lineId then change line else line } }

end Store

def ProductCondition.text : ProductCondition → String
  | .good => "GOOD"
  | .damaged => "DAMAGED"
  | .lost => "LOST"
  | .returned => "RETURNED"
  | .missing => "MISSING"

/-- `withOrderTransaction`: the order's row is locked and the work is all or nothing. -/
def withOrderTransaction {α : Type} (work : Service α) : Service α :=
  Command.transaction Store.rollback work

end Zomaal
