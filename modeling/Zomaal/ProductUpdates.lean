/-
**Updates of a store's products.**

An update changes the costs of a product's variants, or replaces the components of a bundle, whose
cost is derived.  This module embeds what `update`, `prepareContentEdit`, `applyContentEdit` and
`refreshBundleCosts` of `product.service.ts` do to costs, statement by statement.  The products are
those of one store; a product can be a component of bundles of its own store only.
-/

import Zomaal.Purchases
import Zomaal.ReadCommitted

set_option autoImplicit false

namespace Zomaal.Catalogue

open Purchasing (StoredMoney store4)
open ReadCommitted (Program)

/-! ### The tables -/

inductive WarehouseProductStatus
  | draft
  | active
  | archived
  deriving DecidableEq

structure WarehouseProduct where
  kind : WarehouseProductKind
  status : WarehouseProductStatus := .active
  version : ℤ := 1

structure WarehouseVariant where
  id : String
  productId : String
  isDefault : Bool
  costPrice : StoredMoney

structure ProductBundleComponent where
  bundleProductId : String
  componentVariantId : String
  quantity : ℕ
  deriving DecidableEq

/-- The tables; variants stand in the order of their positions. -/
structure Products where
  products : String → Option WarehouseProduct := fun _ => none
  variants : List WarehouseVariant := []
  components : List ProductBundleComponent := []

inductive ProductRow
  | product (id : String)
  | variant (id : String)
  | component (bundleProductId componentVariantId : String)
  deriving DecidableEq

inductive UpdateError
  | notFound (message : String)
  | badRequest (message : String)
  | conflict (message : String)
  | recordNotFound
  /-- the column holds sixteen digits before the point -/
  | numericOverflow
  /-- the connection was lost, or the database broke a deadlock -/
  | transactionFailed

/-! ### The request -/

structure UpdateWarehouseVariantDto where
  id : String
  price : Option Decimal := none
  costPrice : Option Decimal := none
  lowStockAlertThreshold : Option ℤ := none

structure ProductBundleComponentInputDto where
  variantId : String
  quantity : ℕ

structure UpdateWarehouseProductDto where
  productId : String
  version : ℤ
  status : Option WarehouseProductStatus := none
  basePrice : Option Decimal := none
  costPrice : Option Decimal := none
  lowStockAlertThreshold : Option ℤ := none
  variants : List UpdateWarehouseVariantDto := []
  bundleComponents : Option (List ProductBundleComponentInputDto) := none

variable (dto : UpdateWarehouseProductDto)

def UpdateWarehouseProductDto.pricesProduct : Bool :=
  dto.basePrice.isSome || dto.costPrice.isSome || dto.lowStockAlertThreshold.isSome

def checkUpdate (kind : WarehouseProductKind) (variantIds : List String) : Option UpdateError :=
  if dto.variants ≠ [] ∧ dto.pricesProduct then
    some (.badRequest "Use either the simple-product pricing fields or variants, not both")
  else if dto.pricesProduct ∧ variantIds.length ≠ 1 then
    some (.badRequest
      "Products with multiple variants must be updated through the variants array")
  else if kind = .bundle ∧ (dto.costPrice.isSome ∨ ∃ v ∈ dto.variants, v.costPrice.isSome) then
    some (.badRequest "Bundle cost is derived from component variant costs")
  else if ¬ (dto.variants.map UpdateWarehouseVariantDto.id).Nodup then
    some (.badRequest "A variant can be updated only once")
  else if ∃ v ∈ dto.variants, v.id ∉ variantIds then
    some (.badRequest "Every updated variant must belong to this product")
  else if dto.bundleComponents.isSome ∧ kind ≠ .bundle then
    some (.badRequest "Only bundles have components")
  else if ¬ ((dto.bundleComponents.getD []).map ProductBundleComponentInputDto.variantId).Nodup then
    some (.badRequest "A variant can appear only once in a product bundle")
  else none

/-! ### What statements read -/

namespace Products

variable (c : Products)

variable (productId : String)

def kindOf : Option WarehouseProductKind :=
  (c.products productId).map WarehouseProduct.kind

def variantIds : List String :=
  (c.variants.filter fun v => v.productId = productId).map WarehouseVariant.id

def costOf (variantId : String) : StoredMoney :=
  ((KeyedRows.lookup WarehouseVariant.id variantId c.variants).map
    WarehouseVariant.costPrice).getD ⟨0, toFixed4_zero⟩

def standardVariants (ids : List String) : List WarehouseVariant :=
  c.variants.filter fun v => v.id ∈ ids ∧ c.kindOf v.productId = some .standard

def findComponents (ids : List String) : List WarehouseVariant :=
  (c.standardVariants ids).filter fun v =>
    (c.products v.productId).map WarehouseProduct.status = some .active

def usages (variantIds : List String) : List String :=
  ((c.components.filter fun row => row.componentVariantId ∈ variantIds).map
    ProductBundleComponent.bundleProductId).dedup

variable (bundleProductId : String)

def componentsOf : List ProductBundleComponent :=
  c.components.filter fun row => row.bundleProductId = bundleProductId

def defaultVariants : List WarehouseVariant :=
  c.variants.filter fun v => v.productId = productId ∧ v.isDefault

/-! ### What statements write -/

def bump : Products :=
  { c with
    products := Function.update c.products dto.productId
      ((c.products dto.productId).map fun product =>
        { product with
          version := product.version + 1
          status := dto.status.getD product.status }) }

def setCost (variantId : String) (cost : Option Decimal) : Products :=
  { c with
    variants := KeyedRows.change WarehouseVariant.id variantId (fun v =>
      { v with costPrice := (cost.map store4).getD v.costPrice }) c.variants }

def setDefaultCost (cost : Decimal) : Products :=
  { c with
    variants := c.variants.map fun v =>
      if v.productId = productId ∧ v.isDefault then { v with costPrice := store4 cost } else v }

def deleteComponents : Products :=
  { c with components := c.components.filter fun row => row.bundleProductId ≠ bundleProductId }

def createComponents (inputs : List ProductBundleComponentInputDto) : Products :=
  { c with
    components := c.components ++ inputs.map fun input =>
      { bundleProductId, componentVariantId := input.variantId, quantity := input.quantity } }

end Products

/-! ### The statements of an update -/

abbrev ProductProgram := Program Products ProductRow UpdateError

def costSum (costs : List (StoredMoney × ℕ)) : Decimal :=
  (costs.map fun cost => cost.1.1 * (cost.2 : ℚ)).sum

/-- `Decimal(20, 4)` holds sixteen digits before the point. -/
def overflows (cost : Decimal) : Bool := 10 ^ 16 ≤ cost

def writeDefaultCost (productId : String) (cost : Decimal) (next : ProductProgram) :
    ProductProgram :=
  .write (fun _ => if overflows cost then some .numericOverflow else none)
    (fun c => (c.defaultVariants productId).map fun v => .variant v.id)
    (fun c => c.setDefaultCost productId cost) next

/-- The loop of `refreshBundleCosts`: the components of a bundle are read, then their costs, and the
bundle's cost is written. -/
def refreshEach : List String → ProductProgram → ProductProgram
  | [], next => next
  | bundle :: bundles, next =>
    .read (fun _ => none) (fun c => c.componentsOf bundle) fun rows =>
    .read (fun _ => none) (fun c => rows.map fun row => c.costOf row.componentVariantId)
      fun costs =>
    writeDefaultCost bundle (costSum (costs.zip (rows.map ProductBundleComponent.quantity)))
      (refreshEach bundles next)

def refreshBundleCosts (variantIds : List String) (next : ProductProgram) : ProductProgram :=
  if variantIds = [] then next
  else .read (fun _ => none) (fun c => c.usages variantIds) fun bundles => refreshEach bundles next

def variantWrites (variantIds : List String) : List (String × Option Decimal) :=
  (if dto.pricesProduct then (variantIds.take 1).map fun id => (id, dto.costPrice) else []) ++
    dto.variants.map fun v => (v.id, v.costPrice)

def changedCosts (writes : List (String × Option Decimal)) : List String :=
  (writes.filter fun write => write.2.isSome).map Prod.fst

def writeCosts : List (String × Option Decimal) → ProductProgram → ProductProgram
  | [], next => next
  | (id, cost) :: writes, next =>
    .write (fun c =>
        if (KeyedRows.lookup WarehouseVariant.id id c.variants).isNone then some .recordNotFound
        else if cost.any overflows then some .numericOverflow
        else none)
      (fun _ => [.variant id]) (fun c => c.setCost id cost) (writeCosts writes next)

def applyComponents (productId : String)
    (components : Option (List ProductBundleComponentInputDto × Decimal)) : ProductProgram :=
  match components with
  | none => .done
  | some (inputs, bundleCost) =>
    .write (fun _ => none)
      (fun c => (c.componentsOf productId).map fun row =>
        .component productId row.componentVariantId)
      (fun c => c.deleteComponents productId)
    (.write (fun _ => none)
      (fun _ => inputs.map fun input => .component productId input.variantId)
      (fun c => c.createComponents productId inputs)
    (writeDefaultCost productId bundleCost .done))

def transaction (variantIds : List String)
    (components : Option (List ProductBundleComponentInputDto × Decimal)) : ProductProgram :=
  .write (fun c =>
      if (c.products dto.productId).map WarehouseProduct.version = some dto.version then none
      else some (.conflict "Product was changed by another request; reload and retry"))
    (fun _ => [.product dto.productId]) (fun c => c.bump dto)
  (writeCosts (variantWrites dto variantIds)
  (refreshBundleCosts (changedCosts (variantWrites dto variantIds))
  (applyComponents dto.productId components)))

def componentsUnavailable : UpdateError :=
  .badRequest
    "Every bundle component must be an active standard product variant from this store"

/-- `costById.get(variantId)`, of what was found. -/
def foundCost (found : List (String × StoredMoney)) (variantId : String) : StoredMoney :=
  ((found.find? fun cost => cost.1 = variantId).map Prod.snd).getD ⟨0, toFixed4_zero⟩

/-- `prepareContentEdit`, before the transaction: the components of a bundle are looked up with
their costs.  Whether they are active is asked only here. -/
def prepareContentEdit (variantIds : List String) : ProductProgram :=
  match dto.bundleComponents with
  | none => transaction dto variantIds none
  | some inputs =>
    let ids := inputs.map ProductBundleComponentInputDto.variantId
    .read
      (fun c =>
        if (c.findComponents ids).length ≠ ids.length then some componentsUnavailable else none)
      (fun c => (c.standardVariants ids).map fun v => (v.id, v.costPrice)) fun found =>
    if found.length ≠ ids.length then .fail componentsUnavailable
    else
      transaction dto variantIds (some (inputs,
        costSum (inputs.map fun input => (foundCost found input.variantId, input.quantity))))

def update : ProductProgram :=
  .read
    (fun c =>
      if (c.products dto.productId).isNone then some (.notFound "Warehouse product not found")
      else none)
    (fun c => (c.kindOf dto.productId, c.variantIds dto.productId)) fun product =>
  match product.1 with
  | none => .fail (.notFound "Warehouse product not found")
  | some kind =>
    match checkUpdate dto kind product.2 with
    | some e => .fail e
    | none => prepareContentEdit dto product.2

/-! ### What the cost of a bundle is -/

def Products.componentCost (c : Products) (bundleProductId : String) : Decimal :=
  costSum ((c.componentsOf bundleProductId).map fun row =>
    (c.costOf row.componentVariantId, row.quantity))

def Products.Derived (c : Products) : Prop :=
  ∀ v ∈ c.variants, v.isDefault = true → c.kindOf v.productId = some .bundle →
    v.costPrice.1 = c.componentCost v.productId

end Zomaal.Catalogue
