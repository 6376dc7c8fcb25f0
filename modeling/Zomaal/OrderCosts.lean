/-
**What a delivered order cost.**

Products and gifts have a purchase price; packaging costs what the merchant last paid for it, or
else the current price of the catalog.  This module embeds `orderLineCosts` and
`packagingMaterialIds` of `order-stock.util.ts` and `packaging-cost.util.ts`.
-/

import Zomaal.Currency
import Zomaal.StockUnits

set_option autoImplicit false

namespace Zomaal

/-! ### Packaging -/

structure PackagingMaterial where
  id : String
  storeId : String
  zomaalShopVariantId : Option String := none

structure ShopOrderItem where
  productId : Option String
  variantId : Option String

structure MerchantPurchase where
  storeId : String
  fromShop : Bool
  packagingMaterialId : Option String
  shopOrderItem : Option ShopOrderItem
  unitPrice : Decimal
  currency : String
  purchaseDate : ℤ
  createdAt : ℤ

structure ShopProductVariant where
  id : String
  price : Option Decimal
  productPrice : Decimal

structure ShopProduct where
  id : String
  price : Decimal

structure PackagingCatalog where
  materials : List PackagingMaterial := []
  purchases : List MerchantPurchase := []
  shopVariants : List ShopProductVariant := []
  shopProducts : List ShopProduct := []
  shopCurrency : Option String := none

/-- The purchases that bought a material: by hand, or in the shop under its catalog key, which is a
variant, or a product without options. -/
def PackagingMaterial.boughtBy (material : PackagingMaterial) (purchase : MerchantPurchase) : Bool :=
  purchase.storeId = material.storeId && (purchase.packagingMaterialId = some material.id ||
    material.zomaalShopVariantId.any fun key =>
      purchase.fromShop && purchase.shopOrderItem.any fun item =>
        item.variantId = some key || (item.variantId = none && item.productId = some key))

/-- Whether a purchase is later than another, by its date and then by when it was entered. -/
def MerchantPurchase.laterThan (purchase other : MerchantPurchase) : Bool :=
  other.purchaseDate < purchase.purchaseDate ||
    (purchase.purchaseDate = other.purchaseDate && other.createdAt < purchase.createdAt)

variable (catalog : PackagingCatalog)

def PackagingCatalog.lastPurchase (material : PackagingMaterial) : Option MerchantPurchase :=
  (catalog.purchases.filter material.boughtBy).foldl
    (fun last purchase =>
      match last with
      | none => some purchase
      | some other => if purchase.laterThan other then some purchase else some other)
    none

def PackagingCatalog.catalogPrice (key : String) : Option Decimal :=
  ((catalog.shopVariants.find? fun variant => variant.id = key).map fun variant =>
      variant.price.getD variant.productPrice).or
    ((catalog.shopProducts.find? fun product => product.id = key).map ShopProduct.price)

/-- A conversion between currencies, as `requiredCurrencyConverter` returns it. -/
abbrev Converter := Decimal → Option String → Option String → Except ServiceError Decimal

def packagingUnitCost (targetCurrency : String) (convert : Converter) (material : PackagingMaterial)
    : Except ServiceError (Option Decimal) :=
  match catalog.lastPurchase material with
  | some purchase =>
    (convert purchase.unitPrice (some purchase.currency) (some targetCurrency)).map some
  | none =>
    match material.zomaalShopVariantId.bind catalog.catalogPrice with
    | none => .ok none
    | some price =>
      match catalog.shopCurrency with
      | none => .error (.notFound "No ShopSettings found")
      | some currency => (convert price (some currency) (some targetCurrency)).map some

/-- `resolvePackagingUnitCosts`: the unit costs of the materials that have a known price. -/
def resolvePackagingUnitCosts (materialIds : List String) (targetCurrency : String)
    (convert : Converter) : Except ServiceError (List (String × Decimal)) :=
  (catalog.materials.filter fun material => material.id ∈ materialIds).foldlM
    (fun costs material => do
      match ← packagingUnitCost catalog targetCurrency convert material with
      | none => pure costs
      | some cost => pure (costs ++ [(material.id, cost)]))
    []

def unitCostOf (costs : List (String × Decimal)) (materialId : String) : Decimal :=
  ((costs.find? fun cost => cost.1 = materialId).map Prod.snd).getD 0

/-! ### Lines -/

structure OrderLineCosts where
  productCost : Decimal
  giftCost : Decimal
  packagingCost : Decimal

/-- Cost of goods for one delivered line: product, gift and packaging. Unmatched lines and materials
without a known price cost nothing. -/
def orderLineCosts (line : OrderLine) (packagingUnitCosts : List (String × Decimal)) :
    OrderLineCosts :=
  match line.warehouseVariant with
  | none => ⟨0, 0, 0⟩
  | some variant =>
    if line.quantity ≤ 0 then ⟨0, 0, 0⟩
    else
      { productCost := variant.costPrice * line.quantity
        giftCost :=
          match variant.gift with
          | none => 0
          | some gift => gift.giftVariant.costPrice * (gift.quantity * line.quantity : ℤ)
        packagingCost :=
          (packagingFor variant.id variant.packagingRequirements).foldl
            (fun sum requirement =>
              sum + unitCostOf packagingUnitCosts requirement.packagingMaterialId *
                (requirement.quantityPerUnit * line.quantity : ℤ))
            0 }

def packagingMaterialIds (lines : List OrderLine) : List String :=
  lines.flatMap fun line =>
    match line.warehouseVariant with
    | none => []
    | some variant =>
      (packagingFor variant.id variant.packagingRequirements).map
        PackagingRequirement.packagingMaterialId

def totalCosts (lines : List OrderLine) (packagingUnitCosts : List (String × Decimal)) :
    OrderLineCosts :=
  (lines.map fun line => orderLineCosts line packagingUnitCosts).foldl
    (fun total line =>
      ⟨total.productCost + line.productCost, total.giftCost + line.giftCost,
        total.packagingCost + line.packagingCost⟩)
    ⟨0, 0, 0⟩

end Zomaal
