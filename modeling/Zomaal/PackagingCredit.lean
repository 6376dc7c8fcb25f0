/-
**Packaging bought in the shop: the credit for a delivered item.**

The material and its inventory item are created on first use, the units are added to the shelf, and
the movement carries a key made from the order item, so that crediting an item again finds the
movement and writes nothing.  This module embeds `creditDeliveredPurchase` of
`packaging.service.ts`.
-/

import Zomaal.Purchases

set_option autoImplicit false

namespace Zomaal.Purchasing

structure DeliveredPackagingPurchase where
  zomaalShopVariantId : String
  name : String
  sku : Option String
  imageObjectName : Option String
  quantity : ℤ
  deliveryReference : String

/-- A source of random identifiers: whatever was drawn before, it yields a new one. -/
structure IdSource where
  next : List String → String
  fresh : ∀ drawn, next drawn ∉ drawn

def shopDeliveryKey (deliveryReference : String) : String := "shop-delivery:" ++ deliveryReference

def creditMovement (inventoryItemId : String) (quantity : ℤ) (deliveryReference : String)
    (resultingQuantity : ℤ) : InventoryMovement :=
  { inventoryItemId
    type := .packagingReceived
    bucket := .onHand
    quantityDelta := quantity
    resultingQuantity
    reason := "Packaging received from a delivered Zomaal Shop order"
    referenceType := some "ZOMAAL_SHOP_DELIVERY"
    referenceId := some deliveryReference
    idempotencyKey := some (shopDeliveryKey deliveryReference) }

namespace Books

variable (s : Books)

variable (storeId : String)

/-- The store's packaging of a variant of the shop, renewed or created.  What the item does not know
stays as it is. -/
def upsertMaterial (item : DeliveredPackagingPurchase) (source : IdSource) : String × Books :=
  let describe := fun material : PackagingMaterial =>
    { material with
      name := item.name
      sku := item.sku.orElse fun _ => material.sku
      imageObjectName := item.imageObjectName.orElse fun _ => material.imageObjectName }
  match s.shopMaterials storeId item.zomaalShopVariantId with
  | some materialId =>
    (materialId, { s with
      materials := Function.update s.materials materialId
        ((s.materials materialId).map fun material =>
          { describe material with isActive := true }) })
  | none =>
    let newId := source.next s.drawn
    (newId, { s with
      drawn := newId :: s.drawn
      shopMaterials := Function.update s.shopMaterials storeId
        (Function.update (s.shopMaterials storeId) item.zomaalShopVariantId (some newId))
      materials := Function.update s.materials newId
        (some (describe { storeId, name := item.name })) })

def upsertItem (storeId materialId : String) (source : IdSource) : String × Books :=
  match s.items (.packaging materialId) with
  | some item => (item, s)
  | none =>
    let newId := source.next s.drawn
    (newId, { s with
      drawn := newId :: s.drawn
      items := Function.update s.items (.packaging materialId) (some newId)
      stock := { s.stock with
        itemStores := Function.update s.stock.itemStores newId (some storeId) } })

def packagingItem (item : DeliveredPackagingPurchase) (source : IdSource) : String × Books :=
  let material := s.upsertMaterial storeId item source
  material.2.upsertItem storeId material.1 source

/-- The units are added and the movement is written, unless the key was used before.  Nothing but
the column's type bounds the balance. -/
def creditOnHand (inventoryItemId : String) (quantity : ℤ) (deliveryReference : String) :
    Except PurchaseError Books :=
  match s.stock.findMovement inventoryItemId (shopDeliveryKey deliveryReference) with
  | some _ => .ok s
  | none =>
    let balance := s.stock.balanceOf inventoryItemId
    let onHand := balance.onHand + quantity
    if maxQuantity < onHand then .error (.stock .integerOutOfRange)
    else .ok { s with
      stock := s.stock.post { balance with onHand }
        (creditMovement inventoryItemId quantity deliveryReference onHand) }

/-- `creditDeliveredPurchase`: one attempt.  The quantity of an order item is positive. -/
def creditDeliveredPurchase (item : DeliveredPackagingPurchase) (source : IdSource)
    : Except PurchaseError Books :=
  let inventoryItem := s.packagingItem storeId item source
  inventoryItem.2.creditOnHand inventoryItem.1 item.quantity item.deliveryReference

end Books

end Zomaal.Purchasing
