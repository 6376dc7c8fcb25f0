/-
**The shop: its catalogue, its carts and its orders.**

The stock of a product with options is kept equal to the sum of theirs.  Merchants put products in
their cart and place orders, which take stock; cancelling an order gives the stock back; the shop's
administrators edit the catalogue meanwhile.  Every operation here is one transaction.
-/

import Zomaal.JsText
import Zomaal.KeyedRows
import Zomaal.ShopPricing

set_option autoImplicit false

namespace Zomaal.Shop

/-! ### The rows -/

structure ShopProduct where
  name : String := ""
  price : Decimal := 0
  stock : ℤ := 0
  /-- `status = ACTIVE` and the category is active -/
  isVisible : Bool := true

structure ShopProductVariant where
  id : String
  productId : String
  size : Option String := none
  color : Option String := none
  sku : Option String := none
  price : Option Decimal := none
  stock : ℤ := 0
  isActive : Bool := true

structure ShopCartItem where
  id : String
  productId : String
  variantId : Option String := none
  quantity : ℤ
  quantity_pos : 0 < quantity

structure ShopOrderItem where
  productId : Option String
  variantId : Option String := none
  quantity : ℤ
  quantity_pos : 0 < quantity

inductive ShopOrderStatus
  | pending
  | confirmed
  | shipped
  | delivered
  | cancelled
  deriving DecidableEq

def ShopOrderStatus.text : ShopOrderStatus → String
  | .pending => "pending"
  | .confirmed => "confirmed"
  | .shipped => "shipped"
  | .delivered => "delivered"
  | .cancelled => "cancelled"

structure ShopOrder where
  id : String
  storeId : String
  status : ShopOrderStatus := .pending
  promoCodeId : Option String := none
  items : List ShopOrderItem := []

structure ShopBooks where
  promos : List ShopPromoCode := []
  orders : List ShopOrder := []

structure ShopDb extends ShopBooks where
  products : String → Option ShopProduct := fun _ => none
  variants : List ShopProductVariant := []
  carts : String → List ShopCartItem := fun _ => []

inductive ShopError
  | badRequest (message : String)
  | notFound (message : String)
  | conflict (message : String)
  | forbidden (message : String)
  | unprocessable (message : String)
  | uniqueConstraint
  | recordNotFound
  | integerOutOfRange

/-- A value of an `Int` column. -/
def asInt32 (n : ℤ) : Except ShopError ℤ :=
  if -2147483648 ≤ n ∧ n ≤ 2147483647 then .ok n else .error .integerOutOfRange

namespace ShopDb

variable (db : ShopDb)

def findVariant (variantId : String) : Option ShopProductVariant :=
  db.variants.find? fun variant => variant.id = variantId

def owner (variantId : String) : Option String := (db.findVariant variantId).map (·.productId)

def variantsOf (productId : String) : List ShopProductVariant :=
  db.variants.filter fun variant => variant.productId = productId

def variantStock (productId : String) : ℤ := ((db.variantsOf productId).map (·.stock)).sum

def setProduct (productId : String) (product : ShopProduct) : ShopDb :=
  { db with products := Function.update db.products productId (some product) }

def updateVariant (variantId : String) (change : ShopProductVariant → ShopProductVariant) : ShopDb :=
  { db with
    variants := db.variants.map fun variant =>
      if variant.id = variantId then change variant else variant }

/-- `shopProductVariant.updateMany({ where: { id }, data: { stock: { increment } } })`. -/
def addVariantStock (variantId : String) (quantity : ℤ) : Except ShopError ShopDb :=
  match db.findVariant variantId with
  | none => .ok db
  | some variant => do
      let stock ← asInt32 (variant.stock + quantity)
      return db.updateVariant variantId fun variant => { variant with stock }

/-- `shopProduct.updateMany({ where: { id }, data: { stock: { increment } } })`. -/
def addProductStock (productId : String) (quantity : ℤ) : Except ShopError ShopDb :=
  match db.products productId with
  | none => .ok db
  | some product => do
      let stock ← asInt32 (product.stock + quantity)
      return db.setProduct productId { product with stock }

/-! ### Ordering -/

end ShopDb

inductive CartLineProblem
  | unavailable
  | variantRequired
  | outOfStock
  | insufficientStock

structure CartRow where
  item : ShopCartItem
  product : ShopProduct
  variant : Option ShopProductVariant

namespace CartRow

def unitPrice (row : CartRow) : Decimal :=
  (row.variant.bind ShopProductVariant.price).getD row.product.price

def stock (row : CartRow) : ℤ :=
  match row.variant with
  | some variant => variant.stock
  | none => row.product.stock

def orderItem (row : CartRow) : ShopOrderItem :=
  { productId := some row.item.productId, variantId := row.item.variantId
    quantity := row.item.quantity, quantity_pos := row.item.quantity_pos }

end CartRow

/-- What stands in the way of ordering a cart line, with the number of active options of its
product. -/
def evaluateLine (activeVariants : ℕ) (row : CartRow) : Option CartLineProblem :=
  if !row.product.isVisible then some .unavailable
  else if row.variant.any fun variant => !variant.isActive then some .unavailable
  else if row.variant.isNone && 0 < activeVariants then some .variantRequired
  else if row.stock ≤ 0 then some .outOfStock
  else if row.stock < row.item.quantity then some .insufficientStock
  else none

/-- `problem.toLowerCase().replace(/_/g, ' ')`. -/
def CartLineProblem.text : CartLineProblem → String
  | .unavailable => "unavailable"
  | .variantRequired => "variant required"
  | .outOfStock => "out of stock"
  | .insufficientStock => "insufficient stock"

namespace ShopBooks

def storeUses (books : ShopBooks) (storeId promoId : String) : ℕ :=
  books.orders.countP fun order =>
    order.storeId = storeId && order.promoCodeId = some promoId && order.status ≠ .cancelled

def findPromo (books : ShopBooks) (promoId : String) : Option ShopPromoCode :=
  books.promos.find? fun promo => promo.id = promoId

def findPromoByCode (books : ShopBooks) (code : String) : Option ShopPromoCode :=
  books.promos.find? fun promo => promo.code = code

def setUsedCount (books : ShopBooks) (promoId : String) (usedCount : ℕ) : ShopBooks :=
  { books with
    promos := books.promos.map fun promo =>
      if promo.id = promoId then { promo with usedCount } else promo }

/-- `loadPromo`; the code is trimmed and in upper case already. -/
def loadPromo (books : ShopBooks) (code : String) (storeId : String) : PromoLookup :=
  let promo := books.findPromoByCode code
  { promo, code
    storeUses := match promo with
      | some promo => books.storeUses storeId promo.id
      | none => 0 }

def sameOffer (current promo : ShopPromoCode) : Bool :=
  current.value = promo.value && current.type = promo.type &&
    current.maxDiscount = promo.maxDiscount && current.minSubtotal = promo.minSubtotal

/-- The check of `claimPromo`, once the promo's row is locked; it goes on with the row it read. -/
def claimCheck (books : ShopBooks) (promo : ShopPromoCode) (storeId : String) (subtotal : Decimal)
    (now : ℤ) : Except ShopError ShopPromoCode :=
  let current := books.findPromo promo.id
  match checkPromo current subtotal (books.storeUses storeId promo.id) now, current with
  | some rejection, current => .error (.unprocessable (promoRejectionMessage rejection current))
  | none, some current =>
    if sameOffer current promo then .ok current
    else .error (.unprocessable "Promo code changed. Preview checkout again.")
  | none, none => .error (.unprocessable "Promo code changed. Preview checkout again.")

def createOrder (books : ShopBooks) (order : ShopOrder) : Except ShopError ShopBooks :=
  if books.orders.any fun other => other.id = order.id then .error .uniqueConstraint
  else .ok { books with orders := books.orders ++ [order] }

def setStatus (books : ShopBooks) (orderId : String) (status : ShopOrderStatus) : ShopBooks :=
  { books with
    orders := books.orders.map fun order =>
      if order.id = orderId then { order with status } else order }

def findOrder (books : ShopBooks) (orderId : String) : Option ShopOrder :=
  books.orders.find? fun order => order.id = orderId

end ShopBooks

/-- What a merchant asks for, and what rows decide that no operation here touches: the settings, the
code as looked up, and the refusals. -/
structure CheckoutRequest where
  storeId : String
  orderId : String
  promoCode : Option String := none
  now : ℤ := 0
  settings : ShopSettings := {}
  refusal : Option ShopError := none

def newOrder (request : CheckoutRequest) (rows : List CartRow) (promo : Option ShopPromoCode) :
    ShopOrder :=
  { id := request.orderId, storeId := request.storeId
    promoCodeId := promo.map ShopPromoCode.id
    items := rows.map CartRow.orderItem }

def ShopBooks.bookOrder (books : ShopBooks) (request : CheckoutRequest) (rows : List CartRow)
    (subtotal : Decimal) : Except ShopError ShopBooks :=
  match request.promoCode.bind books.findPromoByCode with
  | none => books.createOrder (newOrder request rows none)
  | some promo => do
      let current ← books.claimCheck promo request.storeId subtotal request.now
      let used := books.setUsedCount promo.id (current.usedCount + 1)
      used.createOrder (newOrder request rows (some promo))

namespace ShopDb

variable (db : ShopDb)

def withBooks (books : ShopBooks) : ShopDb :=
  { toShopBooks := books, products := db.products, variants := db.variants, carts := db.carts }

@[simp] theorem withBooks_toShopBooks (books : ShopBooks) :
    (db.withBooks books).toShopBooks = books := rfl

def setCart (storeId : String) (items : List ShopCartItem) : ShopDb :=
  { db with carts := Function.update db.carts storeId items }

@[simp] theorem setCart_carts (storeId : String) (items : List ShopCartItem) (other : String) :
    (db.setCart storeId items).carts other = if other = storeId then items else db.carts other :=
  Function.update_apply ..

def cartRows (storeId : String) : List CartRow :=
  (db.carts storeId).filterMap fun item =>
    (db.products item.productId).map fun product =>
      { item, product, variant := item.variantId.bind db.findVariant }

def lineProblem (row : CartRow) : Option CartLineProblem :=
  evaluateLine ((db.variantsOf row.item.productId).countP (·.isActive)) row

def stockConflict (row : CartRow) : ShopError :=
  .conflict ("\"" ++ row.product.name ++ "\" just sold out or doesn't have " ++
    toString row.item.quantity ++ " left. Update your cart and try again.")

/-- One turn of `reserveStock`: a decrement that matches only while enough stock is left. -/
def reserveLine (row : CartRow) : Except ShopError ShopDb :=
  match row.item.variantId with
  | some variantId =>
    match db.findVariant variantId with
    | some variant =>
      if variant.isActive && row.item.quantity ≤ variant.stock then
        db.addVariantStock variantId (-row.item.quantity)
      else .error (stockConflict row)
    | none => .error (stockConflict row)
  | none =>
    match db.products row.item.productId with
    | some product =>
      if row.item.quantity ≤ product.stock then
        db.addProductStock row.item.productId (-row.item.quantity)
      else .error (stockConflict row)
    | none => .error (stockConflict row)

def mirrorStock (productId : String) : Except ShopError ShopDb :=
  match db.products productId with
  | none => .error .recordNotFound
  | some product => do
      let stock ← asInt32 (db.variantStock productId)
      return db.setProduct productId { product with stock }

def touchedProducts (rows : List CartRow) : List String :=
  ((rows.filter fun row => row.item.variantId.isSome).map fun row => row.item.productId).eraseDups

def reserveStock (rows : List CartRow) : Except ShopError ShopDb := do
  let reserved ← rows.foldlM reserveLine db
  (touchedProducts rows).foldlM mirrorStock reserved

/-- The checks of `placeOrder`, and the priced cart they leave. -/
def checkout (request : CheckoutRequest) : Except ShopError (List CartRow × PricingResult) :=
  let rows := db.cartRows request.storeId
  let pricing := priceOrder
    ((rows.filter fun row => (db.lineProblem row).isNone).map fun row =>
      { unitPrice := row.unitPrice, quantity := row.item.quantity })
    request.settings
    (request.promoCode.map fun code => db.loadPromo code request.storeId) request.now
  match request.refusal with
  | some refusal => .error refusal
  | none =>
    if rows = [] then .error (.badRequest "Your cart is empty.")
    else
      match rows.findSome? fun row => (db.lineProblem row).map fun problem => (row, problem) with
      | some (row, problem) =>
        .error (.conflict ("\"" ++ row.product.name ++ "\" can't be ordered right now (" ++
          problem.text ++ "). Update your cart and try again."))
      | none =>
        if request.promoCode.isSome && !pricing.promo.any PromoOutcome.applied then
          .error (.unprocessable ((pricing.promo.bind PromoOutcome.message).getD
            (promoRejectionMessage .notFound none)))
        else .ok (rows, pricing)

/-- `placeOrder`: the cart is claimed, the stock is reserved, the promo code is used, and the order
is created. -/
def placeOrder (request : CheckoutRequest) : Except ShopError ShopDb := do
  let priced ← db.checkout request
  let reserved ← (db.setCart request.storeId []).reserveStock priced.1
  let books ← reserved.bookOrder request priced.1 priced.2.subtotal
  return reserved.withBooks books

/-! ### Cancelling -/

def restockVariant (item : ShopOrderItem) : Except ShopError ShopDb :=
  match item.variantId with
  | some variantId => db.addVariantStock variantId item.quantity
  | none => .ok db

def restockProduct (item : ShopOrderItem) : Except ShopError ShopDb :=
  match item.productId with
  | some productId => db.addProductStock productId item.quantity
  | none => .ok db

/-- One turn of `restock`: the option, if it still exists, and the product. -/
def restockItem (item : ShopOrderItem) : Except ShopError ShopDb := do
  let stocked ← db.restockVariant item
  stocked.restockProduct item

def restock (items : List ShopOrderItem) : Except ShopError ShopDb := items.foldlM restockItem db

end ShopDb

/-- Who cancels an order, and what it may have come to before. -/
inductive ShopOrderCancelledBy
  | merchant
  | admin

def ShopOrderCancelledBy.allowedFrom : ShopOrderCancelledBy → List ShopOrderStatus
  | .merchant => [.pending]
  | .admin => [.pending, .confirmed, .shipped]

namespace ShopBooks

def flipCancelled (books : ShopBooks) (orderId : String) (cancelledBy : ShopOrderCancelledBy) :
    Except ShopError (ShopOrder × ShopBooks) :=
  match books.findOrder orderId with
  | none => .error (.notFound "Order not found")
  | some order =>
    if order.status ∈ cancelledBy.allowedFrom then .ok (order, books.setStatus orderId .cancelled)
    else
      match cancelledBy with
      | .merchant =>
        .error (.conflict
          "This order can no longer be cancelled from the app. Contact Zomaal support.")
      | .admin =>
        .error (.conflict ("This order is " ++ order.status.text ++ " — it can't be cancelled."))

def releasePromo (books : ShopBooks) (promoId : String) : ShopBooks :=
  match books.findPromo promoId with
  | some promo =>
    if 0 < promo.usedCount then books.setUsedCount promoId (promo.usedCount - 1) else books
  | none => books

def releaseHeld (books : ShopBooks) (promoCodeId : Option String) : ShopBooks :=
  match promoCodeId with
  | some promoId => books.releasePromo promoId
  | none => books

/-! ### What the operations on the books guarantee -/

variable {books : ShopBooks} {order : ShopOrder}

theorem createOrder_ok {books' : ShopBooks} (h : books.createOrder order = .ok books') :
    (∀ other ∈ books.orders, other.id ≠ order.id) ∧
      books' = { books with orders := books.orders ++ [order] } := by
  rw [createOrder] at h
  split at h
  · cases h
  · rename_i hfresh
    refine ⟨fun other hother heq => ?_, (Except.ok.inj h).symm⟩
    exact hfresh (List.any_eq_true.2 ⟨other, hother, decide_eq_true heq⟩)

variable {orderId : String}

theorem flipCancelled_ok {cancelledBy : ShopOrderCancelledBy} {flipped : ShopOrder × ShopBooks}
    (h : books.flipCancelled orderId cancelledBy = .ok flipped) :
    books.findOrder orderId = some flipped.1 ∧ flipped.1.status ∈ cancelledBy.allowedFrom ∧
      flipped.2 = books.setStatus orderId .cancelled := by
  rw [flipCancelled] at h
  split at h
  · cases h
  · rename_i order hfound
    split at h
    · rename_i hallowed
      obtain rfl := Except.ok.inj h
      exact ⟨hfound, hallowed, rfl⟩
    · split at h <;> cases h

theorem releaseHeld_orders (books : ShopBooks) (promoCodeId : Option String) :
    (books.releaseHeld promoCodeId).orders = books.orders := by
  cases promoCodeId with
  | none => rfl
  | some promoId =>
    rw [releaseHeld, releasePromo]
    split
    · split <;> rfl
    · rfl

theorem findOrder_some (h : books.findOrder orderId = some order) :
    order ∈ books.orders ∧ order.id = orderId :=
  KeyedRows.lookup_some ShopOrder.id h

theorem mem_setStatus {status : ShopOrderStatus}
    (h : order ∈ (books.setStatus orderId status).orders) :
    ∃ old ∈ books.orders, old.items = order.items := by
  obtain ⟨old, hold, rfl⟩ := List.mem_map.1 h
  refine ⟨old, hold, ?_⟩
  split <;> rfl

theorem setStatus_ids (books : ShopBooks) (orderId : String) (status : ShopOrderStatus) :
    (books.setStatus orderId status).orders.map (·.id) = books.orders.map (·.id) :=
  KeyedRows.map_key_change ShopOrder.id (f := fun order => { order with status })
    (fun _ => rfl) books.orders

end ShopBooks

namespace ShopDb

variable (db : ShopDb)

def cancel (orderId : String) (cancelledBy : ShopOrderCancelledBy) : Except ShopError ShopDb := do
  let flipped ← db.flipCancelled orderId cancelledBy
  let restocked ← (db.withBooks flipped.2).restock flipped.1.items
  return restocked.withBooks (restocked.releaseHeld flipped.1.promoCodeId)

/-! ### Editing the catalogue -/

end ShopDb

/-- An option of the list an administrator sends; `newId` is the identifier a new row gets. -/
structure ShopProductVariantInput where
  id : Option String := none
  newId : String := ""
  size : Option String := none
  color : Option String := none
  sku : Option String := none
  price : Option Decimal := none
  stock : ℕ
  isActive : Bool := true

namespace ShopProductVariantInput

def clean (input : ShopProductVariantInput) : ShopProductVariantInput :=
  { input with
    size := JsText.truthy (input.size.map JsText.trim)
    color := JsText.truthy (input.color.map JsText.trim)
    sku := JsText.truthy (input.sku.map JsText.trim) }

def row (input : ShopProductVariantInput) (id productId : String) : ShopProductVariant :=
  { id, productId, size := input.size, color := input.color, sku := input.sku
    price := input.price, stock := input.stock, isActive := input.isActive }

end ShopProductVariantInput

namespace ShopDb

variable (db : ShopDb)

/-- Every option has a size or a color, and no two have the same. -/
def checkCombos (toLowerCase : String → String) (seen : List String) :
    List ShopProductVariantInput → Except ShopError Unit
  | [] => .ok ()
  | input :: inputs =>
    let combo := (input.size.map toLowerCase).getD "" ++ "|" ++
      (input.color.map toLowerCase).getD ""
    if input.size.isNone && input.color.isNone then
      .error (.badRequest "Every option needs a size, a color, or both.")
    else if combo ∈ seen then
      .error (.badRequest ("Duplicate option: " ++
        " / ".intercalate (input.size.toList ++ input.color.toList)))
    else checkCombos toLowerCase (combo :: seen) inputs

/-- The checks of `replaceVariants` on the list itself and on the stored options. -/
def checkVariants (toLowerCase : String → String) (productId : String)
    (inputs : List ShopProductVariantInput) : Except ShopError Unit :=
  let skus := inputs.filterMap (·.sku)
  if (db.products productId).isNone then .error (.notFound "Product not found")
  else
    match checkCombos toLowerCase [] inputs with
    | .error error => .error error
    | .ok _ =>
      if ¬ skus.Nodup then .error (.badRequest "Option SKUs must be unique.")
      else if inputs.any fun input => input.id.any fun id =>
          (db.variantsOf productId).all fun variant => variant.id ≠ id then
        .error (.badRequest "One of the options does not belong to this product.")
      else
        match db.variants.find? fun variant =>
            variant.productId ≠ productId && variant.sku.any fun sku => sku ∈ skus with
        | some taken =>
          .error (.conflict
            ("SKU \"" ++ taken.sku.getD "" ++ "\" is already used by another product."))
        | none =>
          if 2147483647 < (inputs.map (·.stock)).sum then
            .error (.badRequest "Combined variant stock exceeds supported range")
          else .ok ()

/-- `{ productId, id: { notIn: keepIds } }`, for the identifier of an option. -/
def drops (productId : String) (keepIds : List String) (variantId : String) : Bool :=
  variantId ∉ keepIds && db.owner variantId = some productId

/-- Options that are not kept are deleted, from the carts too, and order lines forget them. -/
def deleteVariants (productId : String) (keepIds : List String) : ShopDb :=
  { db with
    variants := db.variants.filter fun variant => !db.drops productId keepIds variant.id
    carts := fun storeId =>
      (db.carts storeId).filter fun item => !item.variantId.any (db.drops productId keepIds)
    orders := db.orders.map fun order =>
      { order with
        items := order.items.map fun item =>
          { item with
            variantId :=
              if item.variantId.any (db.drops productId keepIds) then none else item.variantId } } }

def writeVariant (productId : String) (input : ShopProductVariantInput) : Except ShopError ShopDb :=
  match input.id with
  | some id =>
    if (db.findVariant id).isNone then .error .recordNotFound
    else .ok (db.updateVariant id fun variant => input.row variant.id variant.productId)
  | none =>
    if (db.findVariant input.newId).isSome then .error .uniqueConstraint
    else .ok { db with variants := db.variants ++ [input.row input.newId productId] }

/-- `product.stock` becomes the sum of the listed stock, unless the list is empty. -/
def setListedStock (productId : String) (inputs : List ShopProductVariantInput) :
    Except ShopError ShopDb :=
  if inputs = [] then .ok db
  else
    match db.products productId with
    | none => .error .recordNotFound
    | some product =>
      .ok (db.setProduct productId
        { product with stock := (inputs.map fun input => (input.stock : ℤ)).sum })

def replaceVariants (toLowerCase : String → String) (productId : String)
    (variants : List ShopProductVariantInput) : Except ShopError ShopDb := do
  let clean := variants.map ShopProductVariantInput.clean
  let _ ← db.checkVariants toLowerCase productId clean
  let written ← clean.foldlM (fun db input => db.writeVariant productId input)
    (db.deleteVariants productId (clean.filterMap (·.id)))
  written.setListedStock productId clean

/-- The part of `updateProduct` that touches the stock and the visibility. -/
def updateProduct (productId : String) (stock : Option ℕ) (isVisible : Option Bool) :
    Except ShopError ShopDb :=
  match db.products productId with
  | none => .error (.notFound "Product not found")
  | some product =>
    if stock.any fun stock => db.variantsOf productId ≠ [] && (stock : ℤ) ≠ product.stock then
      .error (.badRequest "This product has options — set stock on each option instead.")
    else
      .ok (db.setProduct productId
        { product with
          stock := (stock.map fun stock => (stock : ℤ)).getD product.stock
          isVisible := isVisible.getD product.isVisible })

end ShopDb

end Zomaal.Shop
