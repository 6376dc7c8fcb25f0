/-
**Manual purchases: the calls that record, edit and delete them.**

A purchase puts its units on the shelf, unless they were counted already, and owns an expense of the
same amount.  This module embeds `create`, `update` and `remove` of `purchases.service.ts` with
`createPurchaseExpense`, `attachReceipt` and `moveOnHandInTx`.  A call is a function from the tables
to an error or the tables it leaves: each writes in one serializable transaction.  A `Decimal(20,
4)` column is an amount that four decimals hold.  Random identifiers are given to the calls, and
drawing one that was drawn before fails.
-/

import Zomaal.KeyedRows
import Zomaal.LineLosses

set_option autoImplicit false

namespace Zomaal.Purchasing

/-! ### Amounts -/

/-- The value of a `Decimal(20, 4)` column. -/
abbrev StoredMoney := {x : Decimal // toFixed4 x = x}

def store4 (x : Decimal) : StoredMoney := ⟨toFixed4 x, toFixed4_toFixed4 x⟩

theorem store4_toDecimalPlaces2 (x : Decimal) :
    (store4 (Shop.toDecimalPlaces2 x)).1 = Shop.toDecimalPlaces2 x :=
  toFixed4_toDecimalPlaces2 x

/-! ### The rows -/

inductive MerchantPurchaseSource
  | manual
  | shop
  deriving DecidableEq

inductive ExpensePaymentMethod
  | cash
  | bank

structure MerchantPurchase where
  id : String
  storeId : String
  source : MerchantPurchaseSource
  warehouseProductId : Option String := none
  warehouseVariantId : Option String := none
  packagingMaterialId : Option String := none
  /-- Saving the purchase added `quantity` to stock. -/
  stockAdded : Bool := false
  expenseId : Option String
  shopProductId : Option String := none
  shopOrderItemId : Option String := none
  supplierName : Option String := none
  invoiceNumber : Option String := none
  productName : String
  unitLabel : String
  imageUrl : Option String
  quantity : ℤ
  unitPrice : StoredMoney
  totalCost : StoredMoney
  currency : String
  purchaseDate : ℤ
  notes : Option String
  createdByUserId : Option String

structure Expense where
  id : String
  storeId : String
  categoryId : String
  title : String
  amount : StoredMoney
  paymentMethod : ExpensePaymentMethod
  spentAt : ℤ
  notes : Option String
  createdByUserId : Option String
  receiptUrl : Option String

/-- An uploaded receipt (`purpose = RECEIPT`): temporary, with the time it expires at, until an
expense refers to it. -/
structure ReceiptAsset where
  id : String
  storeId : String
  isTemporary : Bool
  expiresAt : Option ℤ
  expenseId : Option String

/-- A product of the warehouse, as a purchase sees it.  Its variants are in the order default first,
then by position. -/
structure PurchasableProduct where
  storeId : String
  name : String
  supplierNames : List String
  kind : WarehouseProductKind
  isArchived : Bool
  firstMediaId : Option String
  variants : List String

inductive PackagingUnit
  | pieces
  | rolls
  | meters
  | sheets

structure PackagingMaterial where
  storeId : String
  name : String
  sku : Option String := none
  supplierNames : List String := []
  unit : PackagingUnit := .pieces
  imageObjectName : Option String := none
  isActive : Bool := true

/-- What an inventory item counts: a packaging material, or a variant of a product. -/
inductive Stocked
  | packaging (packagingMaterialId : String)
  | variant (variantId : String)
  deriving DecidableEq

inductive PurchaseError
  | badRequest (message : String)
  | notFound (message : String)
  | forbidden (message : String)
  | conflict (message : String)
  | recordNotFound
  | uniqueConstraint
  | stock (error : ServiceError)
  deriving DecidableEq

structure Books where
  stock : Store := {}
  purchases : List MerchantPurchase := []
  expenses : List Expense := []
  receipts : List ReceiptAsset := []
  products : String → Option PurchasableProduct := fun _ => none
  materials : String → Option PackagingMaterial := fun _ => none
  /-- The packaging a store owns of a variant of the shop's catalogue, a unique column. -/
  shopMaterials : String → String → Option String := fun _ _ => none
  /-- The inventory item of a variant or of a packaging material; both are unique columns. -/
  items : Stocked → Option String := fun _ => none
  /-- The first category of a store's `PURCHASES` group. -/
  purchaseCategories : String → Option String := fun _ => none
  drawn : List String := []

/-! ### The pieces of a call -/

/-- `packagingUnitLabel(unit, 1)`. -/
def PackagingUnit.label : PackagingUnit → String
  | .pieces => "piece"
  | .rolls => "roll"
  | .meters => "meter"
  | .sheets => "sheet"

def purchaseExpenseTitle (productName : String) : String := "Purchase — " ++ productName

def receiptPreviewPath (assetId : String) : String := "/expenses/receipts/" ++ assetId

def assertPersistedMoney (value : Decimal) (field : String) : Except PurchaseError Unit :=
  if value < 0 ∨ 10000000000000000 ≤ value then
    .error (.badRequest (field ++ " exceeds the supported monetary range"))
  else .ok ()

def stockInUse : String :=
  "Part of this stock is already reserved, sold or marked damaged, so this purchase can’t be " ++
    "reduced. Adjust the stock first."

structure PurchaseTarget where
  warehouseProductId : Option String := none
  warehouseVariantId : Option String := none
  packagingMaterialId : Option String := none
  productName : String
  unitLabel : String
  imageUrl : Option String
  inventoryItemId : Option String
  supplierNames : List String

def stockedBy (packagingMaterialId warehouseVariantId : Option String) : Option Stocked :=
  match packagingMaterialId with
  | some material => some (.packaging material)
  | none => warehouseVariantId.map .variant

def MerchantPurchase.stocked (row : MerchantPurchase) : Option Stocked :=
  stockedBy row.packagingMaterialId row.warehouseVariantId

/-- `KeyedRows.lookup` of a purchase. -/
abbrev findPurchase (id : String) (rows : List MerchantPurchase) : Option MerchantPurchase :=
  KeyedRows.lookup MerchantPurchase.id id rows

abbrev findExpense (id : String) (rows : List Expense) : Option Expense :=
  KeyedRows.lookup Expense.id id rows

def selectedSupplier (value : Option String) (names : List String) :
    Except PurchaseError (Option String) :=
  match value with
  | none => .ok none
  | some value =>
    if JsText.trim value = "" ∨ JsText.trim value ∉ names then
      .error (.badRequest "Choose a supplier from this item supplierNames")
    else .ok (some (JsText.trim value))

def invoiceNumber (value : Option String) : Except PurchaseError (Option String) :=
  match value with
  | none => .ok none
  | some value =>
    if JsText.trim value = "" then .error (.badRequest "invoiceNumber cannot be blank")
    else .ok (some (JsText.trim value))

/-- The day a purchase is dated; `none` is a text that is no date. -/
def parseDate (value : Option ℤ) (now : ℤ) : Except PurchaseError ℤ :=
  match value with
  | none => .error (.badRequest "purchaseDate must be a valid date")
  | some date =>
    if now + 24 * 60 * 60 * 1000 < date then
      .error (.badRequest "purchaseDate can’t be in the future")
    else .ok date

namespace Books

variable (s : Books)

def draw (id : String) : Except PurchaseError Books :=
  if id ∈ s.drawn then .error .uniqueConstraint else .ok { s with drawn := id :: s.drawn }

def productTarget (storeId productId : String) (variantId : Option String) :
    Except PurchaseError PurchaseTarget :=
  match (s.products productId).filter fun product =>
      product.storeId = storeId ∧ ¬ product.isArchived with
  | none => .error (.notFound "Product not found")
  | some product =>
    if product.kind = .bundle then
      .error (.badRequest ("Bundles are made from other products — record purchases for the " ++
        "products inside it."))
    else
      let variant := match variantId with
        | some variantId => product.variants.find? (· = variantId)
        | none => if product.variants.length = 1 then product.variants.head? else none
      match variant with
      | none =>
        .error (.badRequest (if variantId.isSome then
          "This variant does not belong to the product."
          else "This product has several variants — choose which one you bought " ++
            "(warehouseVariantId)."))
      | some variant =>
        .ok { warehouseProductId := some productId
              warehouseVariantId := some variant
              supplierNames := product.supplierNames
              productName := product.name
              unitLabel := "piece"
              imageUrl := product.firstMediaId.map fun mediaId =>
                "/warehouse/media/" ++ mediaId ++ "/content"
              inventoryItemId := s.items (.variant variant) }

def packagingTarget (storeId packagingMaterialId : String) : Except PurchaseError PurchaseTarget :=
  match (s.materials packagingMaterialId).filter fun material =>
      material.storeId = storeId ∧ material.isActive with
  | none => .error (.notFound "Packaging not found")
  | some material =>
    .ok { packagingMaterialId := some packagingMaterialId
          supplierNames := material.supplierNames
          productName := material.name
          unitLabel := material.unit.label
          imageUrl := material.imageObjectName.map fun _ =>
            "/warehouse/packaging/" ++ packagingMaterialId ++ "/image"
          inventoryItemId := s.items (.packaging packagingMaterialId) }

variable (storeId : String)

def targetSuppliers (row : MerchantPurchase) : List String :=
  match row.warehouseProductId, row.packagingMaterialId with
  | some productId, _ =>
    (((s.products productId).filter (·.storeId = storeId)).map (·.supplierNames)).getD []
  | none, some materialId =>
    (((s.materials materialId).filter (·.storeId = storeId)).map (·.supplierNames)).getD []
  | none, none => []

/-- The category purchase costs are booked under, created for stores that have none. -/
def purchaseCategoryId (storeId newId : String) : Except PurchaseError (String × Books) :=
  match s.purchaseCategories storeId with
  | some categoryId => .ok (categoryId, s)
  | none => do
      let s ← s.draw newId
      return (newId, { s with
        purchaseCategories := Function.update s.purchaseCategories storeId (some newId) })

structure PurchaseExpenseInput where
  storeId : String
  productName : String
  amount : Decimal
  paymentMethod : ExpensePaymentMethod
  spentAt : ℤ
  notes : Option String
  createdByUserId : Option String
  receiptUrl : Option String := none

/-- Creates the "Purchase costs" expense a purchase owns, under the given identifiers. -/
def createPurchaseExpense (input : PurchaseExpenseInput) (newId newCategoryId : String) :
    Except PurchaseError Books := do
  let (categoryId, s) ← s.purchaseCategoryId input.storeId newCategoryId
  let s ← s.draw newId
  return { s with
    expenses := s.expenses ++ [{
      id := newId
      storeId := input.storeId
      categoryId
      title := purchaseExpenseTitle input.productName
      amount := store4 input.amount
      paymentMethod := input.paymentMethod
      spentAt := input.spentAt
      notes := input.notes
      createdByUserId := input.createdByUserId
      receiptUrl := input.receiptUrl }] }

def attachReceipt (storeId assetId expenseId : String) (now : ℤ) : Except PurchaseError Books :=
  let usable := fun asset : ReceiptAsset =>
    asset.id = assetId ∧ asset.storeId = storeId ∧ asset.isTemporary ∧
      asset.expiresAt.any (now < ·)
  if s.receipts.any (usable ·) then
    .ok { s with
      receipts := s.receipts.map fun asset =>
        if usable asset then
          { asset with isTemporary := false, expiresAt := none, expenseId := some expenseId }
        else asset }
  else
    .error (.badRequest "Receipt not found, already used, or expired. Upload it again.")

def attachReceipt? (assetId : Option String) (expenseId : String) (now : ℤ) :
    Except PurchaseError Books :=
  match assetId with
  | some assetId => s.attachReceipt storeId assetId expenseId now
  | none => .ok s

def receiptOf (expenseId : String) : Option ReceiptAsset :=
  s.receipts.find? fun asset => asset.expenseId = some expenseId

def detachReceipt (assetId : Option String) : Books :=
  match assetId with
  | some assetId =>
    { s with
      receipts := s.receipts.map fun asset =>
        if asset.id = assetId then { asset with expenseId := none } else asset }
  | none => s

def deleteAttachedAsset (assetId : Option String) : Books :=
  match assetId with
  | some assetId => { s with receipts := s.receipts.filter fun asset => asset.id ≠ assetId }
  | none => s

/-- `moveOnHandInTx` in the transaction of a call. -/
def moveOnHand (inventoryItemId : String) (movement : OnHandMovement) :
    Except PurchaseError Books :=
  match moveOnHandInTx inventoryItemId movement s.stock with
  | (.ok _, stock) => .ok { s with stock }
  | (.error (.badRequest message), _) => .error (.badRequest message)
  | (.error e, _) => .error (.stock e)

def ensureInventoryItem (target : PurchaseTarget) (newId : String) :
    Except PurchaseError (String × Books) :=
  match target.inventoryItemId, stockedBy target.packagingMaterialId target.warehouseVariantId with
  | some item, _ => .ok (item, s)
  | none, none => .error .recordNotFound
  | none, some stocked =>
    match s.items stocked with
    | some item => .ok (item, s)
    | none => do
        let s ← s.draw newId
        return (newId, { s with
          items := Function.update s.items stocked (some newId)
          stock := { s.stock with
            itemStores := Function.update s.stock.itemStores newId (some storeId) } })

/-- The inventory item a purchase added stock to; `none` once it is gone. -/
def stockItemId (row : MerchantPurchase) : Option String := row.stocked.bind s.items

/-- The movement of stock that an edit asks for; a reduction that is refused says why. -/
def moveStock (inventoryItemId : String) (quantityDelta : ℤ) (reason referenceId : String) :
    Except PurchaseError Books :=
  match s.moveOnHand inventoryItemId
    { type := .purchaseReceived, quantityDelta, reason, referenceType := "MERCHANT_PURCHASE",
      referenceId } with
  | .error (.badRequest message) =>
    if quantityDelta < 0 then .error (.conflict stockInUse) else .error (.badRequest message)
  | other => other

/-- `moveStock` when the purchase has an inventory item to move. -/
def moveStock? (inventoryItemId : Option String) (quantityDelta : ℤ) (reason referenceId : String) :
    Except PurchaseError Books :=
  match inventoryItemId with
  | some item => s.moveStock item quantityDelta reason referenceId
  | none => .ok s

def requireEditable (storeId id : String) : Except PurchaseError MerchantPurchase :=
  match (findPurchase id s.purchases).filter (·.storeId = storeId) with
  | none => .error (.notFound "Purchase not found")
  | some row =>
    if row.source = .shop then
      .error (.forbidden ("Purchases from the Zomaal Shop are recorded automatically and " ++
        "can’t be edited."))
    else .ok row

end Books

/-- `serializable`: a transaction that the database aborts three times is given up. -/
def serializable {α : Type} (writeConflicts : ℕ) (work : Except PurchaseError α) :
    Except PurchaseError α :=
  if 3 ≤ writeConflicts then
    .error (.conflict "Stock changed at the same time; please try again.")
  else work

/-! ### The calls -/

structure StoreAccess where
  storeId : String
  userId : String
  baseCurrency : String

structure CreatePurchaseDto where
  packagingMaterialId : Option String := none
  warehouseProductId : Option String := none
  named : packagingMaterialId = none → warehouseProductId.isSome
  warehouseVariantId : Option String := none
  addToStock : Option Bool := none
  quantity : ℤ
  quantity_mem : 1 ≤ quantity ∧ quantity ≤ 1000000
  /-- a number of at most four decimals -/
  unitPrice : StoredMoney
  supplierName : Option String := none
  invoiceNumber : Option String := none
  purchaseDate : Option ℤ
  notes : Option String := none
  paymentMethod : Option ExpensePaymentMethod := none
  receiptAssetId : Option String := none

/-- A field that is absent leaves the purchase as it is; notes and receipt can be cleared. -/
structure UpdatePurchaseDto where
  quantity : Option ℤ := none
  quantity_mem : ∀ n ∈ quantity, 1 ≤ n ∧ n ≤ 1000000
  unitPrice : Option StoredMoney := none
  supplierName : Option String := none
  invoiceNumber : Option String := none
  purchaseDate : Option (Option ℤ) := none
  notes : Option (Option String) := none
  paymentMethod : Option ExpensePaymentMethod := none
  receiptAssetId : Option (Option String) := none

structure NewIds where
  purchase : String
  expense : String
  category : String
  item : String

def purchaseCost (unitPrice : StoredMoney) (quantity : ℤ) : Decimal :=
  Shop.toDecimalPlaces2 (unitPrice.1 * (quantity : ℚ))

namespace Books

variable (s : Books)

variable (storeId : String)

def createTarget (dto : CreatePurchaseDto) : Except PurchaseError PurchaseTarget :=
  if dto.packagingMaterialId.isSome ∧ dto.warehouseProductId.isSome then
    .error (.badRequest "Choose either a product or a packaging item, not both.")
  else
    match h : dto.packagingMaterialId with
    | some material => s.packagingTarget storeId material
    | none => s.productTarget storeId (dto.warehouseProductId.get (dto.named h))
        dto.warehouseVariantId

def receiveStock (target : PurchaseTarget) (quantity : ℤ) (ids : NewIds) :
    Except PurchaseError Books := do
  let (item, s) ← s.ensureInventoryItem storeId target ids.item
  s.moveOnHand item
    { type := .purchaseReceived
      quantityDelta := quantity
      reason := "Stock bought (manual purchase)"
      referenceType := "MERCHANT_PURCHASE"
      referenceId := ids.purchase
      idempotencyKey := some ("purchase:" ++ ids.purchase) }

/-- `receiveStock`, unless the stock was already counted. -/
def receiveStock? (addToStock : Bool) (storeId : String) (target : PurchaseTarget) (quantity : ℤ)
    (ids : NewIds) : Except PurchaseError Books :=
  if addToStock then s.receiveStock storeId target quantity ids else .ok s

def createPurchase (access : StoreAccess) (dto : CreatePurchaseDto) (ids : NewIds) (now : ℤ)
    (writeConflicts : ℕ) : Except PurchaseError (MerchantPurchase × Books) := do
  let target ← s.createTarget access.storeId dto
  let addToStock := dto.addToStock.getD true
  assertPersistedMoney dto.unitPrice.1 "unitPrice"
  let totalCost := purchaseCost dto.unitPrice dto.quantity
  assertPersistedMoney totalCost "totalCost"
  let supplierName ← selectedSupplier dto.supplierName target.supplierNames
  let invoiceNumber ← Purchasing.invoiceNumber dto.invoiceNumber
  let purchaseDate ← parseDate dto.purchaseDate now
  let notes := trimToNull dto.notes
  serializable writeConflicts do
    let s ← s.createPurchaseExpense
      { storeId := access.storeId
        productName := target.productName
        amount := totalCost
        paymentMethod := dto.paymentMethod.getD .cash
        spentAt := purchaseDate
        notes
        createdByUserId := some access.userId
        receiptUrl := dto.receiptAssetId.map receiptPreviewPath } ids.expense ids.category
    let s ← s.attachReceipt? access.storeId dto.receiptAssetId ids.expense now
    let s ← s.draw ids.purchase
    let created : MerchantPurchase :=
      { id := ids.purchase
        storeId := access.storeId
        source := .manual
        warehouseProductId := target.warehouseProductId
        warehouseVariantId := target.warehouseVariantId
        packagingMaterialId := target.packagingMaterialId
        supplierName, invoiceNumber
        productName := target.productName
        unitLabel := target.unitLabel
        imageUrl := target.imageUrl
        quantity := dto.quantity
        unitPrice := dto.unitPrice
        totalCost := store4 totalCost
        currency := access.baseCurrency
        purchaseDate, notes
        createdByUserId := some access.userId
        stockAdded := addToStock
        expenseId := some ids.expense }
    let s := { s with purchases := s.purchases ++ [created] }
    let s ← s.receiveStock? addToStock access.storeId target dto.quantity ids
    return (created, s)

def editExpense (dto : UpdatePurchaseDto) (totalCost : Decimal) (purchaseDate : ℤ)
    (notes : Option String) (expense : Expense) : Expense :=
  { expense with
    amount := store4 totalCost
    spentAt := purchaseDate
    notes
    paymentMethod := dto.paymentMethod.getD expense.paymentMethod
    receiptUrl := match dto.receiptAssetId with
      | some assetId => assetId.map receiptPreviewPath
      | none => expense.receiptUrl }

def updateExpense (storeId expenseId : String) (dto : UpdatePurchaseDto) (totalCost : Decimal)
    (purchaseDate : ℤ) (notes : Option String) (now : ℤ) (previousReceipt replacedReceipt :
    Option String) : Except PurchaseError Books := do
  -- the receipt that goes is detached before its successor is attached
  let s ← (s.detachReceipt replacedReceipt).attachReceipt? storeId
    (dto.receiptAssetId.join.filter fun assetId => some assetId ≠ previousReceipt) expenseId now
  match findExpense expenseId s.expenses with
  | none => .error .recordNotFound
  | some _ =>
    .ok { s with
      expenses := KeyedRows.change Expense.id expenseId
        (editExpense dto totalCost purchaseDate notes) s.expenses }

/-- `value === undefined ? kept : check(value)`. -/
def ifGiven {α β : Type} (value : Option α) (kept : β) (check : α → Except PurchaseError β) :
    Except PurchaseError β :=
  match value with
  | none => .ok kept
  | some value => check value

/-- The expense of an edited purchase: rewritten, or created for a purchase from before expenses
were linked. -/
def bookExpense (row : MerchantPurchase) (dto : UpdatePurchaseDto) (totalCost : Decimal)
    (purchaseDate : ℤ) (notes : Option String) (ids : NewIds) (now : ℤ)
    (previousReceipt replacedReceipt : Option String) : Except PurchaseError (String × Books) :=
  match row.expenseId with
  | some expenseId => do
      let s ← s.updateExpense storeId expenseId dto totalCost purchaseDate notes now
        previousReceipt replacedReceipt
      return (expenseId, s)
  | none => do
      let s ← s.createPurchaseExpense
        { storeId
          productName := row.productName
          amount := totalCost
          paymentMethod := dto.paymentMethod.getD .cash
          spentAt := purchaseDate
          notes
          createdByUserId := row.createdByUserId
          receiptUrl := dto.receiptAssetId.join.map receiptPreviewPath }
        ids.expense ids.category
      let s ← s.attachReceipt? storeId dto.receiptAssetId.join ids.expense now
      return (ids.expense, s)

def updatePurchase (storeId id : String) (dto : UpdatePurchaseDto) (ids : NewIds) (now : ℤ)
    (writeConflicts : ℕ) : Except PurchaseError (MerchantPurchase × Books) :=
  serializable writeConflicts do
    let row ← s.requireEditable storeId id
    let quantity := dto.quantity.getD row.quantity
    let unitPrice := dto.unitPrice.getD row.unitPrice
    assertPersistedMoney unitPrice.1 "unitPrice"
    let totalCost := purchaseCost unitPrice quantity
    assertPersistedMoney totalCost "totalCost"
    let supplierName ← ifGiven dto.supplierName row.supplierName fun name =>
      selectedSupplier (some name) (s.targetSuppliers storeId row)
    let invoiceNumber ← ifGiven dto.invoiceNumber row.invoiceNumber fun invoice =>
      Purchasing.invoiceNumber (some invoice)
    let purchaseDate ← ifGiven dto.purchaseDate row.purchaseDate fun date => parseDate date now
    let notes := match dto.notes with
      | none => row.notes
      | some notes => trimToNull notes
    let delta := quantity - row.quantity
    let inventoryItemId := if row.stockAdded ∧ delta ≠ 0 then s.stockItemId row else none
    let previousReceipt := if dto.receiptAssetId.isSome then
      (row.expenseId.bind s.receiptOf).map ReceiptAsset.id else none
    let replacedReceipt := previousReceipt.filter fun previous =>
      dto.receiptAssetId.join ≠ some previous
    let s ← s.moveStock? inventoryItemId delta "Manual purchase quantity changed" id
    let (expenseId, s) ← s.bookExpense storeId row dto totalCost purchaseDate notes ids now
      previousReceipt replacedReceipt
    let updated := { row with
      supplierName, invoiceNumber, quantity, unitPrice
      totalCost := store4 totalCost
      purchaseDate, notes
      expenseId := some expenseId }
    let s := { s with
      purchases := KeyedRows.change MerchantPurchase.id id (fun _ => updated) s.purchases }
    -- what was replaced is deleted after the transaction
    return (updated, s.deleteAttachedAsset replacedReceipt)

/-- The expense of a deleted purchase is deleted; its receipt no longer refers to it. -/
def deleteExpense (expenseId : Option String) : Except PurchaseError Books :=
  match expenseId with
  | none => .ok s
  | some expenseId =>
    match findExpense expenseId s.expenses with
    | none => .error .recordNotFound
    | some _ =>
      .ok { s with
        expenses := s.expenses.filter fun expense => expense.id ≠ expenseId
        receipts := s.receipts.map fun asset =>
          if asset.expenseId = some expenseId then { asset with expenseId := none }
          else asset }

def removePurchase (storeId id : String) (writeConflicts : ℕ) :
    Except PurchaseError (MerchantPurchase × Books) :=
  serializable writeConflicts do
    let row ← s.requireEditable storeId id
    let inventoryItemId := if row.stockAdded then s.stockItemId row else none
    let receipt := (row.expenseId.bind s.receiptOf).map ReceiptAsset.id
    let s ← s.moveStock? inventoryItemId (-row.quantity) "Manual purchase deleted" id
    let s := { s with purchases := s.purchases.filter fun purchase => purchase.id ≠ id }
    let s ← s.deleteExpense row.expenseId
    return (row, s.deleteAttachedAsset receipt)

end Books

end Zomaal.Purchasing
