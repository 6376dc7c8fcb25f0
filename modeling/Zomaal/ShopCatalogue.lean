/-
**The catalogue of the shop, its export and its import.**

Administrators create, change and delete categories and products, and they export the products as
CSV and import them again.  An import checks all rows first; then it writes them one after the
other.  This module embeds these operations of `shop.service.ts`.  Slugs, images and specifications
are no part of it, and of the options of a product only how many there are.

Main results:

* `Catalogue.wellFormed_run` — what holds of every catalogue that the operations lead to.
-/

import Zomaal.Csv
import Zomaal.KeyedRows
import Zomaal.MachineRun
import Zomaal.NumberTexts
import Zomaal.StoredAmounts

set_option autoImplicit false

namespace Zomaal.Catalogue

open JsText

/-! ### The rows -/

inductive ShopProductStatus
  | active
  | draft
  deriving DecidableEq

def ShopProductStatus.text : ShopProductStatus → String
  | .active => "ACTIVE"
  | .draft => "DRAFT"

structure ShopCategory where
  id : String
  name : String

structure ShopProduct where
  id : String
  categoryId : String
  name : String
  sku : Option String := none
  description : Option String := none
  price : Decimal
  stock : ℤ := 0
  status : ShopProductStatus := .draft
  createdAt : ℤ := 0
  /-- how many options the product has -/
  options : ℕ := 0
  deriving DecidableEq

structure ShopCatalogue where
  categories : List ShopCategory := []
  products : List ShopProduct := []

inductive CatalogueError
  | badRequest (message : String)
  | importRejected (errors : List String)
  | notFound (message : String)
  | conflict (message : String)
  | uniqueConstraint
  | numberOutOfRange

/-- How letters of both cases are told apart or not: by JavaScript, and by the database. -/
structure Letters where
  toLowerCase : String → String
  /-- `mode: 'insensitive'` compares these -/
  insensitive : String → String

/-- What an operation gets from outside: new identifiers, and the time of each new row. -/
structure Draws where
  uuid : ℕ → String
  now : ℕ → ℤ

/-- The largest number below `10 ^ 16`, which is what a `Decimal(20, 4)` column stops at. -/
def maxMoneyInput : Decimal := 9999999999999998

/-- A value of a `Decimal(20, 4)` column. -/
def asDecimal (x : Decimal) : Except CatalogueError Decimal :=
  if toFixed4 x ≤ maxMoneyInput then .ok (toFixed4 x) else .error .numberOutOfRange

/-- A value of an `Int` column. -/
def asInt (n : ℤ) : Except CatalogueError ℤ :=
  if -2147483648 ≤ n ∧ n ≤ 2147483647 then .ok n else .error .numberOutOfRange

namespace ShopCatalogue

variable (c : ShopCatalogue)

def findCategory (id : String) : Option ShopCategory :=
  c.categories.find? fun category => category.id = id

def findProduct (id : String) : Option ShopProduct :=
  c.products.find? fun product => product.id = id

/-- `orderBy: { createdAt: 'asc' }`. -/
def oldestFirst (products : List ShopProduct) : List ShopProduct :=
  products.mergeSort fun a b => a.createdAt ≤ b.createdAt

/-- `orderBy: { createdAt: 'desc' }`. -/
def newestFirst (products : List ShopProduct) : List ShopProduct :=
  products.mergeSort fun a b => b.createdAt ≤ a.createdAt

def updateProduct (id : String) (change : ShopProduct → ShopProduct) : ShopCatalogue :=
  { c with products := KeyedRows.change ShopProduct.id id change c.products }

def createProduct (product : ShopProduct) : Except CatalogueError ShopCatalogue :=
  if product.id ∈ c.products.map ShopProduct.id ∨
      (product.sku.isSome ∧ product.sku ∈ c.products.map ShopProduct.sku) then
    .error .uniqueConstraint
  else .ok { c with products := c.products ++ [product] }

def createCategory (category : ShopCategory) : Except CatalogueError ShopCatalogue :=
  if category.id ∈ c.categories.map ShopCategory.id then .error .uniqueConstraint
  else .ok { c with categories := c.categories ++ [category] }

end ShopCatalogue

open ShopCatalogue

/-! ### The export -/

def csvHeaders : List String :=
  ["name", "category", "sku", "price", "stock", "status", "description"]

def ShopCatalogue.categoryName (c : ShopCatalogue) (product : ShopProduct) : String :=
  ((c.findCategory product.categoryId).map ShopCategory.name).getD ""

def ShopCatalogue.cells (c : ShopCatalogue) (product : ShopProduct) : List (Option String) :=
  [some product.name, some (c.categoryName product), product.sku,
    some (Shop.toFixed2 product.price), some (toString product.stock),
    some product.status.text, product.description]

/-- **`exportProductsCsv`**, of all products. -/
def exportProductsCsv (c : ShopCatalogue) : String :=
  toCsv (csvHeaders.map some :: (newestFirst c.products).map c.cells)

/-! ### The import -/

def maxImportRows : ℕ := 2000

structure ImportRow where
  name : String
  categoryName : String
  sku : Option String
  description : Option String
  price : Decimal
  stock : ℤ
  status : ShopProductStatus

def cell (header row : List String) (column : String) : String :=
  match header.idxOf? column with
  | none => ""
  | some i => trim (row.getD i "")

def nonNegative (text : String) : Option Decimal := (number text).filter fun value => 0 ≤ value

def readStock (text : String) : Option ℤ :=
  if text = "" then some 0
  else (nonNegative text).bind fun value => if value.den = 1 then some value.num else none

def readStatus (text : String) : Option ShopProductStatus :=
  if text = "" then some .draft
  else [ShopProductStatus.active, .draft].find? fun status => status.text = text

def parseRow (header row : List String) (line : ℕ) : List String × ImportRow :=
  let name := cell header row "name"
  let categoryName := cell header row "category"
  let priceText := cell header row "price"
  let price := if priceText = "" then none else nonNegative priceText
  let stock := readStock (cell header row "stock")
  let status := readStatus (upperCode (cell header row "status"))
  let error (wrong : Bool) (message : String) : List String :=
    if wrong then ["Row " ++ toString line ++ ": " ++ message] else []
  (error (name = "") "name is required" ++
      error (categoryName = "") "category is required" ++
      error price.isNone "price must be a number ≥ 0" ++
      error stock.isNone "stock must be a whole number ≥ 0" ++
      error status.isNone "status must be ACTIVE or DRAFT",
    { name, categoryName
      sku := truthy (some (cell header row "sku"))
      description := truthy (some (cell header row "description"))
      price := price.getD 0
      stock := stock.getD 0
      status := status.getD .draft })

def skuErrors (rows : List ImportRow) : List String :=
  let skus := rows.filterMap ImportRow.sku
  (skus.eraseDups.filter fun sku => 1 < skus.count sku).map fun sku =>
    "SKU \"" ++ sku ++ "\" appears " ++ toString (skus.count sku) ++ " times in the file"

def readImport (letters : Letters) (csvText : String) : Except CatalogueError (List ImportRow) :=
  match parseCsv csvText with
  | header :: first :: rest =>
    let header := header.map fun text => letters.toLowerCase (trim text)
    match ["name", "category", "price"].find? fun column => column ∉ header with
    | some column =>
      .error (.badRequest ("Missing required column \"" ++ column ++
        "\". Expected columns: " ++ ", ".intercalate csvHeaders))
    | none =>
      if maxImportRows < (first :: rest).length then
        .error (.badRequest "Import is limited to 2000 rows per file.")
      else
        let parsed := (first :: rest).mapIdx fun i row => parseRow header row (i + 2)
        let errors := parsed.flatMap Prod.fst ++ skuErrors (parsed.map Prod.snd)
        if errors = [] then .ok (parsed.map Prod.snd)
        else .error (.importRejected (errors.take 50))
  | _ => .error (.badRequest "The CSV needs a header row and at least one product row.")

/-- The category with a name: the last one, as in a map that is filled in order. -/
def ShopCatalogue.categoryNamed (c : ShopCatalogue) (letters : Letters) (name : String) :
    Option ShopCategory :=
  c.categories.reverse.find? fun category =>
    letters.toLowerCase category.name = letters.toLowerCase name

/-- The product a row is about: by its SKU, or the oldest one of its name. -/
def ShopCatalogue.matched (c : ShopCatalogue) (letters : Letters) (row : ImportRow) :
    Option ShopProduct :=
  match row.sku with
  | some sku => c.products.find? fun product => product.sku = some sku
  | none => (oldestFirst c.products).find? fun product =>
    letters.insensitive product.name = letters.insensitive row.name

variable (row : ImportRow)

def ImportRow.write (categoryId : String) (price : Decimal) (stock : ℤ) (product : ShopProduct)
    : ShopProduct :=
  { product with
    name := row.name
    categoryId
    description := row.description
    price
    stock
    status := row.status }

/-- The stock a row leaves a product with: the stock of a product with options is not written. -/
def ImportRow.stockFor (existing : ShopProduct) : Except CatalogueError ℤ :=
  if 0 < existing.options then .ok existing.stock else asInt row.stock

structure ImportResult where
  created : ℕ := 0
  updated : ℕ := 0
  createdCategories : ℕ := 0

structure Importing where
  catalogue : ShopCatalogue
  result : ImportResult := {}

def Importing.drawn (s : Importing) : ℕ := s.result.created + s.result.createdCategories

def Importing.ensureCategory (letters : Letters) (draws : Draws) (s : Importing)
    (name : String) : Except CatalogueError (ShopCategory × Importing) :=
  match s.catalogue.categoryNamed letters name with
  | some category => .ok (category, s)
  | none => do
      let category : ShopCategory := { id := draws.uuid s.drawn, name }
      let catalogue ← s.catalogue.createCategory category
      .ok (category,
        { catalogue
          result := { s.result with createdCategories := s.result.createdCategories + 1 } })

def Importing.writeProduct (letters : Letters) (draws : Draws) (s : Importing)
    (category : ShopCategory) (row : ImportRow) : Except CatalogueError Importing :=
  match s.catalogue.matched letters row with
  | some existing => do
      let price ← asDecimal row.price
      let stock ← row.stockFor existing
      .ok
        { catalogue :=
            s.catalogue.updateProduct existing.id (row.write category.id price stock)
          result := { s.result with updated := s.result.updated + 1 } }
  | none => do
      let price ← asDecimal row.price
      let stock ← asInt row.stock
      let catalogue ← s.catalogue.createProduct
        { id := draws.uuid s.drawn, categoryId := category.id, name := row.name, sku := row.sku
          description := row.description, price, stock, status := row.status
          createdAt := draws.now s.drawn }
      .ok { catalogue, result := { s.result with created := s.result.created + 1 } }

def importRow (letters : Letters) (draws : Draws) (s : Importing) (row : ImportRow) :
    Except CatalogueError Importing := do
  let placed ← s.ensureCategory letters draws row.categoryName
  placed.2.writeProduct letters draws placed.1 row

/-- **`importProductsCsv`**: all rows, or none. -/
def importProductsCsv (letters : Letters) (draws : Draws) (csvText : String) (c : ShopCatalogue) :
    Except CatalogueError Importing := do
  let rows ← readImport letters csvText
  rows.foldlM (importRow letters draws) { catalogue := c }

/-! ### The administrators' operations -/

/-- What a product is created with, or changed to; a field that is not there is not changed. -/
structure ProductDto where
  name : Option String := none
  categoryId : Option String := none
  sku : Option String := none
  description : Option String := none
  price : Option Decimal := none
  stock : Option ℤ := none
  status : Option ShopProductStatus := none

def ProductDto.valid (dto : ProductDto) : Bool :=
  (dto.name.all fun name => 1 ≤ name.length && name.length ≤ 150) &&
    (dto.sku.all fun sku => sku.length ≤ 60) &&
    (dto.description.all fun description => description.length ≤ 2000) &&
    (dto.price.all fun price =>
      decide (toFixed4 price = price ∧ 0 ≤ price ∧ price ≤ maxMoneyInput)) &&
    (dto.stock.all fun stock => decide (0 ≤ stock ∧ stock ≤ 2147483647))

/-- `sku?.trim() || null`. -/
def trimmedOrNull (text : Option String) : Option String := truthy (text.map trim)

namespace ShopCatalogue

variable (c : ShopCatalogue)

/-- `assertSkuAvailable`. -/
def skuTaken (sku : Option String) (ignoreId : Option String) : Option ShopProduct :=
  (trimmedOrNull sku).bind fun value => c.products.find? fun product =>
    product.sku = some value && some product.id ≠ ignoreId

def categoryCreated (id name : String) : Except CatalogueError ShopCatalogue :=
  if 1 ≤ name.length ∧ name.length ≤ 100 then c.createCategory { id, name := trim name }
  else .error (.badRequest "name")

def categoryRenamed (id name : String) : Except CatalogueError ShopCatalogue :=
  if ¬(1 ≤ name.length ∧ name.length ≤ 100) then .error (.badRequest "name")
  else if (c.findCategory id).isNone then .error (.notFound "Category not found")
  else .ok
    { c with
      categories := KeyedRows.change ShopCategory.id id
        (fun category => { category with name := trim name }) c.categories }

def categoryDeleted (id : String) : Except CatalogueError ShopCatalogue :=
  match c.findCategory id with
  | none => .error (.notFound "Category not found")
  | some category =>
    let count := c.products.countP fun product => product.categoryId = id
    if 0 < count then
      .error (.conflict ("Cannot delete \"" ++ category.name ++ "\" — it still has " ++
        toString count ++ " product(s). Move or delete them first."))
    else .ok { c with categories := c.categories.filter fun category => category.id ≠ id }

def productCreated (id : String) (now : ℤ) (dto : ProductDto) :
    Except CatalogueError ShopCatalogue :=
  match dto.valid, dto.name, dto.categoryId, dto.price with
  | true, some name, some categoryId, some price =>
    if (c.findCategory categoryId).isNone then .error (.notFound "Category not found")
    else
      match c.skuTaken dto.sku none with
      | some taken =>
        .error (.conflict ("SKU \"" ++ (trimmedOrNull dto.sku).getD "" ++
          "\" is already used by \"" ++ taken.name ++ "\""))
      | none => c.createProduct
          { id, categoryId, name := trim name, sku := trimmedOrNull dto.sku
            description := trimmedOrNull dto.description, price, stock := dto.stock.getD 0
            status := dto.status.getD .draft, createdAt := now }
  | _, _, _, _ => .error (.badRequest "Bad Request")

end ShopCatalogue

def ProductDto.change (dto : ProductDto) (product : ShopProduct) : ShopProduct :=
  { product with
    name := (dto.name.map trim).getD product.name
    categoryId := dto.categoryId.getD product.categoryId
    sku := if dto.sku.isSome then trimmedOrNull dto.sku else product.sku
    description :=
      if dto.description.isSome then trimmedOrNull dto.description else product.description
    price := dto.price.getD product.price
    stock := dto.stock.getD product.stock
    status := dto.status.getD product.status }

namespace ShopCatalogue

variable (c : ShopCatalogue)

def productUpdated (id : String) (dto : ProductDto) : Except CatalogueError ShopCatalogue :=
  if !dto.valid then .error (.badRequest "Bad Request")
  else
    match c.findProduct id with
    | none => .error (.notFound "Product not found")
    | some product =>
      if dto.categoryId.any fun categoryId => (c.findCategory categoryId).isNone then
        .error (.notFound "Category not found")
      else
        match c.skuTaken dto.sku (some id) with
        | some taken =>
          .error (.conflict ("SKU \"" ++ (trimmedOrNull dto.sku).getD "" ++
            "\" is already used by \"" ++ taken.name ++ "\""))
        | none =>
          if 0 < product.options ∧ dto.stock.any fun stock => stock ≠ product.stock then
            .error (.badRequest
              "This product has options — set stock on each option instead.")
          else .ok (c.updateProduct id dto.change)

def productDeleted (id : String) : Except CatalogueError ShopCatalogue :=
  if (c.findProduct id).isNone then .error (.notFound "Product not found")
  else .ok { c with products := c.products.filter fun product => product.id ≠ id }

/-- What `replaceVariants` leaves of a product: the number of its options, and, if there are any,
the sum of their stocks. -/
def optionsReplaced (id : String) (stocks : List ℕ) : Except CatalogueError ShopCatalogue :=
  if (c.findProduct id).isNone then .error (.notFound "Product not found")
  else if 2147483647 < stocks.sum then
    .error (.badRequest "Combined variant stock exceeds supported range")
  else .ok (c.updateProduct id fun product =>
    { product with
      options := stocks.length
      stock := if stocks = [] then product.stock else stocks.sum })

def stockMoved (id : String) (stock : ℕ) : Except CatalogueError ShopCatalogue :=
  if 2147483647 < stock then .error .numberOutOfRange
  else .ok (c.updateProduct id fun product => { product with stock })

end ShopCatalogue

inductive AdminAction
  | createCategory (id name : String)
  | updateCategory (id name : String)
  | deleteCategory (id : String)
  | createProduct (id : String) (now : ℤ) (dto : ProductDto)
  | updateProduct (id : String) (dto : ProductDto)
  | deleteProduct (id : String)
  | replaceVariants (id : String) (stocks : List ℕ)
  | moveStock (id : String) (stock : ℕ)
  | importProducts (draws : Draws) (csvText : String)

def AdminAction.perform (letters : Letters) (c : ShopCatalogue) :
    AdminAction → Except CatalogueError ShopCatalogue
  | .createCategory id name => c.categoryCreated id name
  | .updateCategory id name => c.categoryRenamed id name
  | .deleteCategory id => c.categoryDeleted id
  | .createProduct id now dto => c.productCreated id now dto
  | .updateProduct id dto => c.productUpdated id dto
  | .deleteProduct id => c.productDeleted id
  | .replaceVariants id stocks => c.optionsReplaced id stocks
  | .moveStock id stock => c.stockMoved id stock
  | .importProducts draws csvText =>
    (importProductsCsv letters draws csvText c).map Importing.catalogue

def AdminAction.step (letters : Letters) (c : ShopCatalogue) (action : AdminAction) :
    ShopCatalogue :=
  match action.perform letters c with
  | .ok next => next
  | .error _ => c

/-! ### What holds of every catalogue -/

def Trimmed (text : String) : Prop := trim text = text

def TrimmedOrNull (text : Option String) : Prop := ∀ value ∈ text, Trimmed value ∧ value ≠ ""

structure ShopProduct.WellFormed (product : ShopProduct) : Prop where
  name : Trimmed product.name
  sku : TrimmedOrNull product.sku
  description : TrimmedOrNull product.description
  price : 0 ≤ product.price ∧ product.price ≤ maxMoneyInput
  stock : 0 ≤ product.stock ∧ product.stock ≤ 2147483647

structure WellFormed (c : ShopCatalogue) : Prop where
  categoryIds : (c.categories.map ShopCategory.id).Nodup
  categoryNames : ∀ category ∈ c.categories, Trimmed category.name
  ids : (c.products.map ShopProduct.id).Nodup
  skus : ∀ product ∈ c.products, ∀ other ∈ c.products, product.sku.isSome →
    other.sku = product.sku → other = product
  products : ∀ product ∈ c.products, product.WellFormed
  placed : ∀ product ∈ c.products, product.categoryId ∈ c.categories.map ShopCategory.id

theorem trimmed_trim (text : String) : Trimmed (trim text) := trim_trim text

theorem trimmedOrNull_spec (text : Option String) : TrimmedOrNull (trimmedOrNull text) := by
  intro value hvalue
  obtain ⟨hmap, hne⟩ := truthy_some hvalue
  obtain ⟨text, -, rfl⟩ := Option.map_eq_some_iff.1 hmap
  exact ⟨trimmed_trim text, hne⟩

theorem asDecimal_ok {x y : Decimal} (h : asDecimal x = .ok y) (hx : 0 ≤ x) :
    0 ≤ y ∧ y ≤ maxMoneyInput := by
  rw [asDecimal] at h
  split at h
  · rename_i hmax
    obtain rfl := Except.ok.inj h
    exact ⟨toFixed4_nonneg hx, hmax⟩
  · cases h

theorem asInt_ok {n m : ℤ} (h : asInt n = .ok m) : m = n ∧ n ≤ 2147483647 := by
  rw [asInt] at h
  split at h
  · rename_i hbounds
    exact ⟨(Except.ok.inj h).symm, hbounds.2⟩
  · cases h

section Operations

variable {c next : ShopCatalogue}

theorem WellFormed.createCategory (h : WellFormed c) {category : ShopCategory}
    (hname : Trimmed category.name) (hcreate : c.createCategory category = .ok next) :
    WellFormed next ∧ next = { c with categories := c.categories ++ [category] } := by
  rw [ShopCatalogue.createCategory] at hcreate
  split at hcreate
  · cases hcreate
  · rename_i hfresh
    obtain rfl := Except.ok.inj hcreate
    refine ⟨{ h with
      categoryIds := KeyedRows.nodup_append ShopCategory.id h.categoryIds hfresh
      categoryNames := ?_
      placed := ?_ }, rfl⟩
    · intro other hother
      rcases Ledger.mem_concat.1 hother with hother | rfl
      · exact h.categoryNames other hother
      · exact hname
    · intro product hproduct
      rw [List.map_append]
      exact List.mem_append_left _ (h.placed product hproduct)

theorem WellFormed.createProduct (h : WellFormed c) {product : ShopProduct}
    (hproduct : product.WellFormed)
    (hplaced : product.categoryId ∈ c.categories.map ShopCategory.id)
    (hcreate : c.createProduct product = .ok next) : WellFormed next := by
  rw [ShopCatalogue.createProduct] at hcreate
  split at hcreate
  · cases hcreate
  · rename_i hfresh
    rw [not_or, not_and] at hfresh
    obtain ⟨hid, hsku⟩ := hfresh
    obtain rfl := Except.ok.inj hcreate
    -- no product in the catalogue has the SKU of the new one
    have hother : ∀ other ∈ c.products, product.sku.isSome → other.sku ≠ product.sku :=
      fun other hother hsome hsame => hsku hsome (List.mem_map.2 ⟨other, hother, hsame⟩)
    refine { h with
      ids := KeyedRows.nodup_append ShopProduct.id h.ids hid
      skus := fun first hfirst second hsecond hsome hsame => ?_
      products := fun other hmem => ?_
      placed := fun other hmem => ?_ }
    · rcases Ledger.mem_concat.1 hfirst with hold | hnew
      · rcases Ledger.mem_concat.1 hsecond with hold' | hnew'
        · exact h.skus first hold second hold' hsome hsame
        · rw [hnew'] at hsame
          exact absurd hsame.symm (hother first hold (hsame ▸ hsome))
      · rw [hnew] at hsome hsame ⊢
        rcases Ledger.mem_concat.1 hsecond with hold' | hnew'
        · exact absurd hsame (hother second hold' hsome)
        · exact hnew'
    · rcases Ledger.mem_concat.1 hmem with hmem | rfl
      · exact h.products other hmem
      · exact hproduct
    · rcases Ledger.mem_concat.1 hmem with hmem | rfl
      · exact h.placed other hmem
      · exact hplaced

variable {id : String}

theorem WellFormed.updateProduct (h : WellFormed c) {change : ShopProduct → ShopProduct}
    (hid : ∀ product, (change product).id = product.id)
    (hchange : ∀ product ∈ c.products, product.id = id → (change product).WellFormed ∧
      (change product).categoryId ∈ c.categories.map ShopCategory.id ∧
      ((change product).sku = product.sku ∨
        ∀ other ∈ c.products, (change product).sku.isSome → other.sku = (change product).sku →
          other.id = id)) : WellFormed (c.updateProduct id change) := by
  have hinj : ∀ product ∈ c.products, ∀ other ∈ c.products, other.id = product.id →
      other = product := fun product hproduct other hother hsame =>
    List.inj_on_of_nodup_map h.ids hother hproduct hsame
  refine { h with
    ids := ?_
    skus := fun first hfirst second hsecond hsome hsame => ?_
    products := fun product hmem => ?_
    placed := fun product hmem => ?_ }
  · rw [ShopCatalogue.updateProduct, KeyedRows.map_key_change ShopProduct.id hid]
    exact h.ids
  · obtain ⟨p, hp, rfl⟩ := List.mem_map.1 hfirst
    obtain ⟨q, hq, rfl⟩ := List.mem_map.1 hsecond
    have hpq : q = p := by
      by_cases hpid : p.id = id <;> by_cases hqid : q.id = id
      · exact hinj p hp q hq (hqid.trans hpid.symm)
      · rw [if_pos hpid, if_neg hqid] at hsame
        rw [if_pos hpid] at hsome
        rcases (hchange p hp hpid).2.2 with hsku | hfree
        · rw [hsku] at hsame hsome
          exact h.skus p hp q hq hsome hsame
        · exact absurd (hfree q hq hsome hsame) hqid
      · rw [if_neg hpid, if_pos hqid] at hsame
        rw [if_neg hpid] at hsome
        rcases (hchange q hq hqid).2.2 with hsku | hfree
        · rw [hsku] at hsame
          exact h.skus p hp q hq hsome hsame
        · exact absurd (hfree p hp (hsame ▸ hsome) hsame.symm) hpid
      · rw [if_neg hpid, if_neg hqid] at hsame
        rw [if_neg hpid] at hsome
        exact h.skus p hp q hq hsome hsame
    rw [hpq]
  · obtain ⟨p, hp, rfl⟩ := List.mem_map.1 hmem
    by_cases hpid : p.id = id
    · rw [if_pos hpid]
      exact (hchange p hp hpid).1
    · rw [if_neg hpid]
      exact h.products p hp
  · obtain ⟨p, hp, rfl⟩ := List.mem_map.1 hmem
    by_cases hpid : p.id = id
    · rw [if_pos hpid]
      exact (hchange p hp hpid).2.1
    · rw [if_neg hpid]
      exact h.placed p hp

/-! ### Every operation keeps it -/

theorem skuTaken_none {sku ignoreId : Option String}
    (hfree : c.skuTaken sku ignoreId = none) {other : ShopProduct} (hother : other ∈ c.products)
    (hsome : (trimmedOrNull sku).isSome) (hsame : other.sku = trimmedOrNull sku) :
    some other.id = ignoreId := by
  obtain ⟨value, hvalue⟩ := Option.isSome_iff_exists.1 hsome
  rw [ShopCatalogue.skuTaken, hvalue, Option.bind_some] at hfree
  have hnot := List.find?_eq_none.1 hfree other hother
  simpa [hsame, hvalue] using hnot

variable {dto : ProductDto}

theorem ProductDto.valid_spec (h : dto.valid = true) :
    (∀ price ∈ dto.price, 0 ≤ price ∧ price ≤ maxMoneyInput) ∧
      ∀ stock ∈ dto.stock, 0 ≤ stock ∧ stock ≤ 2147483647 := by
  rw [valid, Bool.and_eq_true, Bool.and_eq_true] at h
  obtain ⟨⟨-, hprice⟩, hstock⟩ := h
  constructor
  · intro price hmem
    obtain ⟨-, hbounds⟩ := of_decide_eq_true ((Option.all_eq_true _ _).1 hprice price hmem)
    exact hbounds
  · intro stock hmem
    exact of_decide_eq_true ((Option.all_eq_true _ _).1 hstock stock hmem)

theorem ProductDto.change_wellFormed {product : ShopProduct}
    (hprices : ∀ price ∈ dto.price, 0 ≤ price ∧ price ≤ maxMoneyInput)
    (hstocks : ∀ stock ∈ dto.stock, 0 ≤ stock ∧ stock ≤ 2147483647) (h : product.WellFormed) :
    (dto.change product).WellFormed := by
  refine ⟨?_, ?_, ?_, ?_, ?_⟩ <;> rw [change] <;> dsimp only
  · cases dto.name with
    | none => exact h.name
    | some name => exact trimmed_trim name
  · split
    · exact trimmedOrNull_spec _
    · exact h.sku
  · split
    · exact trimmedOrNull_spec _
    · exact h.description
  · cases hprice : dto.price with
    | none => exact h.price
    | some price => exact hprices price hprice
  · cases hstock : dto.stock with
    | none => exact h.stock
    | some stock => exact hstocks stock hstock

theorem WellFormed.categoryCreated (h : WellFormed c) {name : String}
    (hdone : c.categoryCreated id name = .ok next) : WellFormed next := by
  rw [ShopCatalogue.categoryCreated] at hdone
  split at hdone
  · exact (h.createCategory (by exact trimmed_trim name) hdone).1
  · cases hdone

theorem WellFormed.categoryRenamed (h : WellFormed c) {name : String}
    (hdone : c.categoryRenamed id name = .ok next) : WellFormed next := by
  rw [ShopCatalogue.categoryRenamed] at hdone
  split at hdone
  · cases hdone
  · split at hdone
    · cases hdone
    · obtain rfl := Except.ok.inj hdone
      have hids : (KeyedRows.change ShopCategory.id id
          (fun category => { category with name := trim name }) c.categories).map ShopCategory.id =
          c.categories.map ShopCategory.id :=
        KeyedRows.map_key_change ShopCategory.id
          (f := fun category => { category with name := trim name }) (fun _ => rfl) c.categories
      refine { h with categoryIds := ?_, categoryNames := ?_, placed := ?_ }
      · exact hids.symm ▸ h.categoryIds
      · intro category hmem
        obtain ⟨old, hold, rfl⟩ := List.mem_map.1 hmem
        by_cases hid : old.id = id
        · rw [if_pos hid]
          exact trimmed_trim name
        · rw [if_neg hid]
          exact h.categoryNames old hold
      · intro product hproduct
        exact hids.symm ▸ h.placed product hproduct

theorem WellFormed.categoryDeleted (h : WellFormed c) (hdone : c.categoryDeleted id = .ok next) :
    WellFormed next := by
  rw [ShopCatalogue.categoryDeleted] at hdone
  split at hdone
  · cases hdone
  · dsimp only at hdone
    split at hdone
    · cases hdone
    · rename_i hcount
      obtain rfl := Except.ok.inj hdone
      have hempty := List.countP_eq_zero.1 (Nat.eq_zero_of_not_pos hcount)
      refine { h with categoryIds := ?_, categoryNames := ?_, placed := ?_ }
      · exact h.categoryIds.sublist ((List.filter_sublist).map _)
      · exact fun category hmem => h.categoryNames category (List.mem_of_mem_filter hmem)
      · intro product hproduct
        obtain ⟨category, hmem, hid⟩ := List.mem_map.1 (h.placed product hproduct)
        refine List.mem_map.2 ⟨category, List.mem_filter.2 ⟨hmem, ?_⟩, hid⟩
        have hother := hempty product hproduct
        simpa [hid] using hother

theorem WellFormed.productCreated (h : WellFormed c) {now : ℤ}
    (hdone : c.productCreated id now dto = .ok next) : WellFormed next := by
  rw [ShopCatalogue.productCreated] at hdone
  split at hdone
  · rename_i name categoryId price hvalid hname hcategory hprice
    obtain ⟨hprices, hstocks⟩ := ProductDto.valid_spec hvalid
    split at hdone
    · cases hdone
    · rename_i hfound
      split at hdone
      · cases hdone
      · refine h.createProduct ?_ ?_ hdone
        · refine ⟨trimmed_trim name, trimmedOrNull_spec _, trimmedOrNull_spec _,
            hprices price hprice, ?_⟩
          dsimp only
          cases hstock : dto.stock with
          | none => exact ⟨le_rfl, by norm_num⟩
          | some stock => exact hstocks stock hstock
        · obtain ⟨category, hcategory⟩ := Option.ne_none_iff_exists'.1
            (mt Option.isNone_iff_eq_none.2 hfound)
          obtain ⟨hmem, hid⟩ := KeyedRows.lookup_some ShopCategory.id hcategory
          exact List.mem_map.2 ⟨category, hmem, hid⟩
  · cases hdone

theorem WellFormed.productUpdated (h : WellFormed c) (hdone : c.productUpdated id dto = .ok next) :
    WellFormed next := by
  rw [ShopCatalogue.productUpdated] at hdone
  split at hdone
  · cases hdone
  · rename_i hvalid
    rw [Bool.not_eq_true', Bool.not_eq_false] at hvalid
    obtain ⟨hprices, hstocks⟩ := ProductDto.valid_spec hvalid
    split at hdone
    · cases hdone
    · split at hdone
      · cases hdone
      · rename_i hplaced
        split at hdone
        · cases hdone
        · rename_i hfree
          split at hdone
          · cases hdone
          · obtain rfl := Except.ok.inj hdone
            refine h.updateProduct (fun _ => rfl) fun product hproduct _ => ⟨?_, ?_, ?_⟩
            · exact ProductDto.change_wellFormed hprices hstocks (h.products product hproduct)
            · rw [ProductDto.change]
              cases hcategory : dto.categoryId with
              | none => exact h.placed product hproduct
              | some categoryId =>
                rw [hcategory, Option.any_some, Option.isNone_iff_eq_none] at hplaced
                obtain ⟨category, hfound⟩ := Option.ne_none_iff_exists'.1 hplaced
                obtain ⟨hmem, hid⟩ := KeyedRows.lookup_some ShopCategory.id hfound
                exact List.mem_map.2 ⟨category, hmem, hid⟩
            · rw [ProductDto.change]
              dsimp only
              by_cases hsku : dto.sku.isSome = true
              · rw [if_pos hsku]
                exact .inr fun other hother hsome hsame =>
                  Option.some.inj (skuTaken_none hfree hother hsome hsame)
              · exact .inl (if_neg hsku)

theorem WellFormed.productDeleted (h : WellFormed c) (hdone : c.productDeleted id = .ok next) :
    WellFormed next := by
  rw [ShopCatalogue.productDeleted] at hdone
  split at hdone
  · cases hdone
  · obtain rfl := Except.ok.inj hdone
    have hkept : ∀ product ∈ c.products.filter (fun product => product.id ≠ id),
        product ∈ c.products := fun product hmem => List.mem_of_mem_filter hmem
    exact { h with
      ids := h.ids.sublist ((List.filter_sublist).map _)
      skus := fun product hproduct other hother =>
        h.skus product (hkept product hproduct) other (hkept other hother)
      products := fun product hmem => h.products product (hkept product hmem)
      placed := fun product hmem => h.placed product (hkept product hmem) }

theorem WellFormed.optionsReplaced (h : WellFormed c) {stocks : List ℕ}
    (hdone : c.optionsReplaced id stocks = .ok next) : WellFormed next := by
  rw [ShopCatalogue.optionsReplaced] at hdone
  split at hdone
  · cases hdone
  · split at hdone
    · cases hdone
    · rename_i hsum
      obtain rfl := Except.ok.inj hdone
      refine h.updateProduct (fun _ => rfl) fun product hproduct _ =>
        ⟨{ h.products product hproduct with stock := ?_ }, h.placed product hproduct, .inl rfl⟩
      dsimp only
      split
      · exact (h.products product hproduct).stock
      · exact ⟨Int.natCast_nonneg _, by omega⟩

theorem WellFormed.stockMoved (h : WellFormed c) {stock : ℕ}
    (hdone : c.stockMoved id stock = .ok next) : WellFormed next := by
  rw [ShopCatalogue.stockMoved] at hdone
  split at hdone
  · cases hdone
  · rename_i hstock
    obtain rfl := Except.ok.inj hdone
    exact h.updateProduct (fun _ => rfl) fun product hproduct _ =>
      ⟨{ h.products product hproduct with stock := ⟨Int.natCast_nonneg _, by dsimp only; omega⟩ },
        h.placed product hproduct, .inl rfl⟩

end Operations

structure ImportRow.WellFormed : Prop where
  name : Trimmed row.name
  categoryName : Trimmed row.categoryName
  sku : TrimmedOrNull row.sku
  description : TrimmedOrNull row.description
  price : 0 ≤ row.price
  stock : 0 ≤ row.stock

theorem cell_trimmed (header row : List String) (column : String) :
    Trimmed (cell header row column) := by
  rw [cell]
  split
  · exact trimmed_trim ""
  · exact trimmed_trim _

theorem truthy_trimmed {text : String} (h : Trimmed text) : TrimmedOrNull (truthy (some text)) := by
  intro value hvalue
  obtain ⟨hsome, hne⟩ := truthy_some hvalue
  obtain rfl := Option.some.inj hsome
  exact ⟨h, hne⟩

theorem nonNegative_some {text : String} {value : Decimal} (h : nonNegative text = some value) :
    0 ≤ value := by
  obtain ⟨-, hsign⟩ := Option.filter_eq_some_iff.1 h
  simpa using hsign

theorem parseRow_wellFormed (header row : List String) (line : ℕ) :
    (parseRow header row line).2.WellFormed := by
  rw [parseRow]
  refine ⟨cell_trimmed _ _ _, cell_trimmed _ _ _, truthy_trimmed (cell_trimmed _ _ _),
    truthy_trimmed (cell_trimmed _ _ _), ?_, ?_⟩ <;> dsimp only
  · split
    · exact le_rfl
    · cases hprice : nonNegative (cell header row "price") with
      | none => exact le_rfl
      | some price => exact nonNegative_some hprice
  · cases hstock : readStock (cell header row "stock") with
    | none => exact le_rfl
    | some stock =>
      rw [readStock] at hstock
      split at hstock
      · obtain rfl := Option.some.inj hstock
        exact le_rfl
      · obtain ⟨value, hvalue, hwhole⟩ := Option.bind_eq_some_iff.1 hstock
        split at hwhole
        · obtain rfl := Option.some.inj hwhole
          exact Rat.num_nonneg.2 (nonNegative_some hvalue)
        · cases hwhole

theorem readImport_wellFormed {letters : Letters} {csvText : String} {rows : List ImportRow}
    (h : readImport letters csvText = .ok rows) : ∀ row ∈ rows, row.WellFormed := by
  rw [readImport] at h
  split at h
  · dsimp only at h
    split at h
    · cases h
    · split at h
      · cases h
      · split at h
        · obtain rfl := Except.ok.inj h
          intro row hrow
          obtain ⟨parsed, hparsed, rfl⟩ := List.mem_map.1 hrow
          obtain ⟨i, hi, rfl⟩ := List.mem_mapIdx.1 hparsed
          exact parseRow_wellFormed _ _ _
        · cases h
  · cases h

section Import

variable {letters : Letters} {draws : Draws}

theorem ensureCategory_ok {s t : Importing} {name : String} {category : ShopCategory}
    (hs : WellFormed s.catalogue) (hname : Trimmed name)
    (h : s.ensureCategory letters draws name = .ok (category, t)) :
    WellFormed t.catalogue ∧ category ∈ t.catalogue.categories := by
  rw [Importing.ensureCategory] at h
  split at h
  · rename_i found hfound
    cases h
    exact ⟨hs, List.mem_reverse.1 (List.mem_of_find?_eq_some hfound)⟩
  · obtain ⟨catalogue, hcreate, h⟩ := Except.bind_eq_ok h
    cases h
    obtain ⟨hwf, rfl⟩ := hs.createCategory (by exact hname) hcreate
    exact ⟨hwf, List.mem_append_right _ (List.mem_singleton_self _)⟩

theorem stockFor_ok {row : ImportRow} {existing : ShopProduct} {stock : ℤ}
    (hrow : row.WellFormed) (hexisting : existing.WellFormed)
    (h : row.stockFor existing = .ok stock) : 0 ≤ stock ∧ stock ≤ 2147483647 := by
  rw [ImportRow.stockFor] at h
  split at h
  · obtain rfl := Except.ok.inj h
    exact hexisting.stock
  · obtain ⟨rfl, hmax⟩ := asInt_ok h
    exact ⟨hrow.stock, hmax⟩

theorem writeProduct_ok {s t : Importing} {category : ShopCategory} {row : ImportRow}
    (hs : WellFormed s.catalogue) (hrow : row.WellFormed)
    (hcategory : category ∈ s.catalogue.categories)
    (h : s.writeProduct letters draws category row = .ok t) : WellFormed t.catalogue := by
  have hplaced : category.id ∈ s.catalogue.categories.map ShopCategory.id :=
    List.mem_map_of_mem hcategory
  rw [Importing.writeProduct] at h
  split at h
  · rename_i existing hmatched
    obtain ⟨price, hprice, h⟩ := Except.bind_eq_ok h
    obtain ⟨stock, hstock, h⟩ := Except.bind_eq_ok h
    obtain rfl := Except.ok.inj h
    have hexisting : existing ∈ s.catalogue.products := by
      rw [ShopCatalogue.matched] at hmatched
      split at hmatched
      · exact List.mem_of_find?_eq_some hmatched
      · exact List.mem_mergeSort.1 (List.mem_of_find?_eq_some hmatched)
    have hbounds := stockFor_ok hrow (hs.products existing hexisting) hstock
    exact hs.updateProduct (fun _ => rfl) fun product hproduct _ =>
      ⟨⟨hrow.name, (hs.products product hproduct).sku, hrow.description,
        asDecimal_ok hprice hrow.price, hbounds⟩, hplaced, .inl rfl⟩
  · obtain ⟨price, hprice, h⟩ := Except.bind_eq_ok h
    obtain ⟨stock, hstock, h⟩ := Except.bind_eq_ok h
    obtain ⟨catalogue, hcreate, h⟩ := Except.bind_eq_ok h
    obtain rfl := Except.ok.inj h
    obtain ⟨rfl, hmax⟩ := asInt_ok hstock
    refine hs.createProduct ?_ ?_ hcreate
    · exact ⟨hrow.name, hrow.sku, hrow.description, asDecimal_ok hprice hrow.price,
        hrow.stock, hmax⟩
    · exact hplaced

theorem WellFormed.importRows {rows : List ImportRow} (hrows : ∀ row ∈ rows, row.WellFormed)
    {s t : Importing} (hs : WellFormed s.catalogue)
    (h : rows.foldlM (importRow letters draws) s = .ok t) : WellFormed t.catalogue := by
  induction rows generalizing s with
  | nil =>
    obtain rfl := Except.ok.inj h
    exact hs
  | cons row rows ih =>
    rw [List.foldlM_cons] at h
    obtain ⟨middle, hrow, hrest⟩ := Except.bind_eq_ok h
    obtain ⟨placed, hcategory, hwrite⟩ := Except.bind_eq_ok hrow
    have hwf := hrows row (List.mem_cons_self ..)
    obtain ⟨hplaced, hmem⟩ := ensureCategory_ok hs hwf.categoryName hcategory
    exact ih (fun other hother => hrows other (List.mem_cons_of_mem _ hother))
      (writeProduct_ok hplaced hwf hmem hwrite) hrest

end Import

theorem WellFormed.step {letters : Letters} {c : ShopCatalogue} (h : WellFormed c)
    (action : AdminAction) : WellFormed (action.step letters c) := by
  rw [AdminAction.step]
  cases hdone : action.perform letters c with
  | error _ => exact h
  | ok next =>
    cases action with
    | createCategory id name => exact h.categoryCreated hdone
    | updateCategory id name => exact h.categoryRenamed hdone
    | deleteCategory id => exact h.categoryDeleted hdone
    | createProduct id now dto => exact h.productCreated hdone
    | updateProduct id dto => exact h.productUpdated hdone
    | deleteProduct id => exact h.productDeleted hdone
    | replaceVariants id stocks => exact h.optionsReplaced hdone
    | moveStock id stock => exact h.stockMoved hdone
    | importProducts draws csvText =>
      obtain ⟨t, himport, rfl⟩ := Except.map_eq_ok hdone
      rw [importProductsCsv] at himport
      obtain ⟨rows, hread, hrows⟩ := Except.bind_eq_ok himport
      exact WellFormed.importRows (readImport_wellFormed hread) h hrows

theorem wellFormed_empty : WellFormed {} :=
  ⟨List.nodup_nil, fun _ h => (nomatch h), List.nodup_nil, fun _ h => (nomatch h),
    fun _ h => (nomatch h), fun _ h => (nomatch h)⟩

/-- **Every catalogue that the operations lead to is well-formed.** -/
theorem wellFormed_run (letters : Letters) (actions : List AdminAction) :
    WellFormed (Machine.run (AdminAction.step letters) {} actions) :=
  Machine.run_keeps (fun _ action h => h.step action) wellFormed_empty actions

end Zomaal.Catalogue
