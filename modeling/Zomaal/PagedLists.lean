/-
**The paged lists: orders, returns, staff and storefront products.**

Each of these lists counts the rows that match a filter and reads one page of them by offset, in an
order on one column, which is not unique.  The spreadsheet of orders reads the same rows as the
order list and settles ties by the id.

Main results:

* `PagedLists.pagedLists` — **the four lists, and the spreadsheet**.
-/

import Mathlib.Data.String.Basic
import Zomaal.OffsetPages
import Zomaal.PlatformOrders
import Zomaal.ShopCatalogue
import Zomaal.StaffSessions

set_option autoImplicit false

namespace Zomaal.PagedLists

open OffsetPages JsText

/-! ### The database -/

structure Database where
  contains : String → String → Bool
  containsInsensitive : String → String → Bool
  collation : LinearOrder String

structure Table (ρ : Type) (id : ρ → String) where
  rows : List ρ
  unique : (rows.map id).Nodup

structure PageResponse (ρ : Type) where
  data : List ρ
  total : ℕ
  page : ℕ
  limit : ℕ

variable {ρ : Type}

/-- The count and the page of the rows that match, where `answer` is how the database arranges
them for this page. -/
def findPage (matching : List ρ) (page limit : ℕ) (answer : List ρ) : PageResponse ρ where
  data := window limit ((page - 1) * limit) answer
  total := matching.length
  page := page
  limit := limit

variable (database : Database)

/-! ### Orders -/

structure Order where
  id : String
  storeId : String
  platform : EcommercePlatform
  includeInRevenue : Bool := true
  externalOrderId : String
  orderName : Option String := none
  status : EcommerceOrderStatus := .open
  financialStatus : EcommercePaymentStatus := .pending
  fulfillmentStatus : Option String := none
  dispatched : Bool := false
  processedAt : ℤ
  deriving DecidableEq

structure EcommerceOrderQuery where
  platform : Option EcommercePlatform := none
  search : Option String := none
  financialStatus : Option EcommercePaymentStatus := none
  fulfillmentStatus : Option String := none
  includeCancelled : Bool := false
  includeRefunded : Bool := false
  includeDispatched : Bool := false
  includeInRevenue : Option Bool := none
  page : Option ℕ+ := none
  limit : Option ℕ+ := none

variable (storeId : String)

def orderWhere (query : EcommerceOrderQuery) (order : Order) : Bool :=
  order.storeId = storeId && query.platform.all (order.platform = ·) &&
  query.includeInRevenue.all (order.includeInRevenue = ·) &&
  query.financialStatus.all (order.financialStatus = ·) &&
  (truthy query.fulfillmentStatus).all (order.fulfillmentStatus = some ·) &&
  (truthy query.search).all (fun search => order.externalOrderId = search ||
    order.orderName.any (database.containsInsensitive · search)) &&
  (query.includeCancelled || order.status ≠ .cancelled) &&
  (query.includeRefunded || query.financialStatus.isSome ||
    (order.financialStatus ≠ .refunded && order.financialStatus ≠ .partiallyRefunded)) &&
  (query.includeDispatched || !order.dispatched)

def ordersBy : OrderBy Order := .desc Order.processedAt

def listOrders (query : EcommerceOrderQuery) (orders answer : List Order) : PageResponse Order :=
  findPage (orders.filter (orderWhere database storeId query)) (query.page.getD 1)
    (query.limit.getD 20) answer

def MAX_ORDER_EXPORT_ROWS : ℕ := 10000

def exportBy : OrderBy Order :=
  .thenBy (.desc Order.processedAt) (@OrderBy.desc _ _ database.collation Order.id)

def exportXlsx (answer : List Order) : Except String (List Order) :=
  let orders := answer.take (MAX_ORDER_EXPORT_ROWS + 1)
  if orders.length > MAX_ORDER_EXPORT_ROWS then
    .error (s!"Export exceeds {MAX_ORDER_EXPORT_ROWS} orders. " ++
      "Narrow the Orders filters and try again.")
  else .ok orders

/-! ### Returns -/

structure ReturnCustomer where
  storeId : String
  name : Option String
  phone : String

structure ReturnRow where
  id : String
  storeId : String
  orderId : String
  externalOrderId : String
  orderName : Option String := none
  manualCustomerName : Option String := none
  manualCustomerPhone : Option String := none
  customer : Option ReturnCustomer := none
  status : ReturnRequestStatus
  createdAt : ℤ

inductive ReturnListStatus
  | all
  | needVerification
  | delayed
  | processed

structure ReturnListQuery where
  status : Option ReturnListStatus := none
  search : Option String := none
  page : Option ℕ+ := none
  limit : Option ℕ+ := none

def DELAYED_AFTER_MS : ℤ := 2 * 24 * 60 * 60 * 1000

/-- The term as it may stand in a telephone number: as it is, and without its punctuation. -/
def phoneTerms (term : String) : List String :=
  let punctuated := term ≠ "" && term.toList.all fun c =>
    c.isDigit || isSpace c || c ∈ ['+', '(', ')', '.', '-']
  let digits := String.ofList (term.toList.filter fun c => c.isDigit || c = '+')
  (term :: if punctuated then [digits] else []).eraseDups.filter (·.toList.any Char.isDigit)

def orderSearch (storeId term : String) (row : ReturnRow) : Bool :=
  row.orderId = term || database.containsInsensitive row.externalOrderId term ||
  row.orderName.any (database.containsInsensitive · term) ||
  row.manualCustomerName.any (database.containsInsensitive · term) ||
  (phoneTerms term).any (fun phone => row.manualCustomerPhone.any (database.contains · phone)) ||
  row.customer.any fun customer => customer.storeId = storeId &&
    (customer.name.any (database.containsInsensitive · term) ||
      (phoneTerms term).any (database.contains customer.phone))

def returnWhere (now : ℤ) (query : ReturnListQuery) (row : ReturnRow) : Bool :=
  row.storeId = storeId &&
  (truthy (query.search.map trim)).all (orderSearch database storeId · row) &&
  match query.status with
  | some .needVerification =>
    row.status = .needVerification && now - DELAYED_AFTER_MS < row.createdAt
  | some .delayed => row.status = .needVerification && row.createdAt ≤ now - DELAYED_AFTER_MS
  | some .processed => row.status = .processed
  | _ => true

def returnsBy : OrderBy ReturnRow := .desc ReturnRow.createdAt

def returnList (now : ℤ) (query : ReturnListQuery) (requests answer : List ReturnRow)
    : PageResponse ReturnRow :=
  findPage (requests.filter (returnWhere database storeId now query)) (query.page.getD 1)
    (query.limit.getD 20) answer

/-! ### Staff -/

structure StaffRow where
  id : String
  storeId : String
  name : String
  phone : String
  status : StaffStatus
  createdAt : ℤ

structure StaffListQuery where
  status : Option StaffStatus := none
  search : Option String := none
  page : Option ℕ+ := none
  limit : Option ℕ+ := none

def staffWhere (query : StaffListQuery) (staff : StaffRow) : Bool :=
  staff.storeId = storeId && query.status.all (staff.status = ·) &&
  (truthy query.search).all fun search =>
    database.containsInsensitive staff.name search || database.contains staff.phone search

def staffBy : OrderBy StaffRow := .desc StaffRow.createdAt

def staffList (query : StaffListQuery) (staff answer : List StaffRow) : PageResponse StaffRow :=
  findPage (staff.filter (staffWhere database storeId query)) (query.page.getD 1)
    (query.limit.getD 20) answer

/-! ### Storefront products -/

structure StorefrontProduct where
  id : String
  categoryId : String
  categoryIsActive : Bool
  name : String
  price : ℚ
  status : Catalogue.ShopProductStatus
  createdAt : ℤ

inductive ProductSort
  | newest
  | priceAsc
  | priceDesc
  | name

structure StorefrontQuery where
  categoryId : Option String := none
  search : Option String := none
  sort : Option ProductSort := none
  page : Option ℤ := none
  pageSize : Option ℤ := none

variable (query : StorefrontQuery)

def StorefrontQuery.size : ℕ :=
  (min 50 (max 1 (query.pageSize.getD 20))).toNat

def productWhere (product : StorefrontProduct) : Bool :=
  product.status = .active && product.categoryIsActive &&
  (truthy query.categoryId).all (product.categoryId = ·) &&
  (truthy query.search).all (database.containsInsensitive product.name <| trim ·)

def productsBy : Option ProductSort → OrderBy StorefrontProduct
  | some .priceAsc => .asc StorefrontProduct.price
  | some .priceDesc => .desc StorefrontProduct.price
  | some .name => @OrderBy.asc _ _ database.collation StorefrontProduct.name
  | _ => .desc StorefrontProduct.createdAt

def listProducts (products answer : List StorefrontProduct) : PageResponse StorefrontProduct :=
  findPage (products.filter (productWhere database query)) (max 1 (query.page.getD 1)).toNat
    query.size answer

/-! ### Paging through a list -/

/-- The rows of pages 1 to the last one, by the total of the first. -/
def allPages (list : ℕ+ → PageResponse ρ) : List ρ :=
  (List.range (totalPages (list 1).limit (list 1).total)).flatMap fun page =>
    (list page.succPNat).data

def PagesOnce (order : OrderBy ρ) (matching : List ρ) (list : ℕ+ → List ρ → PageResponse ρ) :
    Prop :=
  ∀ answers : ℕ+ → List ρ, (∀ page, Arranged order matching (answers page)) →
    (allPages fun page => list page (answers page)).Perm matching

/-- Whatever arrangement each query finds, the pages of the order list show the rows of the
spreadsheet. -/
def PagesMatchExport (matching : List Order) (list : ℕ+ → List Order → PageResponse Order) :
    Prop :=
  ∀ answers : ℕ+ → List Order, (∀ page, Arranged ordersBy matching (answers page)) →
    ∀ answer, Arranged (exportBy database) matching answer →
      ∀ orders, exportXlsx answer = .ok orders →
        (allPages fun page => list page (answers page)).Perm orders

variable {database} {order : OrderBy ρ} {matching : List ρ}

theorem Table.nodup_filter {id : ρ → String} (table : Table ρ id) (p : ρ → Bool) :
    (table.rows.filter p).Nodup :=
  table.unique.of_map.filter p

theorem StorefrontQuery.size_pos : 0 < query.size := by
  rw [StorefrontQuery.size]
  omega

theorem allPages_findPage (limit : ℕ) (answers : ℕ+ → List ρ) :
    (allPages fun page => findPage matching page limit (answers page)) =
      shown limit matching.length fun page => answers page.succPNat := by
  simp [allPages, findPage, shown]

theorem pagesOnce_iff {limit : ℕ} (hnodup : matching.Nodup) (hlimit : 0 < limit) :
    (PagesOnce order matching fun page => findPage matching page limit) ↔
      TiesOnOnePage order limit matching := by
  rw [← shown_perm_iff hnodup hlimit]
  constructor
  · intro h answers hanswers
    have := h (fun page => answers page.natPred) fun page => hanswers _
    rw [allPages_findPage] at this
    simpa using this
  · intro h answers hanswers
    rw [allPages_findPage]
    exact h _ fun page => hanswers _

section Export

variable {matching answer orders : List Order}

theorem exportXlsx_perm (hanswer : Arranged (exportBy database) matching answer)
    (h : exportXlsx answer = .ok orders) : orders.Perm matching := by
  simp only [exportXlsx] at h
  split at h
  · cases h
  · rename_i hle
    cases h
    rw [List.length_take] at hle
    rw [List.take_of_length_le (by omega)]
    exact hanswer.perm

theorem exportXlsx_ok (hanswer : Arranged (exportBy database) matching answer)
    (hlength : matching.length ≤ MAX_ORDER_EXPORT_ROWS) : exportXlsx answer = .ok answer := by
  rw [← hanswer.perm.length_eq] at hlength
  rw [exportXlsx, List.take_of_length_le (by omega)]
  exact if_neg (by omega)

theorem pagesMatchExport_iff {list : ℕ+ → List Order → PageResponse Order}
    (hlength : matching.length ≤ MAX_ORDER_EXPORT_ROWS) :
    PagesMatchExport database matching list ↔ PagesOnce ordersBy matching list := by
  constructor
  · intro h answers hanswers
    have hsort := arranged_mergeSort (exportBy database) matching
    exact (h answers hanswers _ hsort _ (exportXlsx_ok hsort hlength)).trans hsort.perm
  · intro h answers hanswers answer hanswer orders horders
    exact (h answers hanswers).trans (exportXlsx_perm hanswer horders).symm

end Export

/-- **The pages of the four lists show every row once, and those of the order list the rows of the
spreadsheet, exactly when rows that tie have their places on one page**. -/
theorem pagedLists (database : Database) (storeId : String) :
    (∀ (query : EcommerceOrderQuery) (orders : Table Order Order.id),
      let matching := orders.rows.filter (orderWhere database storeId query)
      let pages (page : ℕ+) :=
        listOrders database storeId { query with page := some page } orders.rows
      let ties := TiesOnOnePage ordersBy (query.limit.getD 20) matching
      (PagesOnce ordersBy matching pages ↔ ties) ∧
        (matching.length ≤ MAX_ORDER_EXPORT_ROWS →
          (PagesMatchExport database matching pages ↔ ties))) ∧
    (∀ (now : ℤ) (query : ReturnListQuery) (requests : Table ReturnRow ReturnRow.id),
      let matching := requests.rows.filter (returnWhere database storeId now query)
      (PagesOnce returnsBy matching fun page =>
          returnList database storeId now { query with page := some page } requests.rows) ↔
        TiesOnOnePage returnsBy (query.limit.getD 20) matching) ∧
    (∀ (query : StaffListQuery) (staff : Table StaffRow StaffRow.id),
      let matching := staff.rows.filter (staffWhere database storeId query)
      (PagesOnce staffBy matching fun page =>
          staffList database storeId { query with page := some page } staff.rows) ↔
        TiesOnOnePage staffBy (query.limit.getD 20) matching) ∧
    ∀ (query : StorefrontQuery) (products : Table StorefrontProduct StorefrontProduct.id),
      let matching := products.rows.filter (productWhere database query)
      (PagesOnce (productsBy database query.sort) matching fun page =>
          listProducts database { query with page := some (page : ℤ) } products.rows) ↔
        TiesOnOnePage (productsBy database query.sort) query.size matching := by
  refine ⟨fun query orders => ?_, fun now query requests => ?_, fun query staff => ?_,
    fun query products => ?_⟩
  · intro matching pages ties
    have honce : PagesOnce ordersBy matching pages ↔ ties :=
      pagesOnce_iff (orders.nodup_filter _) (query.limit.getD 20).pos
    exact ⟨honce, fun hlength => (pagesMatchExport_iff hlength).trans honce⟩
  · exact pagesOnce_iff (requests.nodup_filter _) (query.limit.getD 20).pos
  · exact pagesOnce_iff (staff.nodup_filter _) (query.limit.getD 20).pos
  · have hlist (page : ℕ+) (answer : List StorefrontProduct) :
        listProducts database { query with page := some (page : ℤ) } products.rows answer =
          findPage (products.rows.filter (productWhere database query)) page query.size answer := by
      have hpage : (max 1 (page : ℤ)).toNat = page := by
        have := page.pos
        omega
      rw [listProducts, Option.getD_some, hpage]
      rfl
    intro matching
    simp only [PagesOnce, hlist]
    exact pagesOnce_iff (products.nodup_filter _) query.size_pos

/-! ### Two orders of one moment -/

def sampleDatabase : Database where
  contains text term := decide (term.toList <:+: text.toList)
  containsInsensitive text term := decide (term.toLower.toList <:+: text.toLower.toList)
  collation := inferInstance

def sampleOrder (id : String) : Order :=
  { id, storeId := "s", platform := .shopify, externalOrderId := id, processedAt := 0 }

def sampleOrders : Table Order Order.id := ⟨[sampleOrder "a", sampleOrder "b"], by decide⟩

def sampleQuery : EcommerceOrderQuery := { limit := some 1 }

/-- The first page shows the order with which the second answer ends. -/
theorem pagedLists_sameMoment :
    ¬ PagesOnce ordersBy (sampleOrders.rows.filter (orderWhere sampleDatabase "s" sampleQuery))
      (fun page => listOrders sampleDatabase "s" { sampleQuery with page := some page }
        sampleOrders.rows) := by
  intro h
  have := h (fun page => if page = 1 then [sampleOrder "a", sampleOrder "b"]
    else [sampleOrder "b", sampleOrder "a"]) ?_
  · revert this
    decide +kernel
  · intro page
    split <;> exact ⟨by decide +kernel, by decide +kernel⟩

end Zomaal.PagedLists
