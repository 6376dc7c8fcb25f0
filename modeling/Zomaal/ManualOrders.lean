/-
**Manual orders and their retry keys.**

The key of a call, or where there is none the random id of the order, becomes the order's external
id, which is unique.  A call with a key looks for that order before it creates one and again when
the creation violates the unique index, and compares the request.  This module embeds
`createManualOrder` of `ecommerce.service.ts` and `manual-order-retry.ts`.

Main results:

* `ManualOrders.kept_prepare` — what is stored for a request;
* `ManualOrders.OrderRow.Kept.payload_eq` — **when a match field by field is the same request**.
-/

import Mathlib.Data.List.Sort
import Zomaal.JsText
import Zomaal.LineLosses
import Zomaal.OrderCondition
import Zomaal.ThreadPool

set_option autoImplicit false

namespace Zomaal.ManualOrders

/-! ### Requests -/

structure ManualOrderItemDto where
  productCode : String
  quantity : ℕ
  unitPrice : Option Decimal := none
  deriving DecidableEq

structure CreateManualOrderDto where
  idempotencyKey : Option String := none
  customerName : String
  customerPhone : String
  shippingAddress : String
  shippingCity : Option String := none
  shippingCountry : Option String := none
  notes : Option String := none
  currency : Option String := none
  shippingCost : Option Decimal := none
  items : List ManualOrderItemDto
  deriving DecidableEq

/-- What the validation of a request says: the phone number is not blank, and no amount has more
than four decimals. -/
structure CreateManualOrderDto.Valid (dto : CreateManualOrderDto) : Prop where
  customerPhone : JsText.trim dto.customerPhone ≠ ""
  unitPrice : ∀ item ∈ dto.items, ∀ price, item.unitPrice = some price → toFixed4 price = price
  shippingCost : ∀ cost, dto.shippingCost = some cost → toFixed4 cost = cost

/-- The key that `if (dto.idempotencyKey)` takes. -/
def CreateManualOrderDto.key (dto : CreateManualOrderDto) : Option String :=
  JsText.truthy dto.idempotencyKey

structure Payload where
  customerName : String
  customerPhone : String
  shippingAddress : String
  shippingCity : Option String
  shippingCountry : Option String
  notes : Option String
  currency : Option String
  shippingCost : Decimal
  items : List ManualOrderItemDto
  deriving DecidableEq

def CreateManualOrderDto.payload (dto : CreateManualOrderDto) : Payload where
  customerName := dto.customerName
  customerPhone := dto.customerPhone
  shippingAddress := dto.shippingAddress
  shippingCity := dto.shippingCity
  shippingCountry := dto.shippingCountry
  notes := dto.notes
  currency := dto.currency.map String.toUpper
  shippingCost := dto.shippingCost.getD 0
  items := dto.items

/-- Whether a request gives a currency, and for which of its items it gives a price. -/
def CreateManualOrderDto.given (dto : CreateManualOrderDto) : Bool × List Bool :=
  (dto.currency.isSome, dto.items.map fun item => item.unitPrice.isSome)

/-- The hash of a payload, which is taken to be injective. -/
structure Environment (φ : Type) where
  manualOrderRequestHash : Payload → φ
  injective : Function.Injective manualOrderRequestHash

/-! ### Stored orders -/

/-- A line; its external id is `manual-` with the index. -/
structure ManualLine where
  index : ℕ
  warehouseVariantId : String
  sku : String
  name : String
  quantity : ℕ
  unitPrice : Decimal
  totalPrice : Decimal
  currency : String
  deriving DecidableEq

/-- An order, with the fingerprint in the metadata of its `manual-request:v1` event.  The last field
is read by nothing: the request that created it. -/
structure OrderRow (φ : Type) where
  id : String
  externalOrderId : String
  currency : String
  itemCount : ℕ
  grossSales : Decimal
  netSales : Decimal
  shipping : Decimal
  totalCollected : Decimal
  shippingCity : Option String
  manualCustomerName : Option String
  manualCustomerPhone : Option String
  manualShippingAddress : Option String
  manualShippingCountry : Option String
  manualNotes : Option String
  customerId : Option String := none
  lines : List ManualLine
  requestFingerprint : Option φ
  origin : CreateManualOrderDto
  deriving DecidableEq

/-- The manual orders of a store, and the orders that `recordNewOrder` was called for. -/
structure OrderBook (φ : Type) where
  orders : List (OrderRow φ) := []
  recorded : List String := []

variable {φ : Type} [DecidableEq φ] (env : Environment φ)

/-! ### Finding the order of a retry -/

def ManualLine.matches (item : ManualOrderItemDto) (line : ManualLine) : Bool :=
  line.sku = item.productCode && line.quantity = item.quantity &&
    item.unitPrice.all fun price => line.unitPrice = price

variable (order : OrderRow φ)

/-- The comparison for orders that predate request fingerprints. -/
def OrderRow.matchesFields (dto : CreateManualOrderDto) : Bool :=
  let lines := order.lines.insertionSort fun line other => line.index ≤ other.index
  order.manualCustomerName = some dto.customerName &&
    order.manualCustomerPhone = some dto.customerPhone &&
    order.manualShippingAddress = some dto.shippingAddress &&
    order.shippingCity = dto.shippingCity &&
    order.manualShippingCountry = dto.shippingCountry &&
    order.manualNotes = dto.notes &&
    order.currency = (dto.currency.map String.toUpper).getD order.currency &&
    order.shipping = dto.shippingCost.getD 0 &&
    lines.length = dto.items.length &&
    (dto.items.zip lines).all fun entry => entry.2.matches entry.1

def OrderRow.matches (dto : CreateManualOrderDto) : Bool :=
  match order.requestFingerprint with
  | some fingerprint => fingerprint = env.manualOrderRequestHash dto.payload
  | none => order.matchesFields dto

def OrderBook.findByKey (book : OrderBook φ) (key : String) : Option (OrderRow φ) :=
  book.orders.find? fun order => order.externalOrderId = "MANUAL-" ++ key

def findManualOrderRetry (book : OrderBook φ) (dto : CreateManualOrderDto) :
    Except ServiceError (Option String) :=
  match dto.key with
  | none => .ok none
  | some key =>
    match book.findByKey key with
    | none => .ok none
    | some order =>
      if order.matches env dto then .ok (some order.id)
      else
        .error (.conflict
          "Idempotency key was already used with a different manual-order payload")

/-! ### The order that a request asks for -/

/-- A variant of the store's catalogue with its stored price. -/
structure CatalogueVariant where
  id : String
  productName : String
  price : Decimal
  stored : toFixed4 price = price

/-- What a statement finds: whether it fails, the store's currency, the catalogue, the random id,
and the customer with the phone number. -/
structure Moment where
  failure : Option ServiceError := none
  baseCurrency : String := "MAD"
  variants : String → Option CatalogueVariant := fun _ => none
  uuid : String := ""
  customerId : String := ""

/-- `Unknown product code(s): …`. -/
def unknownCodes (codes : List String) : ServiceError :=
  .badRequest ("Unknown product code(s): " ++ ", ".intercalate codes)

def Moment.prepareLine (moment : Moment) (currency : String) (entry : ManualOrderItemDto × ℕ) :
    Except ServiceError ManualLine :=
  let item := entry.1
  match moment.variants item.productCode with
  | none => .error (unknownCodes [item.productCode])
  | some variant => do
      let unitPrice := item.unitPrice.getD variant.price
      let totalPrice := unitPrice * item.quantity
      assertPersistedMoney unitPrice "Unit price"
      assertPersistedMoney totalPrice "Line total"
      return {
        index := entry.2
        warehouseVariantId := variant.id
        sku := item.productCode
        name := variant.productName
        quantity := item.quantity
        unitPrice := unitPrice
        totalPrice := totalPrice
        currency := currency }

/-- The order of a request, from its product codes to its totals. -/
def CreateManualOrderDto.prepare (dto : CreateManualOrderDto) (moment : Moment) :
    Except ServiceError (OrderRow φ) := do
  let currency := (dto.currency.getD moment.baseCurrency).toUpper
  let codes := dto.items.map ManualOrderItemDto.productCode
  let missing := codes.eraseDups.filter fun code => (moment.variants code).isNone
  if missing ≠ [] then throw (unknownCodes missing)
  let lines ← dto.items.zipIdx.mapM (moment.prepareLine currency)
  let grossSales := (lines.map ManualLine.totalPrice).sum
  let shipping := dto.shippingCost.getD 0
  let netSales := grossSales
  let totalCollected := netSales + shipping
  assertPersistedMoney grossSales "Gross sales"
  assertPersistedMoney shipping "Shipping cost"
  assertPersistedMoney totalCollected "Order total"
  return {
    id := moment.uuid
    externalOrderId := "MANUAL-" ++ dto.key.getD moment.uuid
    currency := currency
    itemCount := (lines.map ManualLine.quantity).sum
    grossSales := grossSales
    netSales := netSales
    shipping := shipping
    totalCollected := totalCollected
    shippingCity := dto.shippingCity
    manualCustomerName := some dto.customerName
    manualCustomerPhone := some dto.customerPhone
    manualShippingAddress := some dto.shippingAddress
    manualShippingCountry := dto.shippingCountry
    manualNotes := dto.notes
    lines := lines
    requestFingerprint := dto.key.map fun _ => env.manualOrderRequestHash dto.payload
    origin := dto }

def ManualLine.persisted (line : ManualLine) : ManualLine :=
  { line with
    unitPrice := toFixed4 line.unitPrice
    totalPrice := toFixed4 line.totalPrice }

def OrderRow.persisted : OrderRow φ :=
  { order with
    grossSales := toFixed4 order.grossSales
    netSales := toFixed4 order.netSales
    shipping := toFixed4 order.shipping
    totalCollected := toFixed4 order.totalCollected
    lines := order.lines.map ManualLine.persisted }

/-- The transaction: it may fail, as by a race for the store's connection. -/
def OrderBook.create (moment : Moment) (order : OrderRow φ) (book : OrderBook φ) :
    Except ServiceError (OrderBook φ) :=
  match moment.failure with
  | some error => .error error
  | none =>
    if book.orders.any fun other =>
        other.id = order.id || other.externalOrderId = order.externalOrderId then
      .error .uniqueConstraint
    else .ok { book with orders := book.orders ++ [order.persisted] }

/-! ### Calls -/

inductive Phase (φ : Type)
  | finding
  | readingVariants
  | upsertingCustomer (order : OrderRow φ)
  | committing (order : OrderRow φ)
  /-- `recordNewOrder`, whose errors are swallowed. -/
  | recording (id : String)
  /-- After the unique index was violated. -/
  | retrying
  /-- `getOrder`. -/
  | reading (id : String)
  | returned (id : String)
  | rejected (error : ServiceError)
  deriving DecidableEq

structure Call (φ : Type) where
  request : CreateManualOrderDto
  phase : Phase φ := .finding
  created : Option String := none

def Call.goTo (call : Call φ) (phase : Phase φ) : Call φ := { call with phase }

def Moment.orFailure (moment : Moment) (phase : Phase φ) : Phase φ :=
  match moment.failure with
  | some error => .rejected error
  | none => phase

/-- After looking for the order of a retry: answer with it, or go on. -/
def Call.answerOr (call : Call φ) (book : OrderBook φ) (next : Phase φ) : Phase φ :=
  match findManualOrderRetry env book call.request with
  | .error error => .rejected error
  | .ok (some id) => .reading id
  | .ok none => next

/-- The customer; `upsertCustomer` gives none for a blank phone number. -/
def Moment.customer (moment : Moment) (dto : CreateManualOrderDto) : Option String :=
  if JsText.trim dto.customerPhone = "" then none else some moment.customerId

def Call.turn (moment : Moment) (book : OrderBook φ) (call : Call φ) : OrderBook φ × Call φ :=
  match call.phase with
  | .finding => (book, call.goTo (moment.orFailure (call.answerOr env book .readingVariants)))
  | .readingVariants =>
    (book, call.goTo (moment.orFailure
      (match call.request.prepare env moment with
      | .error error => .rejected error
      | .ok order => .upsertingCustomer order)))
  | .upsertingCustomer order =>
    (book, call.goTo (moment.orFailure
      (.committing { order with customerId := moment.customer call.request })))
  | .committing order =>
    match book.create moment order with
    | .ok book =>
      (book,
        { call with
          phase := if order.customerId.isSome then .recording order.id else .reading order.id
          created := some order.id })
    | .error error =>
      (book, call.goTo
        (if error = .uniqueConstraint ∧ call.request.key.isSome then .retrying
          else .rejected error))
  | .recording id =>
    ({ book with recorded := book.recorded ++ [id] }, call.goTo (.reading id))
  | .retrying =>
    (book, call.goTo (moment.orFailure
      (call.answerOr env book (.rejected .uniqueConstraint))))
  | .reading id =>
    (book, call.goTo (moment.orFailure
      (if book.orders.any (·.id = id) then .returned id
        else .rejected (.notFound "Order not found"))))
  | .returned _ | .rejected _ => (book, call)

/-! ### What is stored for a request -/

structure ManualLine.Keeps (item : ManualOrderItemDto) (line : ManualLine) : Prop where
  sku : line.sku = item.productCode
  quantity : line.quantity = item.quantity
  unitPrice : ∀ price, item.unitPrice = some price → line.unitPrice = price

omit [DecidableEq φ] in
/-- **A stored order keeps what the request said that created it.**  Orders that predate
fingerprints have none. -/
structure OrderRow.Kept : Prop where
  externalOrderId : order.externalOrderId = "MANUAL-" ++ order.origin.key.getD order.id
  fingerprint : ∀ fingerprint, order.requestFingerprint = some fingerprint →
    fingerprint = env.manualOrderRequestHash order.origin.payload
  unkeyed : order.origin.key = none → order.requestFingerprint = none
  customerName : order.manualCustomerName = some order.origin.customerName
  customerPhone : order.manualCustomerPhone = some order.origin.customerPhone
  shippingAddress : order.manualShippingAddress = some order.origin.shippingAddress
  shippingCity : order.shippingCity = order.origin.shippingCity
  shippingCountry : order.manualShippingCountry = order.origin.shippingCountry
  notes : order.manualNotes = order.origin.notes
  currency : ∀ currency, order.origin.currency = some currency → order.currency = currency.toUpper
  shipping : order.shipping = order.origin.shippingCost.getD 0
  lines : List.Forall₂ ManualLine.Keeps order.origin.items order.lines
  sorted : order.lines.Pairwise fun line other => line.index ≤ other.index
  grossSales : order.grossSales = (order.lines.map ManualLine.totalPrice).sum
  totalCollected : order.totalCollected = order.grossSales + order.shipping

variable {env}

variable {moment : Moment} {currency : String}

theorem prepareLine_ok {entry : ManualOrderItemDto × ℕ} {line : ManualLine}
    (h : moment.prepareLine currency entry = .ok line) :
    ∃ variant, moment.variants entry.1.productCode = some variant ∧ line.index = entry.2 ∧
      line.sku = entry.1.productCode ∧ line.quantity = entry.1.quantity ∧
      line.unitPrice = entry.1.unitPrice.getD variant.price ∧
      line.totalPrice = line.unitPrice * line.quantity := by
  rw [Moment.prepareLine] at h
  split at h
  · cases h
  · rename_i variant hvariant
    obtain ⟨_, -, h⟩ := Except.bind_eq_ok h
    obtain ⟨_, -, h⟩ := Except.bind_eq_ok h
    obtain rfl := Except.ok.inj h
    exact ⟨variant, hvariant, rfl, rfl, rfl, rfl, rfl⟩

theorem prepareLine_stored {entry : ManualOrderItemDto × ℕ} {line : ManualLine}
    (h : moment.prepareLine currency entry = .ok line)
    (hprice : ∀ price, entry.1.unitPrice = some price → toFixed4 price = price) :
    line.persisted = line := by
  obtain ⟨variant, -, -, -, -, hunit, htotal⟩ := prepareLine_ok h
  have hstored : toFixed4 line.unitPrice = line.unitPrice := by
    rw [hunit]
    cases hgiven : entry.1.unitPrice with
    | none => exact variant.stored
    | some price => exact hprice price hgiven
  have hproduct : toFixed4 line.totalPrice = line.totalPrice := by
    rw [htotal]
    exact toFixed4_mul_natCast hstored line.quantity
  rw [ManualLine.persisted, hstored, hproduct]

theorem prepareLines_ok {items : List ManualOrderItemDto} {lines : List ManualLine}
    (h : items.zipIdx.mapM (moment.prepareLine currency) = .ok lines)
    (hprice : ∀ item ∈ items, ∀ price, item.unitPrice = some price → toFixed4 price = price) :
    List.Forall₂ ManualLine.Keeps items lines ∧
      (lines.Pairwise fun line other => line.index ≤ other.index) ∧
      lines.map ManualLine.persisted = lines ∧
      ∀ total ∈ lines.map ManualLine.totalPrice, toFixed4 total = total := by
  have hlines := Except.mapM_eq_ok h
  have hkeeps : List.Forall₂ (fun entry line => ManualLine.Keeps entry.1 line) items.zipIdx lines :=
    hlines.imp fun entry line hline => by
      obtain ⟨variant, -, -, hsku, hquantity, hunit, -⟩ := prepareLine_ok hline
      refine ⟨hsku, hquantity, fun price hgiven => ?_⟩
      rw [hunit, hgiven, Option.getD_some]
  have hindex : lines.map ManualLine.index = List.range' 0 items.length := by
    have hforall : List.Forall₂ (fun (entry : ManualOrderItemDto × ℕ) (line : ManualLine) =>
        entry.2 = line.index) items.zipIdx lines :=
      hlines.imp fun entry line hline => by
        obtain ⟨variant, -, hindex, -⟩ := prepareLine_ok hline
        exact hindex.symm
    have heq : items.zipIdx.map Prod.snd = lines.map ManualLine.index := by
      rw [← List.forall₂_eq_eq_eq, List.forall₂_map_left_iff, List.forall₂_map_right_iff]
      exact hforall
    rw [← heq, List.zipIdx_map_snd]
  have hstored : ∀ line ∈ lines, line.persisted = line := by
    intro line hline
    obtain ⟨entry, hentry, hprepared⟩ := Except.exists_of_mapM h hline
    exact prepareLine_stored hprepared (hprice entry.1 (List.fst_mem_of_mem_zipIdx hentry))
  refine ⟨?_, ?_, ?_, fun total htotal => ?_⟩
  · have hfst := List.forall₂_map_left_iff (f := Prod.fst).2 hkeeps
    rwa [List.zipIdx_map_fst] at hfst
  · have hsorted : (lines.map ManualLine.index).Pairwise (· ≤ ·) := by
      rw [hindex]
      exact List.pairwise_le_range'
    exact List.pairwise_map.1 hsorted
  · exact List.map_congr_left (g := id) hstored |>.trans (List.map_id _)
  · obtain ⟨line, hline, rfl⟩ := List.mem_map.1 htotal
    exact congrArg ManualLine.totalPrice (hstored line hline)

variable {dto : CreateManualOrderDto}

omit [DecidableEq φ] in
theorem kept_prepare (hvalid : dto.Valid) {order : OrderRow φ}
    (h : dto.prepare env moment = .ok order) :
    order.origin = dto ∧
      ∀ customerId, ({ order with customerId := customerId } : OrderRow φ).persisted.Kept env := by
  rw [CreateManualOrderDto.prepare] at h
  dsimp only at h
  split at h
  · cases h
  obtain ⟨lines, hlines, h⟩ := Except.bind_eq_ok h
  obtain ⟨_, -, h⟩ := Except.bind_eq_ok h
  obtain ⟨_, -, h⟩ := Except.bind_eq_ok h
  obtain ⟨_, -, h⟩ := Except.bind_eq_ok h
  obtain rfl := Except.ok.inj h
  obtain ⟨hkeeps, hsorted, hstored, htotals⟩ := prepareLines_ok hlines hvalid.unitPrice
  have hgross : toFixed4 (lines.map ManualLine.totalPrice).sum =
      (lines.map ManualLine.totalPrice).sum := toFixed4_sum htotals
  have hshipping : toFixed4 (dto.shippingCost.getD 0) = dto.shippingCost.getD 0 := by
    cases hcost : dto.shippingCost with
    | none => exact toFixed4_zero
    | some cost => exact hvalid.shippingCost cost hcost
  refine ⟨rfl, fun customerId => ?_⟩
  constructor
  case fingerprint =>
    intro fingerprint hfingerprint
    obtain ⟨_, -, rfl⟩ := Option.map_eq_some_iff.1 hfingerprint
    rfl
  case unkeyed =>
    intro hkey
    exact Option.map_eq_none_iff.2 hkey
  case currency =>
    intro currency hcurrency
    dsimp only [OrderRow.persisted] at hcurrency ⊢
    rw [hcurrency, Option.getD_some]
  case shipping => exact hshipping
  case lines =>
    dsimp only [OrderRow.persisted]
    rw [hstored]
    exact hkeeps
  case sorted =>
    dsimp only [OrderRow.persisted]
    rw [hstored]
    exact hsorted
  case grossSales =>
    dsimp only [OrderRow.persisted]
    rw [hstored]
    exact hgross
  case totalCollected =>
    dsimp only [OrderRow.persisted]
    rw [hgross, hshipping]
    exact toFixed4_add hgross hshipping
  all_goals rfl

/-! ### The comparison field by field -/

theorem items_eq {items others : List ManualOrderItemDto} {lines : List ManualLine}
    (hkeeps : List.Forall₂ ManualLine.Keeps items lines) (hlength : lines.length = others.length)
    (hmatches : ((others.zip lines).all fun entry => entry.2.matches entry.1) = true)
    (hgiven : items.map (fun item => item.unitPrice.isSome) =
      others.map fun item => item.unitPrice.isSome) :
    items = others := by
  induction hkeeps generalizing others with
  | nil => exact (List.length_eq_zero_iff.1 hlength.symm).symm
  | @cons item line items lines hitem _ ih =>
    cases others with
    | nil => cases hlength
    | cons other others =>
      rw [List.zip_cons_cons, List.all_cons, Bool.and_eq_true] at hmatches
      rw [List.map_cons, List.map_cons, List.cons.injEq] at hgiven
      have hrest := ih (Nat.succ.inj hlength) hmatches.2 hgiven.2
      have hhead := hmatches.1
      rw [ManualLine.matches, Bool.and_eq_true, Bool.and_eq_true, decide_eq_true_eq,
        decide_eq_true_eq] at hhead
      obtain ⟨⟨hsku, hquantity⟩, hprice⟩ := hhead
      have hsame : item.unitPrice = other.unitPrice := by
        cases hone : item.unitPrice with
        | none =>
          rw [hone] at hgiven
          have hnone := Option.isSome_eq_false_iff.1 hgiven.1.symm
          exact (Option.isNone_iff_eq_none.1 hnone).symm
        | some price =>
          rw [hone] at hgiven
          obtain ⟨price', hprice'⟩ := Option.isSome_iff_exists.1 hgiven.1.symm
          rw [hprice', Option.all_some, decide_eq_true_eq] at hprice
          rw [hprice', ← hprice, hitem.unitPrice price hone]
      have hcode := hitem.sku.symm.trans hsku
      have hcount := hitem.quantity.symm.trans hquantity
      obtain ⟨code, count, unitPrice⟩ := item
      obtain ⟨code', count', unitPrice'⟩ := other
      obtain rfl : code = code' := hcode
      obtain rfl : count = count' := hcount
      obtain rfl : unitPrice = unitPrice' := hsame
      rw [hrest]

omit [DecidableEq φ] in
theorem OrderRow.Kept.payload_eq {order : OrderRow φ} (h : order.Kept env)
    (hmatches : order.matchesFields dto = true) (hgiven : order.origin.given = dto.given) :
    order.origin.payload = dto.payload := by
  have hsort : order.lines.insertionSort (fun line other => line.index ≤ other.index) =
      order.lines := h.sorted.insertionSort_eq
  rw [OrderRow.matchesFields, hsort] at hmatches
  simp only [Bool.and_eq_true, decide_eq_true_eq] at hmatches
  obtain ⟨⟨⟨⟨⟨⟨⟨⟨⟨hname, hphone⟩, haddress⟩, hcity⟩, hcountry⟩, hnotes⟩, hcurrency⟩, hshipping⟩,
    hlength⟩, hlines⟩ := hmatches
  obtain ⟨hgivenCurrency, hgivenPrices⟩ := Prod.mk.inj hgiven
  have hitems := items_eq h.lines hlength hlines hgivenPrices
  have hsame : order.origin.currency.map String.toUpper = dto.currency.map String.toUpper := by
    cases hone : order.origin.currency with
    | none =>
      rw [hone] at hgivenCurrency
      rw [Option.isNone_iff_eq_none.1 (Option.isSome_eq_false_iff.1 hgivenCurrency.symm)]
    | some currency =>
      rw [hone] at hgivenCurrency
      obtain ⟨other, hother⟩ := Option.isSome_iff_exists.1 hgivenCurrency.symm
      rw [hother, Option.map_some, Option.getD_some] at hcurrency
      rw [hother, Option.map_some, Option.map_some, ← hcurrency, h.currency currency hone]
  rw [CreateManualOrderDto.payload, CreateManualOrderDto.payload, hitems, hsame,
    ← h.shippingCity.symm.trans hcity, ← h.shippingCountry.symm.trans hcountry,
    ← h.notes.symm.trans hnotes, ← h.shipping.symm.trans hshipping,
    Option.some.inj (h.customerName.symm.trans hname),
    Option.some.inj (h.customerPhone.symm.trans hphone),
    Option.some.inj (h.shippingAddress.symm.trans haddress)]

theorem given_of_payload {other : CreateManualOrderDto} (h : dto.payload = other.payload) :
    dto.given = other.given := by
  have hcurrency : dto.currency.map String.toUpper = other.currency.map String.toUpper :=
    congrArg Payload.currency h
  have hitems : dto.items = other.items := congrArg Payload.items h
  have hsome := congrArg Option.isSome hcurrency
  rw [Option.isSome_map, Option.isSome_map] at hsome
  rw [CreateManualOrderDto.given, CreateManualOrderDto.given, hsome, hitems]

end Zomaal.ManualOrders
