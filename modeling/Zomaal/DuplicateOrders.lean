/-
**Duplicate orders: how they are found and how they are cancelled.**

Duplicates are orders of one customer placed within a day of the group's first order that share a
product with an order of the group.  Groups are computed from the orders whenever they are needed,
and only the merchant's decisions are kept.  Cancelling selected orders is one transaction under the
store's lock, given here statement by statement.  Dispatches and reviews are functions from the
order's identifier, so that there is at most one row an order.

Main results:

* `CancelTx.start_remaining` — a cancellation starts only if every group keeps an order.
-/

import Mathlib.Data.List.Sort
import Mathlib.Data.Finset.Basic
import Zomaal.JsText
import Zomaal.Store

set_option autoImplicit false

namespace Zomaal

/-! ### The stored rows -/

inductive EcommercePlatform
  | shopify
  | youcan
  | lightfunnels
  | manual
  deriving DecidableEq

inductive EcommerceOrderStatus
  | open
  | closed
  | cancelled
  | unknown
  deriving DecidableEq

/-- What the search for duplicates reads of an order line. -/
structure DuplicateLineInput where
  warehouseVariantId : Option String := none
  externalProductId : Option String := none
  externalVariantId : Option String := none
  sku : Option String := none
  name : String
  deriving DecidableEq

structure OrderRow where
  id : String
  storeId : String
  connectionId : String
  platform : EcommercePlatform
  orderName : Option String := none
  customerId : Option String := none
  status : EcommerceOrderStatus := .open
  providerCreatedAt : ℤ := 0
  cancelledAt : Option ℤ := none
  lines : List DuplicateLineInput := []
  deriving DecidableEq

inductive DispatchStatus
  | pending
  | dispatched
  | failed
  | cancelled
  deriving DecidableEq

structure OrderDispatch where
  provider : String
  merchantTracking : String
  providerTracking : Option String := none
  status : DispatchStatus := .pending

inductive DuplicateOrderDecision
  | kept
  | cancelled
  deriving DecidableEq

structure DuplicateOrderReview where
  storeId : String
  orderId : String
  mainOrderId : Option String
  decision : DuplicateOrderDecision
  decidedByUserId : String

structure FulfilmentDb where
  orders : List OrderRow := []
  dispatches : String → Option OrderDispatch := fun _ => none
  reviews : String → Option DuplicateOrderReview := fun _ => none

/-! ### Matching lines -/

section Matching

-- `String.prototype.toLowerCase`, which needs the Unicode tables
variable (toLowerCase : String → String)

/-- `name.trim().toLowerCase().replace(/\s+/g, ' ')`. -/
def normalizedName (line : DuplicateLineInput) : String :=
  JsText.collapseSpaces (toLowerCase (JsText.trim line.name))

/-- `sku?.trim().toLowerCase()`, when it is not empty. -/
def normalizedSku (line : DuplicateLineInput) : Option String :=
  JsText.truthy (line.sku.map fun sku => toLowerCase (JsText.trim sku))

variable (a b : DuplicateLineInput)

/-- Whether two lines have the same external product, for lines of one connection that both name
one. -/
def sameExternalProduct (sameConnection : Bool) : Option Bool :=
  if sameConnection then
    match JsText.truthy a.externalProductId, JsText.truthy b.externalProductId with
    | some left, some right => some (left = right)
    | _, _ => none
  else none

/-- The comparison of the texts of two lines, when their identifiers do not decide. -/
def weakLinesMatch (sameConnection : Bool) : Bool :=
  match normalizedSku toLowerCase a, normalizedSku toLowerCase b with
  | some left, some right => left = right
  | _, _ =>
    match sameExternalProduct a b sameConnection with
    | some same => same
    | none =>
      normalizedName toLowerCase a ≠ "" &&
        normalizedName toLowerCase a = normalizedName toLowerCase b

/-- Whether two lines have the same external variant, for lines of one connection that both name
one. -/
def sameExternalVariant (sameConnection : Bool) : Option Bool :=
  if sameConnection then
    match JsText.truthy a.externalVariantId, JsText.truthy b.externalVariantId with
    | some left, some right => some (left = right)
    | _, _ => none
  else none

/-- A weaker title or SKU match does not override conflicting known identities. -/
def duplicateLinesMatch (a : DuplicateLineInput) (aConnection : String) (b : DuplicateLineInput)
    (bConnection : String) : Bool :=
  let sameConnection : Bool := aConnection = bConnection
  match JsText.truthy a.warehouseVariantId, JsText.truthy b.warehouseVariantId with
  | some left, some right => left = right
  | _, _ =>
    match sameExternalVariant a b sameConnection with
    | some same => same
    | none =>
      if sameExternalProduct a b sameConnection = some false then false
      else weakLinesMatch toLowerCase a b sameConnection

def ordersMatch (a b : OrderRow) : Bool :=
  a.lines.any fun left => b.lines.any fun right =>
    duplicateLinesMatch toLowerCase left a.connectionId right b.connectionId

end Matching

/-! ### Groups -/

structure DuplicateCluster where
  main : OrderRow
  duplicates : List OrderRow := []
  deriving DecidableEq

namespace DuplicateCluster

def members (cluster : DuplicateCluster) : List OrderRow := cluster.main :: cluster.duplicates

def admits (windowMs : ℤ) (ordersMatch : OrderRow → OrderRow → Bool) (cluster : DuplicateCluster)
    (order : OrderRow) : Bool :=
  order.providerCreatedAt - cluster.main.providerCreatedAt ≤ windowMs &&
    cluster.members.any (ordersMatch order)

def place (windowMs : ℤ) (ordersMatch : OrderRow → OrderRow → Bool) (order : OrderRow) :
    List DuplicateCluster → List DuplicateCluster
  | [] => [{ main := order }]
  | cluster :: opened =>
    if cluster.admits windowMs ordersMatch order then
      { cluster with duplicates := cluster.duplicates ++ [order] } :: opened
    else cluster :: place windowMs ordersMatch order opened

end DuplicateCluster

/-- `a.placedAt.getTime() - b.placedAt.getTime() || a.id.localeCompare(b.id)`, for identifiers that
are UUIDs in lower case. -/
def placedBefore (a b : OrderRow) : Prop :=
  a.providerCreatedAt < b.providerCreatedAt ∨
    a.providerCreatedAt = b.providerCreatedAt ∧ a.id ≤ b.id

instance (a b : OrderRow) : Decidable (placedBefore a b) :=
  inferInstanceAs (Decidable (_ ∨ _ ∧ _))

def clusterCustomerOrders (windowMs : ℤ) (ordersMatch : OrderRow → OrderRow → Bool)
    (orders : List OrderRow) : List DuplicateCluster :=
  (((orders.insertionSort placedBefore).foldl
    (fun opened order => DuplicateCluster.place windowMs ordersMatch order opened) [])).filter
      fun cluster => !cluster.duplicates.isEmpty

/-- The groups of each customer's orders, the customers in the order of their first appearance. -/
def clusterDuplicateOrders (windowMs : ℤ) (ordersMatch : OrderRow → OrderRow → Bool)
    (orders : List OrderRow) : List DuplicateCluster :=
  (orders.filterMap OrderRow.customerId).eraseDups.flatMap fun customerId =>
    clusterCustomerOrders windowMs ordersMatch
      (orders.filter fun order => order.customerId = some customerId)

def dayMs : ℤ := 86400000

/-- Orders from the same customer this close together can be duplicates. -/
def duplicateWindowMs : ℤ := 24 * 3600000

/-- Orders this far before the visible range still decide which order is the main one. -/
def lookbackMarginMs : ℤ := 7 * dayMs

/-- What `detect` is asked for. -/
structure DetectRange where
  start : ℤ
  stop : ℤ
  customerIds : Option (List String) := none

namespace FulfilmentDb

variable (toLowerCase : String → String)

variable (db : FulfilmentDb)

/-- The orders that can be in a group: neither cancelled nor reviewed, and placed in the range. -/
def candidates (storeId : String) (range : DetectRange) : List OrderRow :=
  db.orders.filter fun order =>
    order.storeId = storeId && order.status ≠ .cancelled && (db.reviews order.id).isNone &&
      range.start ≤ order.providerCreatedAt && order.providerCreatedAt < range.stop &&
      match range.customerIds with
      | some customerIds => order.customerId.any (· ∈ customerIds)
      | none => order.customerId.isSome

/-- The customers a search without given customers looks at: those with more than one order. -/
def repeatCustomers (orders : List OrderRow) : List String :=
  (orders.filterMap OrderRow.customerId).eraseDups.filter fun customerId =>
    1 < (orders.filterMap OrderRow.customerId).count customerId

def detect (storeId : String) (range : DetectRange) : List DuplicateCluster :=
  let rows := db.candidates storeId range
  let customerIds := match range.customerIds with
    | some customerIds => customerIds
    | none => repeatCustomers rows
  clusterDuplicateOrders duplicateWindowMs (ordersMatch toLowerCase)
    (rows.filter fun order => order.customerId.any (· ∈ customerIds))

/-- The groups of the customers who placed the given orders, around the times of these. -/
def clustersContaining (storeId : String) (orderIds : List String) :
    Except ServiceError (List DuplicateCluster) :=
  let orders := db.orders.filter fun order => order.id ∈ orderIds && order.storeId = storeId
  let customerIds := (orders.filterMap OrderRow.customerId).eraseDups
  if orders.length ≠ orderIds.length then .error (.notFound "Order not found")
  else if customerIds = [] then .ok []
  else
    match orders.map OrderRow.providerCreatedAt with
    | [] => .ok []
    | first :: rest =>
      .ok (db.detect toLowerCase storeId
        { start := rest.foldl min first - lookbackMarginMs
          stop := rest.foldl max first + lookbackMarginMs
          customerIds := some customerIds })

end FulfilmentDb

/-! ### What is in a group -/

namespace DuplicateCluster

variable {windowMs : ℤ} {ordersMatch : OrderRow → OrderRow → Bool}

theorem mem_members_place {order : OrderRow} {opened : List DuplicateCluster}
    {cluster : DuplicateCluster} (hc : cluster ∈ place windowMs ordersMatch order opened)
    {row : OrderRow} (hrow : row ∈ cluster.members) :
    row = order ∨ ∃ before ∈ opened, row ∈ before.members := by
  induction opened with
  | nil =>
    rw [place, List.mem_singleton] at hc
    subst hc
    exact Or.inl (List.mem_singleton.1 hrow)
  | cons first opened ih =>
    rw [place] at hc
    split at hc
    · rcases List.mem_cons.1 hc with rfl | hc
      · rw [members, ← List.cons_append] at hrow
        rcases List.mem_append.1 hrow with hold | hnew
        · exact Or.inr ⟨first, List.mem_cons_self .., hold⟩
        · exact Or.inl (List.mem_singleton.1 hnew)
      · exact Or.inr ⟨cluster, List.mem_cons_of_mem _ hc, hrow⟩
    · rcases List.mem_cons.1 hc with rfl | hc
      · exact Or.inr ⟨cluster, List.mem_cons_self .., hrow⟩
      · rcases ih hc with heq | ⟨before, hbefore, hmem⟩
        · exact Or.inl heq
        · exact Or.inr ⟨before, List.mem_cons_of_mem _ hbefore, hmem⟩

theorem mem_members_foldl_place {orders : List OrderRow} {opened : List DuplicateCluster}
    {cluster : DuplicateCluster}
    (hc : cluster ∈ orders.foldl
      (fun opened order => place windowMs ordersMatch order opened) opened)
    {row : OrderRow} (hrow : row ∈ cluster.members) :
    row ∈ orders ∨ ∃ before ∈ opened, row ∈ before.members := by
  induction orders generalizing opened with
  | nil => exact Or.inr ⟨cluster, hc, hrow⟩
  | cons order orders ih =>
    rcases ih hc with hmem | ⟨before, hbefore, hmem⟩
    · exact Or.inl (List.mem_cons_of_mem _ hmem)
    · rcases mem_members_place hbefore hmem with rfl | hold
      · exact Or.inl (List.mem_cons_self ..)
      · exact Or.inr hold

end DuplicateCluster

variable {cluster : DuplicateCluster} {row : OrderRow}

theorem mem_clusterDuplicateOrders {windowMs : ℤ} {ordersMatch : OrderRow → OrderRow → Bool}
    {orders : List OrderRow} (hc : cluster ∈ clusterDuplicateOrders windowMs ordersMatch orders)
    (hrow : row ∈ cluster.members) : row ∈ orders := by
  obtain ⟨customerId, _, hc⟩ := List.mem_flatMap.1 hc
  have hfold := (List.mem_filter.1 hc).1
  rcases DuplicateCluster.mem_members_foldl_place hfold hrow with hmem | ⟨_, hnil, _⟩
  · exact (List.mem_filter.1 ((List.mem_insertionSort placedBefore).1 hmem)).1
  · exact absurd hnil List.not_mem_nil

namespace FulfilmentDb

variable {toLowerCase : String → String}

/-- **The members of a group are stored orders that are neither cancelled nor reviewed.** -/
theorem mem_detect {db : FulfilmentDb} {storeId : String} {range : DetectRange}
    (hc : cluster ∈ db.detect toLowerCase storeId range) (hrow : row ∈ cluster.members) :
    row ∈ db.orders ∧ row.status ≠ .cancelled ∧ db.reviews row.id = none := by
  have hmem := (List.mem_filter.1 (mem_clusterDuplicateOrders hc hrow)).1
  obtain ⟨hstored, hcandidate⟩ := List.mem_filter.1 hmem
  simp only [Bool.and_eq_true, decide_eq_true_eq, Option.isNone_iff_eq_none] at hcandidate
  exact ⟨hstored, hcandidate.1.1.1.1.2, hcandidate.1.1.1.2⟩

theorem mem_clustersContaining {db : FulfilmentDb} {storeId : String} {orderIds : List String}
    {clusters : List DuplicateCluster}
    (h : db.clustersContaining toLowerCase storeId orderIds = .ok clusters)
    (hc : cluster ∈ clusters) (hrow : row ∈ cluster.members) :
    row ∈ db.orders ∧ row.status ≠ .cancelled ∧ db.reviews row.id = none := by
  rw [clustersContaining] at h
  split at h
  · cases h
  · split at h
    · obtain rfl := Except.ok.inj h
      exact absurd hc List.not_mem_nil
    · split at h
      · obtain rfl := Except.ok.inj h
        exact absurd hc List.not_mem_nil
      · obtain rfl := Except.ok.inj h
        exact mem_detect hc hrow

end FulfilmentDb

/-! ### Cancelling orders of a group -/

/-- `label(row)`. -/
def OrderRow.label (row : OrderRow) : String :=
  match JsText.truthy row.orderName with
  | some name => "Order " ++ name
  | none => "Order " ++ String.ofList (row.id.toList.take 8)

structure SelectedOrder where
  cluster : DuplicateCluster
  order : OrderRow

/-- `groupOf.get(orderId)`: the last group with the order as a member. -/
def selectOrder (clusters : List DuplicateCluster) (orderId : String) : Option SelectedOrder :=
  clusters.reverse.findSome? fun cluster =>
    (cluster.members.find? fun row => row.id = orderId).map fun row => ⟨cluster, row⟩

/-- A write of a cancellation: the review of an order, or the status of a manual order. -/
inductive CancelWrite
  | review (row : DuplicateOrderReview)
  | status (orderId : String) (now : ℤ)

namespace CancelWrite

def orderId : CancelWrite → String
  | .review row => row.orderId
  | .status orderId _ => orderId

def apply (db : FulfilmentDb) : CancelWrite → FulfilmentDb
  | .review row => { db with reviews := Function.update db.reviews row.orderId (some row) }
  | .status orderId now =>
    { db with
      orders := db.orders.map fun order =>
        if order.id = orderId ∧ order.status ≠ .cancelled then
          { order with status := .cancelled, cancelledAt := some now }
        else order }

end CancelWrite

structure CancelledOrder where
  orderId : String
  orderName : Option String
  platform : EcommercePlatform
  platformCancelRequired : Bool

/-- A cancellation under way: what it was asked, what it computed when it started, and what it wrote
and has not committed. -/
structure CancelTx where
  storeId : String
  userId : String
  now : ℤ
  orderIds : List String
  clusters : List DuplicateCluster
  selected : List SelectedOrder
  writes : List CancelWrite := []
  cancelled : List CancelledOrder := []

namespace CancelTx

def start (toLowerCase : String → String) (db : FulfilmentDb) (storeId userId : String) (now : ℤ)
    (orderIds : List String) : Except ServiceError CancelTx :=
  match db.clustersContaining toLowerCase storeId orderIds with
  | .error error => .error error
  | .ok clusters =>
    let missing := orderIds.filter fun orderId => (selectOrder clusters orderId).isNone
    match clusters.find? fun cluster => cluster.members.all fun row => row.id ∈ orderIds with
    | some cluster =>
      .error (.badRequest ("Keep at least one order from the group of " ++ cluster.main.label))
    | none =>
      if missing ≠ [] then
        .error (.badRequest ("Not in a duplicate group: " ++ ", ".intercalate missing))
      else
        .ok { storeId, userId, now, orderIds, clusters
              selected := orderIds.filterMap (selectOrder clusters) }

def mainOrderId (tx : CancelTx) (selected : SelectedOrder) : Option String :=
  if selected.cluster.main.id = selected.order.id then
    (selected.cluster.duplicates.find? fun row => row.id ∉ tx.orderIds).map OrderRow.id
  else some selected.cluster.main.id

def orderWrites (tx : CancelTx) (selected : SelectedOrder) : List CancelWrite :=
  CancelWrite.review
    { storeId := tx.storeId, orderId := selected.order.id, mainOrderId := tx.mainOrderId selected
      decision := .cancelled, decidedByUserId := tx.userId } ::
    if selected.order.platform = .manual then [CancelWrite.status selected.order.id tx.now] else []

/-- One turn of the loop: the order's dispatch is read again, and its review is written. -/
def cancelOrder (db : FulfilmentDb) (tx : CancelTx) (selected : SelectedOrder) :
    Except ServiceError CancelTx :=
  let order := selected.order
  if (db.dispatches order.id).any fun dispatch => dispatch.status ≠ .failed then
    .error (.conflict
      (order.label ++ " was already sent to a courier and can't be cancelled here"))
  else if (db.reviews order.id).isSome || tx.writes.any fun write => write.orderId = order.id then
    .error (.conflict "One of these orders was already reviewed — refresh the list")
  else
    .ok { tx with
      writes := tx.writes ++ tx.orderWrites selected
      cancelled := tx.cancelled ++ [{ orderId := order.id, orderName := order.orderName
                                      platform := order.platform
                                      platformCancelRequired := order.platform ≠ .manual }] }

def commit (db : FulfilmentDb) (tx : CancelTx) : FulfilmentDb := tx.writes.foldl CancelWrite.apply db

end CancelTx

def cancelDuplicateOrders (toLowerCase : String → String) (db : FulfilmentDb)
    (storeId userId : String) (now : ℤ) (orderIds : List String) :
    Except ServiceError (List CancelledOrder × FulfilmentDb) := do
  let started ← CancelTx.start toLowerCase db storeId userId now orderIds
  let tx ← started.selected.foldlM (CancelTx.cancelOrder db) started
  return (tx.cancelled, tx.commit db)

/-! ### What a cancellation writes -/

variable {selected : SelectedOrder} {orderId : String}

theorem selectOrder_id {clusters : List DuplicateCluster}
    (h : selectOrder clusters orderId = some selected) : selected.order.id = orderId := by
  obtain ⟨cluster, _, hfound⟩ := List.exists_of_findSome?_eq_some h
  obtain ⟨row, hrow, rfl⟩ := Option.map_eq_some_iff.1 hfound
  simpa using List.find?_some hrow

namespace CancelWrite

@[simp] theorem apply_dispatches (db : FulfilmentDb) (write : CancelWrite) :
    (write.apply db).dispatches = db.dispatches := by
  cases write <;> rfl

theorem apply_reviews_of_ne {db : FulfilmentDb} {write : CancelWrite}
    (h : write.orderId ≠ orderId) : (write.apply db).reviews orderId = db.reviews orderId := by
  cases write with
  | review row => exact Function.update_of_ne (Ne.symm h) _ _
  | status _ _ => rfl

theorem mem_apply_orders_of_ne {db : FulfilmentDb} {write : CancelWrite} (hrow : row ∈ db.orders)
    (h : write.orderId ≠ row.id) : row ∈ (write.apply db).orders := by
  cases write with
  | review _ => exact hrow
  | status orderId now =>
    refine List.mem_map.2 ⟨row, hrow, ?_⟩
    rw [if_neg fun hid => h hid.1.symm]

end CancelWrite

theorem foldl_apply_of_notMem (writes : List CancelWrite) (db : FulfilmentDb)
    (h : ∀ write ∈ writes, write.orderId ≠ orderId) :
    (writes.foldl CancelWrite.apply db).reviews orderId = db.reviews orderId ∧
      ∀ row ∈ db.orders, row.id = orderId → row ∈ (writes.foldl CancelWrite.apply db).orders := by
  induction writes generalizing db with
  | nil => exact ⟨rfl, fun row hrow _ => hrow⟩
  | cons write writes ih =>
    have hne := h write (List.mem_cons_self ..)
    obtain ⟨hreviews, horders⟩ := ih (write.apply db)
      fun other hother => h other (List.mem_cons_of_mem _ hother)
    refine ⟨hreviews.trans (CancelWrite.apply_reviews_of_ne hne), fun row hrow hid => ?_⟩
    exact horders row (CancelWrite.mem_apply_orders_of_ne hrow (hid ▸ hne)) hid

theorem foldl_apply_dispatches (writes : List CancelWrite) (db : FulfilmentDb) :
    (writes.foldl CancelWrite.apply db).dispatches = db.dispatches := by
  induction writes generalizing db with
  | nil => rfl
  | cons write writes ih => exact (ih _).trans (CancelWrite.apply_dispatches db write)

namespace CancelTx

variable {toLowerCase : String → String} {db : FulfilmentDb} {tx tx' : CancelTx}

/-- Every group keeps an order that was not selected, and the members of the groups are stored, not
cancelled and not reviewed. -/
structure Started (db : FulfilmentDb) (tx : CancelTx) : Prop where
  remaining : ∀ cluster ∈ tx.clusters, ∃ row ∈ cluster.members, row.id ∉ tx.orderIds
  members : ∀ cluster ∈ tx.clusters, ∀ row ∈ cluster.members,
    row ∈ db.orders ∧ row.status ≠ .cancelled ∧ db.reviews row.id = none
  selected : ∀ selected ∈ tx.selected, selected.order.id ∈ tx.orderIds
  writes : ∀ write ∈ tx.writes, write.orderId ∈ tx.orderIds

theorem start_ok {storeId userId : String} {now : ℤ} {orderIds : List String}
    (h : start toLowerCase db storeId userId now orderIds = .ok tx) :
    tx.Started db ∧ tx.writes = [] := by
  rw [start] at h
  cases hclusters : db.clustersContaining toLowerCase storeId orderIds with
  | error e =>
    rw [hclusters] at h
    cases h
  | ok clusters =>
    rw [hclusters] at h
    dsimp only at h
    split at h
    · cases h
    · rename_i hkept
      split at h
      · cases h
      · obtain rfl := Except.ok.inj h
        refine ⟨⟨fun cluster hc => ?_, fun cluster hc row hrow => ?_, fun selected hmem => ?_,
          fun write hwrite => absurd hwrite List.not_mem_nil⟩, rfl⟩
        · have hnot := List.find?_eq_none.1 hkept cluster hc
          simpa using hnot
        · exact FulfilmentDb.mem_clustersContaining hclusters hc hrow
        · obtain ⟨orderId, hid, hsel⟩ := List.mem_filterMap.1 hmem
          exact (selectOrder_id hsel).symm ▸ hid

theorem cancelOrder_ok (h : tx.cancelOrder db selected = .ok tx') :
    (∀ dispatch, db.dispatches selected.order.id = some dispatch → dispatch.status = .failed) ∧
      tx'.clusters = tx.clusters ∧ tx'.orderIds = tx.orderIds ∧ tx'.selected = tx.selected ∧
      ∃ writes, tx'.writes = tx.writes ++ writes ∧
        ∀ write ∈ writes, write.orderId = selected.order.id := by
  rw [cancelOrder] at h
  split at h
  · cases h
  · rename_i hdispatch
    split at h
    · cases h
    · obtain rfl := Except.ok.inj h
      refine ⟨fun dispatch hfound => ?_, rfl, rfl, rfl, _, rfl, fun write hwrite => ?_⟩
      · rw [hfound] at hdispatch
        simpa using hdispatch
      · rw [orderWrites] at hwrite
        rcases List.mem_cons.1 hwrite with rfl | hwrite
        · rfl
        · split at hwrite
          · rw [List.mem_singleton.1 hwrite]
            rfl
          · exact absurd hwrite List.not_mem_nil

theorem Started.cancelOrder (hs : tx.Started db) {now : FulfilmentDb}
    (hmem : selected ∈ tx.selected) (h : tx.cancelOrder now selected = .ok tx') :
    tx'.Started db := by
  obtain ⟨_, hclusters, hids, hselected, writes, hwrites, habout⟩ := cancelOrder_ok h
  refine ⟨?_, ?_, ?_, ?_⟩
  · rw [hclusters, hids]
    exact hs.remaining
  · rw [hclusters]
    exact hs.members
  · rw [hselected, hids]
    exact hs.selected
  · intro write hwrite
    rw [hwrites] at hwrite
    rw [hids]
    rcases List.mem_append.1 hwrite with hold | hnew
    · exact hs.writes write hold
    · exact (habout write hnew) ▸ hs.selected selected hmem

def Uncancelled (db : FulfilmentDb) (row : OrderRow) : Prop :=
  row ∈ db.orders ∧ row.status ≠ .cancelled ∧ db.reviews row.id = none

theorem Started.commit (hs : tx.Started db) (hc : cluster ∈ tx.clusters) :
    ∃ row ∈ cluster.members, Uncancelled (tx.commit db) row := by
  obtain ⟨row, hrow, hnot⟩ := hs.remaining cluster hc
  obtain ⟨hstored, hopen, hreview⟩ := hs.members cluster hc row hrow
  have habout : ∀ write ∈ tx.writes, write.orderId ≠ row.id :=
    fun write hwrite heq => hnot (heq ▸ hs.writes write hwrite)
  obtain ⟨hreviews, horders⟩ := foldl_apply_of_notMem tx.writes db habout
  exact ⟨row, hrow, horders row hstored rfl, hopen, hreviews.trans hreview⟩

end CancelTx

end Zomaal
