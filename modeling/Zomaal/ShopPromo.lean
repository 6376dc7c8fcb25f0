/-
**Promo codes under concurrency.**

A placing transaction takes the store's lock, checks the code, locks the code's row, checks the code
again, and counts one more use; a cancelling one takes the store's lock too, marks the order, and
counts one use less.  What a transaction writes is seen by the others when it commits, and a
transaction may wait, or abort, at any step.

Main results:

* `Shop.promo_accounting` — **the count of a promo code is the number of orders that hold it**, and
  neither of its limits is ever exceeded.
-/

import Zomaal.MachineRun
import Zomaal.ShopCheckout
import Zomaal.ThreadPool

set_option autoImplicit false

namespace Zomaal.Shop

/-! ### The transactions -/

/-- What can be locked: a store, the row of a promo code, and the row of an order. -/
inductive ShopLock
  | store (storeId : String)
  | promo (promoId : String)
  | order (orderId : String)
  deriving DecidableEq

inductive PlacePhase
  | started
  | locked
  | priced (promo : Option ShopPromoCode)
  | promoLocked (promo : ShopPromoCode)
  /-- the new count is written, and not committed -/
  | claimed (promo : ShopPromoCode) (usedCount : ℕ)

inductive CancelPhase
  | started
  | looked (storeId : String)
  /-- an order that is not there leaves its store unlocked -/
  | locked (storeId : Option String)
  /-- the new status is written, and not committed -/
  | flipped (storeId : Option String) (order : ShopOrder)
  /-- and so is the new count, if there is one -/
  | released (storeId : Option String) (order : ShopOrder) (usedCount : Option ℕ)

/-- A transaction.  The lines and the subtotal of an order come from rows that no other transaction
here writes. -/
inductive ShopTx
  | placeOrder (request : CheckoutRequest) (rows : List CartRow) (subtotal : Decimal)
      (phase : PlacePhase)
  | cancel (orderId : String) (cancelledBy : ShopOrderCancelledBy) (phase : CancelPhase)
  | ended

namespace ShopTx

def holds : ShopTx → ShopLock → Bool
  | .placeOrder _ _ _ .started, _ => false
  | .placeOrder request _ _ .locked, lock => lock = .store request.storeId
  | .placeOrder request _ _ (.priced _), lock => lock = .store request.storeId
  | .placeOrder request _ _ (.promoLocked promo), lock =>
    lock = .store request.storeId || lock = .promo promo.id
  | .placeOrder request _ _ (.claimed promo _), lock =>
    lock = .store request.storeId || lock = .promo promo.id
  | .cancel _ _ .started, _ => false
  | .cancel _ _ (.looked _), _ => false
  | .cancel _ _ (.locked storeId), lock => storeId.any fun id => lock = .store id
  | .cancel orderId _ (.flipped storeId _), lock =>
    storeId.any (fun id => lock = .store id) || lock = .order orderId
  | .cancel orderId _ (.released storeId order usedCount), lock =>
    storeId.any (fun id => lock = .store id) || lock = .order orderId ||
      (usedCount.isSome && order.promoCodeId.any fun id => lock = .promo id)
  | .ended, _ => false

end ShopTx

namespace ShopBooks

/-- The rows after a transaction's last write, or before its first one. -/
def settle (books : ShopBooks) : Except ShopError ShopBooks → ShopBooks
  | .ok books' => books'
  | .error _ => books

def commitCancel (books : ShopBooks) (orderId : String) (promoCodeId : Option String)
    (usedCount : Option ℕ) : ShopBooks :=
  let flipped := books.setStatus orderId .cancelled
  match promoCodeId, usedCount with
  | some promoId, some usedCount => flipped.setUsedCount promoId usedCount
  | _, _ => flipped

end ShopBooks

namespace ShopTx

variable (free : ShopLock → Bool)

/-- One step of a placing transaction; `free`: nobody has the lock. -/
def placeTurn (now : ℤ) (books : ShopBooks) (request : CheckoutRequest) (rows : List CartRow)
    (subtotal : Decimal) : PlacePhase → ShopTx × ShopBooks
  | .started =>
    if free (.store request.storeId) then (.placeOrder request rows subtotal .locked, books)
    else (.placeOrder request rows subtotal .started, books)
  | .locked =>
    let lookup := request.promoCode.map fun code => books.loadPromo code request.storeId
    match lookup.bind fun found => checkPromo found.promo subtotal found.storeUses now with
    | some _ => (.ended, books)
    | none =>
      (.placeOrder request rows subtotal (.priced (lookup.bind PromoLookup.promo)), books)
  | .priced none => (.ended, books.settle (books.createOrder (newOrder request rows none)))
  | .priced (some promo) =>
    if free (.promo promo.id) then
      (.placeOrder request rows subtotal (.promoLocked promo), books)
    else (.placeOrder request rows subtotal (.priced (some promo)), books)
  | .promoLocked promo =>
    match books.claimCheck promo request.storeId subtotal now with
    | .error _ => (.ended, books)
    | .ok current =>
      (.placeOrder request rows subtotal (.claimed promo (current.usedCount + 1)), books)
  | .claimed promo usedCount =>
    (.ended, books.settle
      ((books.setUsedCount promo.id usedCount).createOrder (newOrder request rows (some promo))))

/-- One step of a cancelling transaction.  A row that does not match a write's condition is not
waited for. -/
def cancelTurn (books : ShopBooks) (orderId : String) (cancelledBy : ShopOrderCancelledBy)
    : CancelPhase → ShopTx × ShopBooks
  | .started =>
    match books.findOrder orderId with
    | none => (.cancel orderId cancelledBy (.locked none), books)
    | some order => (.cancel orderId cancelledBy (.looked order.storeId), books)
  | .looked storeId =>
    if free (.store storeId) then (.cancel orderId cancelledBy (.locked (some storeId)), books)
    else (.cancel orderId cancelledBy (.looked storeId), books)
  | .locked storeId =>
    match books.flipCancelled orderId cancelledBy with
    | .error _ => (.ended, books)
    | .ok flipped =>
      if free (.order orderId) then
        (.cancel orderId cancelledBy (.flipped storeId flipped.1), books)
      else (.cancel orderId cancelledBy (.locked storeId), books)
  | .flipped storeId order =>
    match order.promoCodeId with
    | none => (.cancel orderId cancelledBy (.released storeId order none), books)
    | some promoId =>
      match books.findPromo promoId with
      | none => (.cancel orderId cancelledBy (.released storeId order none), books)
      | some promo =>
        if promo.usedCount = 0 then
          (.cancel orderId cancelledBy (.released storeId order none), books)
        else if free (.promo promoId) then
          (.cancel orderId cancelledBy
            (.released storeId order (some (promo.usedCount - 1))), books)
        else (.cancel orderId cancelledBy (.flipped storeId order), books)
  | .released _ order usedCount => (.ended, books.commitCancel orderId order.promoCodeId usedCount)

def turn (now : ℤ) (books : ShopBooks) : ShopTx → ShopTx × ShopBooks
  | .placeOrder request rows subtotal phase =>
    placeTurn free now books request rows subtotal phase
  | .cancel orderId cancelledBy phase => cancelTurn free books orderId cancelledBy phase
  | .ended => (.ended, books)

end ShopTx

/-! ### One step of any of them -/

abbrev ShopWorld := ThreadPool ShopBooks ShopTx

inductive PromoAction
  /-- a merchant places an order -/
  | placeOrder (request : CheckoutRequest) (rows : List CartRow) (subtotal : Decimal)
  /-- an order is cancelled -/
  | cancel (orderId : String) (cancelledBy : ShopOrderCancelledBy)
  /-- the next step of a transaction -/
  | turn (i : ℕ) (now : ℤ)
  /-- a transaction is rolled back -/
  | abort (i : ℕ)
  /-- an administrator moves an order on -/
  | advance (orderId : String) (target : ShopOrderStatus)

def forward : List ShopOrderStatus := [.pending, .confirmed, .shipped, .delivered]

def ShopBooks.advance (books : ShopBooks) (orderId : String) (target : ShopOrderStatus) :
    Except ShopError ShopBooks :=
  if target ∉ forward || target = .pending then
    .error (.badRequest ("Can't move an order to " ++ target.text.toUpper ++
      ". Use cancel to cancel it."))
  else
    match books.findOrder orderId with
    | none => .error (.notFound "Order not found")
    | some order =>
      if order.status ∈ forward.takeWhile (· ≠ target) then
        .ok (books.setStatus orderId target)
      else .error (.conflict ("This order is " ++ order.status.text ++
        " — it can't be moved to " ++ target.text ++ "."))

namespace PromoAction

def step (w : ShopWorld) : PromoAction → ShopWorld
  | .placeOrder request rows subtotal => w.spawn (.placeOrder request rows subtotal .started)
  | .cancel orderId cancelledBy => w.spawn (.cancel orderId cancelledBy .started)
  | .turn i now =>
    match w.threads[i]? with
    | none => w
    | some tx =>
      let next := tx.turn (w.free ShopTx.holds) now w.shared
      w.move i next.2 next.1
  | .abort i =>
    match w.threads[i]? with
    | none => w
    | some _ => w.move i w.shared .ended
  | .advance orderId target =>
    if w.free ShopTx.holds (.order orderId) then
      w.write (w.shared.settle (w.shared.advance orderId target))
    else w

end PromoAction

/-! ### What the committed rows keep -/

def ShopBooks.uses (books : ShopBooks) (promoId : String) : ℕ :=
  books.orders.countP fun order => order.promoCodeId = some promoId && order.status ≠ .cancelled

/-- **The counts are right, and the limits are kept.** -/
structure PromoBooks (books : ShopBooks) : Prop where
  promoIds : (books.promos.map (·.id)).Nodup
  orderIds : (books.orders.map (·.id)).Nodup
  used : ∀ promo ∈ books.promos, promo.usedCount = books.uses promo.id
  usageLimit : ∀ promo ∈ books.promos, ∀ limit, promo.usageLimit = some limit →
    promo.usedCount ≤ limit
  perStoreLimit : ∀ promo ∈ books.promos, ∀ storeId limit, promo.perStoreLimit = some limit →
    books.storeUses storeId promo.id ≤ limit

/-- What the commit of a transaction leaves alone: it has more uses in its own store only, and it
writes its own promo code and its own order only. -/
structure ChangesOnly (store promo order : Option String) (books books' : ShopBooks) : Prop where
  storeUses : ∀ storeId promoId, store ≠ some storeId →
    books'.storeUses storeId promoId ≤ books.storeUses storeId promoId
  promo : ∀ promoId, promo ≠ some promoId → books'.findPromo promoId = books.findPromo promoId
  missing : ∀ promoId, books.findPromo promoId = none → books'.findPromo promoId = none
  order : ∀ orderId found, order ≠ some orderId → books.findOrder orderId = some found →
    books'.findOrder orderId = some found

theorem ChangesOnly.refl (store promo order : Option String) (books : ShopBooks) :
    ChangesOnly store promo order books books :=
  ⟨fun _ _ _ => le_rfl, fun _ _ => rfl, fun _ h => h, fun _ _ _ h => h⟩

namespace ShopBooks

variable {books : ShopBooks}

variable {promo : ShopPromoCode} {promoId : String}

theorem findPromo_some (h : books.findPromo promoId = some promo) :
    promo ∈ books.promos ∧ promo.id = promoId :=
  KeyedRows.lookup_some ShopPromoCode.id h

theorem findPromo_of_mem (h : (books.promos.map (·.id)).Nodup) (hmem : promo ∈ books.promos) :
    books.findPromo promo.id = some promo :=
  KeyedRows.lookup_of_mem ShopPromoCode.id h hmem

theorem findPromo_setUsedCount (books : ShopBooks) (promoId other : String) (usedCount : ℕ) :
    (books.setUsedCount promoId usedCount).findPromo other =
      (books.findPromo other).map fun promo =>
        if other = promoId then { promo with usedCount } else promo :=
  KeyedRows.lookup_change ShopPromoCode.id (f := fun promo => { promo with usedCount })
    (fun _ => rfl) books.promos

theorem findPromo_setUsedCount_of_ne (books : ShopBooks) {other : String} {usedCount : ℕ}
    (hne : other ≠ promoId) :
    (books.setUsedCount promoId usedCount).findPromo other = books.findPromo other := by
  simp [findPromo_setUsedCount, hne]

theorem setUsedCount_ids (books : ShopBooks) (promoId : String) (usedCount : ℕ) :
    (books.setUsedCount promoId usedCount).promos.map (·.id) = books.promos.map (·.id) :=
  KeyedRows.map_key_change ShopPromoCode.id (f := fun promo => { promo with usedCount })
    (fun _ => rfl) books.promos

theorem findOrder_setStatus (books : ShopBooks) (orderId other : String)
    (status : ShopOrderStatus) :
    (books.setStatus orderId status).findOrder other =
      (books.findOrder other).map fun order =>
        if other = orderId then { order with status } else order :=
  KeyedRows.lookup_change ShopOrder.id (f := fun order => { order with status })
    (fun _ => rfl) books.orders

theorem mem_setUsedCount {usedCount : ℕ}
    (h : promo ∈ (books.setUsedCount promoId usedCount).promos) :
    ∃ old ∈ books.promos, promo = if old.id = promoId then { old with usedCount } else old := by
  obtain ⟨old, hold, rfl⟩ := List.mem_map.1 h
  exact ⟨old, hold, rfl⟩

theorem uses_setStatus (hids : (books.orders.map (·.id)).Nodup) {orderId : String}
    {order : ShopOrder} (hfound : books.findOrder orderId = some order) (status : ShopOrderStatus)
    (promoId : String) :
    (books.setStatus orderId status).uses promoId +
        (if order.promoCodeId = some promoId ∧ order.status ≠ .cancelled then 1 else 0) =
      books.uses promoId +
        if order.promoCodeId = some promoId ∧ status ≠ .cancelled then 1 else 0 := by
  have hcount := KeyedRows.countP_change ShopOrder.id (fun order : ShopOrder =>
    order.promoCodeId = some promoId && order.status ≠ .cancelled)
    (f := fun order => { order with status }) hids
    (show KeyedRows.lookup ShopOrder.id orderId books.orders = some order from hfound)
  simp only [Bool.and_eq_true, decide_eq_true_eq] at hcount
  exact hcount

theorem storeUses_setStatus (hids : (books.orders.map (·.id)).Nodup) {orderId : String}
    {order : ShopOrder} (hfound : books.findOrder orderId = some order) (status : ShopOrderStatus)
    (storeId promoId : String) :
    (books.setStatus orderId status).storeUses storeId promoId +
        (if (order.storeId = storeId ∧ order.promoCodeId = some promoId) ∧
          order.status ≠ .cancelled then 1 else 0) =
      books.storeUses storeId promoId +
        if (order.storeId = storeId ∧ order.promoCodeId = some promoId) ∧
          status ≠ .cancelled then 1 else 0 := by
  have hcount := KeyedRows.countP_change ShopOrder.id (fun order : ShopOrder =>
    order.storeId = storeId && order.promoCodeId = some promoId && order.status ≠ .cancelled)
    (f := fun order => { order with status }) hids
    (show KeyedRows.lookup ShopOrder.id orderId books.orders = some order from hfound)
  simp only [Bool.and_eq_true, decide_eq_true_eq] at hcount
  exact hcount

end ShopBooks

/-! ### What a running transaction may rely on -/

/-- A code that was claimed has one use fewer in the committed rows, and room for it. -/
def Claimed (books : ShopBooks) (storeId promoId : String) (usedCount : ℕ) : Prop :=
  ∃ current, books.findPromo promoId = some current ∧ usedCount = current.usedCount + 1 ∧
    (∀ limit, current.usageLimit = some limit → usedCount ≤ limit) ∧
    ∀ limit, current.perStoreLimit = some limit → books.storeUses storeId promoId < limit

def Cancellable (books : ShopBooks) (orderId : String) (order : ShopOrder) : Prop :=
  books.findOrder orderId = some order ∧ order.status ≠ .cancelled

/-- A use that is being given back is counted in the committed rows. -/
def Released (books : ShopBooks) (promoCodeId : Option String) (usedCount : Option ℕ) : Prop :=
  match promoCodeId, usedCount with
  | none, _ => True
  | some promoId, none => books.findPromo promoId = none
  | some promoId, some usedCount =>
    ∃ current, books.findPromo promoId = some current ∧ current.usedCount = usedCount + 1

/-- **What a running transaction may rely on**, whatever the others do. -/
def ShopTx.Sound (books : ShopBooks) : ShopTx → Prop
  | .placeOrder request _ _ (.claimed promo usedCount) =>
    Claimed books request.storeId promo.id usedCount
  | .cancel orderId _ (.flipped _ order) => Cancellable books orderId order
  | .cancel orderId _ (.released _ order usedCount) =>
    Cancellable books orderId order ∧ Released books order.promoCodeId usedCount
  | _ => True

/-! ### Commits -/

theorem ShopBooks.uses_concat (books : ShopBooks) (order : ShopOrder) (promoId : String) :
    ShopBooks.uses { books with orders := books.orders ++ [order] } promoId =
      books.uses promoId +
        if order.promoCodeId = some promoId ∧ order.status ≠ .cancelled then 1 else 0 := by
  rw [ShopBooks.uses, List.countP_append, List.countP_singleton]
  simp only [Bool.and_eq_true, decide_eq_true_eq]
  rfl

theorem ShopBooks.storeUses_concat (books : ShopBooks) (order : ShopOrder)
    (storeId promoId : String) :
    ShopBooks.storeUses { books with orders := books.orders ++ [order] } storeId promoId =
      books.storeUses storeId promoId +
        if (order.storeId = storeId ∧ order.promoCodeId = some promoId) ∧
          order.status ≠ .cancelled then 1 else 0 := by
  rw [ShopBooks.storeUses, List.countP_append, List.countP_singleton]
  simp only [Bool.and_eq_true, decide_eq_true_eq]
  rfl

variable {order : ShopOrder}

theorem orderIds_concat {orders : List ShopOrder} (h : (orders.map (·.id)).Nodup)
    (hfresh : ∀ other ∈ orders, other.id ≠ order.id) : ((orders ++ [order]).map (·.id)).Nodup :=
  KeyedRows.nodup_concat ShopOrder.id h hfresh

variable {orderId : String}

variable {books : ShopBooks}

theorem ShopBooks.findOrder_concat (order : ShopOrder) {found : ShopOrder}
    (h : books.findOrder orderId = some found) :
    ShopBooks.findOrder { books with orders := books.orders ++ [order] } orderId = some found := by
  have hfound : books.orders.find? (fun other => other.id = orderId) = some found := h
  rw [ShopBooks.findOrder, List.find?_append, hfound]
  rfl

variable {request : CheckoutRequest} {rows : List CartRow}

theorem PromoBooks.createOrder {books' : ShopBooks} (h : PromoBooks books)
    (hrun : books.createOrder (newOrder request rows none) = .ok books') :
    PromoBooks books' ∧ ChangesOnly none none none books books' := by
  obtain ⟨hfresh, rfl⟩ := ShopBooks.createOrder_ok hrun
  have huses : ∀ promoId, ShopBooks.uses
      { books with orders := books.orders ++ [newOrder request rows none] } promoId =
        books.uses promoId := by
    intro promoId
    simp [ShopBooks.uses_concat, newOrder]
  have hstore : ∀ storeId promoId, ShopBooks.storeUses
      { books with orders := books.orders ++ [newOrder request rows none] } storeId promoId =
        books.storeUses storeId promoId := by
    intro storeId promoId
    simp [ShopBooks.storeUses_concat, newOrder]
  refine ⟨⟨h.promoIds, orderIds_concat h.orderIds hfresh, fun promo hpromo => ?_, h.usageLimit,
    fun promo hpromo storeId limit hlimit => ?_⟩, fun storeId promoId _ => (hstore ..).le,
      fun _ _ => rfl, fun _ hnone => hnone,
      fun orderId found _ hfound => ShopBooks.findOrder_concat _ hfound⟩
  · rw [huses]
    exact h.used promo hpromo
  · rw [hstore]
    exact h.perStoreLimit promo hpromo storeId limit hlimit

theorem PromoBooks.claim {books' : ShopBooks} (h : PromoBooks books) {promo : ShopPromoCode}
    {usedCount : ℕ} (hclaimed : Claimed books request.storeId promo.id usedCount)
    (hrun : (books.setUsedCount promo.id usedCount).createOrder
      (newOrder request rows (some promo)) = .ok books') :
    PromoBooks books' ∧
      ChangesOnly (some request.storeId) (some promo.id) none books books' := by
  obtain ⟨current, hcurrent, rfl, husage, hstore⟩ := hclaimed
  obtain ⟨hfresh, rfl⟩ := ShopBooks.createOrder_ok hrun
  obtain ⟨hmem, hid⟩ := ShopBooks.findPromo_some hcurrent
  have hof : ∀ old ∈ books.promos, old.id = promo.id → old = current := by
    intro old hold hpid
    have hself := ShopBooks.findPromo_of_mem h.promoIds hold
    rw [hpid, hcurrent] at hself
    exact (Option.some.inj hself).symm
  generalize hset : books.setUsedCount promo.id (current.usedCount + 1) = used at hfresh
  have horders : used.orders = books.orders := hset ▸ rfl
  have huses : ∀ promoId, ShopBooks.uses
      { used with orders := used.orders ++ [newOrder request rows (some promo)] } promoId =
        books.uses promoId + if promo.id = promoId then 1 else 0 := by
    intro promoId
    rw [ShopBooks.uses_concat, ShopBooks.uses, horders]
    refine congrArg _ (if_congr ⟨fun hholds => Option.some.inj hholds.1, fun heq => ?_⟩ rfl rfl)
    exact ⟨congrArg some heq, nofun⟩
  have hstoreUses : ∀ storeId promoId, ShopBooks.storeUses
      { used with orders := used.orders ++ [newOrder request rows (some promo)] } storeId promoId =
        books.storeUses storeId promoId +
          if request.storeId = storeId ∧ promo.id = promoId then 1 else 0 := by
    intro storeId promoId
    rw [ShopBooks.storeUses_concat, ShopBooks.storeUses, horders]
    refine congrArg _ (if_congr ⟨fun hholds => ⟨hholds.1.1, Option.some.inj hholds.1.2⟩,
      fun heq => ⟨⟨heq.1, congrArg some heq.2⟩, nofun⟩⟩ rfl rfl)
  have hrow : ∀ row ∈ used.promos, ∃ old ∈ books.promos, row =
      if old.id = promo.id then { old with usedCount := current.usedCount + 1 } else old := by
    intro row hrow
    exact ShopBooks.mem_setUsedCount (hset ▸ hrow)
  refine ⟨⟨?_, orderIds_concat (horders ▸ h.orderIds) hfresh, fun row hmem => ?_,
    fun row hmem limit hlimit => ?_, fun row hmem storeId limit hlimit => ?_⟩,
      fun storeId promoId hne => ?_, fun promoId hne => ?_, fun promoId hnone => ?_,
      fun orderId found _ hfound => ?_⟩
  · rw [← hset]
    exact (ShopBooks.setUsedCount_ids ..).symm ▸ h.promoIds
  · obtain ⟨old, hold, rfl⟩ := hrow row hmem
    rw [huses]
    by_cases hpid : old.id = promo.id
    · rw [if_pos hpid, if_pos hpid.symm, ← h.used old hold, hof old hold hpid]
    · rw [if_neg hpid, if_neg (Ne.symm hpid), h.used old hold, add_zero]
  · obtain ⟨old, hold, rfl⟩ := hrow row hmem
    by_cases hpid : old.id = promo.id
    · rw [if_pos hpid] at hlimit ⊢
      exact husage limit (hof old hold hpid ▸ hlimit)
    · rw [if_neg hpid] at hlimit ⊢
      exact h.usageLimit old hold limit hlimit
  · obtain ⟨old, hold, rfl⟩ := hrow row hmem
    rw [hstoreUses]
    by_cases hpid : old.id = promo.id
    · rw [if_pos hpid] at hlimit ⊢
      have hroom := hstore limit (hof old hold hpid ▸ hlimit)
      have hkept := h.perStoreLimit old hold storeId limit hlimit
      dsimp only
      by_cases hs : request.storeId = storeId
      · rw [if_pos ⟨hs, hpid.symm⟩, ← hs, hpid]
        exact hroom
      · rw [if_neg fun heq => hs heq.1, add_zero]
        exact hkept
    · rw [if_neg hpid] at hlimit ⊢
      rw [if_neg fun heq => hpid heq.2.symm, add_zero]
      exact h.perStoreLimit old hold storeId limit hlimit
  · rw [hstoreUses, if_neg fun heq => hne (congrArg some heq.1), add_zero]
  · change used.findPromo promoId = _
    rw [← hset, ShopBooks.findPromo_setUsedCount_of_ne _ fun heq => hne (congrArg some heq.symm)]
  · change used.findPromo promoId = none
    rw [← hset, ShopBooks.findPromo_setUsedCount, hnone]
    rfl
  · refine ShopBooks.findOrder_concat _ ?_
    rw [ShopBooks.findOrder, horders]
    exact hfound

def writtenPromo (promoCodeId : Option String) (usedCount : Option ℕ) : Option String :=
  if usedCount.isSome then promoCodeId else none

theorem changesOnly_setStatus (hids : (books.orders.map (·.id)).Nodup)
    (hfound : books.findOrder orderId = some order) (hlive : order.status ≠ .cancelled)
    (status : ShopOrderStatus) :
    ChangesOnly none none (some orderId) books (books.setStatus orderId status) := by
  refine ⟨fun storeId promoId _ => ?_, fun _ _ => rfl, fun _ hnone => hnone,
    fun other found hne hother => ?_⟩
  · have hcount := ShopBooks.storeUses_setStatus hids hfound status storeId promoId
    by_cases hholds : order.storeId = storeId ∧ order.promoCodeId = some promoId
    · rw [if_pos ⟨hholds, hlive⟩] at hcount
      split at hcount <;> omega
    · rw [if_neg fun h => hholds h.1, if_neg fun h => hholds h.1] at hcount
      omega
  · rw [ShopBooks.findOrder_setStatus, hother, Option.map_some,
      if_neg fun heq => hne (congrArg some heq.symm)]

theorem PromoBooks.advance {books' : ShopBooks} (h : PromoBooks books) {target : ShopOrderStatus}
    (hrun : books.advance orderId target = .ok books') :
    PromoBooks books' ∧ ChangesOnly none none (some orderId) books books' := by
  rw [ShopBooks.advance] at hrun
  split at hrun
  · cases hrun
  · rename_i htarget
    split at hrun
    · cases hrun
    · rename_i order hfound
      split at hrun
      · rename_i hallowed
        obtain rfl := Except.ok.inj hrun
        have hforward : target ∈ forward := by
          have hboth : target ∈ forward ∧ target ≠ .pending := by simpa using htarget
          exact hboth.1
        have htarget' : target ≠ .cancelled := fun heq => by simp [heq, forward] at hforward
        have hlive : order.status ≠ .cancelled := fun heq => by
          have hmem := List.takeWhile_subset _ hallowed
          simp [heq, forward] at hmem
        have huses : ∀ promoId, (books.setStatus orderId target).uses promoId =
            books.uses promoId := by
          intro promoId
          have hcount := ShopBooks.uses_setStatus h.orderIds hfound target promoId
          simp only [hlive, htarget', ne_eq, not_false_eq_true, and_true] at hcount
          exact Nat.add_right_cancel hcount
        have hchanges := changesOnly_setStatus h.orderIds hfound hlive target
        refine ⟨⟨h.promoIds, (ShopBooks.setStatus_ids ..).symm ▸ h.orderIds,
          fun promo hmem => ?_, h.usageLimit, fun promo hmem storeId limit hlimit => ?_⟩, hchanges⟩
        · rw [huses]
          exact h.used promo hmem
        · exact (hchanges.storeUses storeId promo.id nofun).trans
            (h.perStoreLimit promo hmem storeId limit hlimit)
      · cases hrun

theorem PromoBooks.commitCancel (h : PromoBooks books) {usedCount : Option ℕ}
    (hcancellable : Cancellable books orderId order)
    (hreleased : Released books order.promoCodeId usedCount) :
    PromoBooks (books.commitCancel orderId order.promoCodeId usedCount) ∧
      ChangesOnly none (writtenPromo order.promoCodeId usedCount) (some orderId) books
        (books.commitCancel orderId order.promoCodeId usedCount) := by
  obtain ⟨hfound, hlive⟩ := hcancellable
  have hchanges := changesOnly_setStatus h.orderIds hfound hlive .cancelled
  have huses : ∀ promoId, (books.setStatus orderId .cancelled).uses promoId +
      (if order.promoCodeId = some promoId then 1 else 0) = books.uses promoId := by
    intro promoId
    have hcount := ShopBooks.uses_setStatus h.orderIds hfound .cancelled promoId
    simpa [hlive] using hcount
  have hids : ((books.setStatus orderId .cancelled).orders.map (·.id)).Nodup :=
    (ShopBooks.setStatus_ids ..).symm ▸ h.orderIds
  have hlimits : ∀ promo ∈ books.promos, ∀ storeId limit, promo.perStoreLimit = some limit →
      (books.setStatus orderId .cancelled).storeUses storeId promo.id ≤ limit :=
    fun promo hmem storeId limit hlimit => (hchanges.storeUses storeId promo.id nofun).trans
      (h.perStoreLimit promo hmem storeId limit hlimit)
  -- the orders that hold a code which is not written hold it as often as before
  have hkept : (∀ promo ∈ books.promos, order.promoCodeId ≠ some promo.id) →
      PromoBooks (books.setStatus orderId .cancelled) := by
    intro hother
    refine ⟨h.promoIds, hids, fun promo hmem => ?_, h.usageLimit, hlimits⟩
    have hcount := huses promo.id
    rw [if_neg (hother promo hmem), add_zero] at hcount
    rw [hcount]
    exact h.used promo hmem
  cases hp : order.promoCodeId with
  | none =>
    refine ⟨hkept fun promo _ => hp ▸ nofun, ?_⟩
    cases usedCount <;> exact hchanges
  | some promoId =>
    rw [hp] at hreleased
    cases usedCount with
    | none =>
      refine ⟨hkept fun promo hmem heq => ?_, hchanges⟩
      have hnone : books.findPromo promoId = none := hreleased
      have hself := ShopBooks.findPromo_of_mem h.promoIds hmem
      rw [← Option.some.inj (hp.symm.trans heq), hnone] at hself
      cases hself
    | some usedCount =>
      obtain ⟨current, hcurrent, hcount⟩ := hreleased
      have hof : ∀ old ∈ books.promos, old.id = promoId → old = current := by
        intro old hold hpid
        have hself := ShopBooks.findPromo_of_mem h.promoIds hold
        rw [hpid, hcurrent] at hself
        exact (Option.some.inj hself).symm
      let flipped := books.setStatus orderId .cancelled
      refine ⟨⟨?_, hids, fun row hmem => ?_, fun row hmem limit hlimit => ?_,
        fun row hmem storeId limit hlimit => ?_⟩, hchanges.storeUses, fun other hne => ?_,
          fun other hnone => ?_, hchanges.order⟩
      · exact (ShopBooks.setUsedCount_ids flipped promoId usedCount).symm ▸ h.promoIds
      · obtain ⟨old, hold, rfl⟩ := ShopBooks.mem_setUsedCount hmem
        change (if old.id = promoId then { old with usedCount } else old).usedCount =
          flipped.uses _
        have hold' := h.used old hold
        have hother : flipped.uses old.id + _ = books.uses old.id := huses old.id
        by_cases hpid : old.id = promoId
        · rw [hof old hold hpid, hcount] at hold'
          rw [hp, if_pos (congrArg some hpid.symm)] at hother
          rw [if_pos hpid]
          change usedCount = flipped.uses old.id
          rw [hof old hold hpid] at hother ⊢
          omega
        · rw [hp, if_neg fun heq => hpid (Option.some.inj heq).symm] at hother
          rw [if_neg hpid, hold']
          exact hother.symm
      · obtain ⟨old, hold, rfl⟩ := ShopBooks.mem_setUsedCount hmem
        by_cases hpid : old.id = promoId
        · rw [if_pos hpid] at hlimit ⊢
          have hkeeps := h.usageLimit old hold limit hlimit
          rw [hof old hold hpid, hcount] at hkeeps
          exact (Nat.le_succ _).trans hkeeps
        · rw [if_neg hpid] at hlimit ⊢
          exact h.usageLimit old hold limit hlimit
      · obtain ⟨old, hold, rfl⟩ := ShopBooks.mem_setUsedCount hmem
        by_cases hpid : old.id = promoId
        · rw [if_pos hpid] at hlimit ⊢
          exact hlimits old hold storeId limit hlimit
        · rw [if_neg hpid] at hlimit ⊢
          exact hlimits old hold storeId limit hlimit
      · exact ShopBooks.findPromo_setUsedCount_of_ne flipped
          fun heq => hne (congrArg some heq.symm)
      · change (flipped.setUsedCount promoId usedCount).findPromo other = none
        rw [ShopBooks.findPromo_setUsedCount]
        change (books.findPromo other).map _ = none
        rw [hnone]
        rfl

/-! ### Turns -/

structure CommitsUnder (holds : ShopLock → Bool) (books books' : ShopBooks) : Prop where
  changes : ∃ store promo order, ChangesOnly store promo order books books' ∧
    (∀ id, store = some id → holds (.store id) = true) ∧
    (∀ id, promo = some id → holds (.promo id) = true) ∧
    ∀ id, order = some id → holds (.order id) = true

theorem CommitsUnder.refl (holds : ShopLock → Bool) (books : ShopBooks) :
    CommitsUnder holds books books :=
  ⟨none, none, none, .refl .., nofun, nofun, nofun⟩

theorem ShopTx.Sound.stable {books' : ShopBooks} {holds : ShopLock → Bool} {tx : ShopTx}
    (h : tx.Sound books) (hcommits : CommitsUnder holds books books')
    (hother : ∀ lock, holds lock = true → tx.holds lock = false) : tx.Sound books' := by
  obtain ⟨store, promo, order, hchanges, hstore, hpromo, horder⟩ := hcommits
  have hstore' : ∀ id, tx.holds (.store id) = true → store ≠ some id := by
    intro id hheld heq
    rw [hother _ (hstore id heq)] at hheld
    cases hheld
  have hpromo' : ∀ id, tx.holds (.promo id) = true → promo ≠ some id := by
    intro id hheld heq
    rw [hother _ (hpromo id heq)] at hheld
    cases hheld
  have horder' : ∀ id, tx.holds (.order id) = true → order ≠ some id := by
    intro id hheld heq
    rw [hother _ (horder id heq)] at hheld
    cases hheld
  match tx, h with
  | .placeOrder request _ _ (.claimed promo usedCount), h =>
    obtain ⟨current, hcurrent, hcount, husage, hper⟩ := h
    refine ⟨current, ?_, hcount, husage, fun limit hlimit => ?_⟩
    · rw [hchanges.promo promo.id (hpromo' promo.id (by simp [ShopTx.holds]))]
      exact hcurrent
    · have hle := hchanges.storeUses request.storeId promo.id
        (hstore' request.storeId (by simp [ShopTx.holds]))
      exact hle.trans_lt (hper limit hlimit)
  | .cancel orderId _ (.flipped _ found), h =>
    exact ⟨hchanges.order orderId found (horder' orderId (by simp [ShopTx.holds])) h.1, h.2⟩
  | .cancel orderId _ (.released _ found usedCount), h =>
    obtain ⟨⟨hfound, hlive⟩, hreleased⟩ := h
    refine ⟨⟨hchanges.order orderId found (horder' orderId (by simp [ShopTx.holds])) hfound,
      hlive⟩, ?_⟩
    cases hp : found.promoCodeId with
    | none => trivial
    | some promoId =>
      rw [hp] at hreleased
      cases usedCount with
      | none => exact hchanges.missing promoId hreleased
      | some usedCount =>
        obtain ⟨current, hcurrent, hcount⟩ := hreleased
        refine ⟨current, ?_, hcount⟩
        rw [hchanges.promo promoId (hpromo' promoId (by simp [ShopTx.holds, hp]))]
        exact hcurrent
  | .placeOrder _ _ _ .started, _ | .placeOrder _ _ _ .locked, _
  | .placeOrder _ _ _ (.priced _), _ | .placeOrder _ _ _ (.promoLocked _), _
  | .cancel _ _ .started, _ | .cancel _ _ (.looked _), _ | .cancel _ _ (.locked _), _
  | .ended, _ => trivial

/-- What a turn does: the rows stay right, the transaction may rely on what it did, it commits what
it has locked, and it takes locks that are free only. -/
structure TurnSpec (free : ShopLock → Bool) (books : ShopBooks) (tx : ShopTx)
    (next : ShopTx × ShopBooks) : Prop where
  right : PromoBooks next.2
  sound : next.1.Sound next.2
  commits : CommitsUnder tx.holds books next.2
  locks : ∀ lock, next.1.holds lock = true → tx.holds lock = true ∨ free lock = true

variable {free : ShopLock → Bool}

theorem TurnSpec.commit {books' : ShopBooks} {tx : ShopTx} {store promo order : Option String}
    (h : PromoBooks books') (hchanges : ChangesOnly store promo order books books')
    (hstore : ∀ id, store = some id → tx.holds (.store id) = true)
    (hpromo : ∀ id, promo = some id → tx.holds (.promo id) = true)
    (horder : ∀ id, order = some id → tx.holds (.order id) = true) :
    TurnSpec free books tx (.ended, books') :=
  ⟨h, trivial, ⟨store, promo, order, hchanges, hstore, hpromo, horder⟩, nofun⟩

theorem TurnSpec.local {tx tx' : ShopTx} (h : PromoBooks books) (hsound : tx'.Sound books)
    (hlocks : ∀ lock, tx'.holds lock = true → tx.holds lock = true ∨ free lock = true) :
    TurnSpec free books tx (tx', books) :=
  ⟨h, hsound, .refl .., hlocks⟩

theorem claimCheck_ok {promo current : ShopPromoCode} {storeId : String} {subtotal : Decimal}
    {now : ℤ} (h : books.claimCheck promo storeId subtotal now = .ok current) :
    Claimed books storeId promo.id (current.usedCount + 1) := by
  rw [ShopBooks.claimCheck] at h
  split at h
  · cases h
  · rename_i found hnone hfound
    split at h
    · obtain rfl := Except.ok.inj h
      obtain ⟨found', heq, husage, hstore⟩ := checkPromo_none hnone
      rw [hfound] at heq
      obtain rfl := Option.some.inj heq
      exact ⟨found, hfound, rfl, husage, hstore⟩
    · cases h
  · cases h

theorem placeTurn_spec {now : ℤ} (h : PromoBooks books) {subtotal : Decimal} {phase : PlacePhase}
    (hsound : (ShopTx.placeOrder request rows subtotal phase).Sound books) :
    TurnSpec free books (.placeOrder request rows subtotal phase)
      (ShopTx.placeTurn free now books request rows subtotal phase) := by
  match phase, hsound with
  | .started, _ =>
    rw [ShopTx.placeTurn]
    split
    · rename_i hfree
      refine .local h trivial fun lock hheld => Or.inr ?_
      have hlock : lock = .store request.storeId := of_decide_eq_true hheld
      exact hlock ▸ hfree
    · exact .local h trivial fun _ => Or.inl
  | .locked, _ =>
    rw [ShopTx.placeTurn]
    split
    · exact .local h trivial nofun
    · exact .local h trivial fun _ => Or.inl
  | .priced none, _ =>
    rw [ShopTx.placeTurn]
    cases hrun : books.createOrder (newOrder request rows none) with
    | error error => exact .local h trivial nofun
    | ok books' =>
      obtain ⟨hbooks, hchanges⟩ := h.createOrder hrun
      exact .commit hbooks hchanges nofun nofun nofun
  | .priced (some promo), _ =>
    rw [ShopTx.placeTurn]
    split
    · rename_i hfree
      refine .local h trivial fun lock hheld => ?_
      rw [ShopTx.holds, Bool.or_eq_true, decide_eq_true_eq, decide_eq_true_eq] at hheld
      rcases hheld with rfl | rfl
      · exact Or.inl (decide_eq_true rfl)
      · exact Or.inr hfree
    · exact .local h trivial fun _ => Or.inl
  | .promoLocked promo, _ =>
    rw [ShopTx.placeTurn]
    split
    · exact .local h trivial nofun
    · rename_i current hcurrent
      exact .local h (claimCheck_ok hcurrent) fun _ => Or.inl
  | .claimed promo usedCount, hclaimed =>
    rw [ShopTx.placeTurn]
    cases hrun : (books.setUsedCount promo.id usedCount).createOrder
        (newOrder request rows (some promo)) with
    | error error => exact .local h trivial nofun
    | ok books' =>
      obtain ⟨hbooks, hchanges⟩ := h.claim hclaimed hrun
      refine .commit hbooks hchanges (fun id hid => ?_) (fun id hid => ?_) nofun
      · simp [ShopTx.holds, Option.some.inj hid]
      · simp [ShopTx.holds, Option.some.inj hid]

theorem cancelTurn_spec (h : PromoBooks books) {cancelledBy : ShopOrderCancelledBy}
    {phase : CancelPhase} (hsound : (ShopTx.cancel orderId cancelledBy phase).Sound books) :
    TurnSpec free books (.cancel orderId cancelledBy phase)
      (ShopTx.cancelTurn free books orderId cancelledBy phase) := by
  match phase, hsound with
  | .started, _ =>
    rw [ShopTx.cancelTurn]
    split <;> exact .local h trivial fun _ hheld => by simp [ShopTx.holds] at hheld
  | .looked storeId, _ =>
    rw [ShopTx.cancelTurn]
    split
    · rename_i hfree
      refine .local h trivial fun lock hheld => Or.inr ?_
      have hlock : lock = .store storeId := of_decide_eq_true hheld
      exact hlock ▸ hfree
    · exact .local h trivial fun _ => Or.inl
  | .locked storeId, _ =>
    rw [ShopTx.cancelTurn]
    split
    · exact .local h trivial nofun
    · rename_i flipped hflipped
      obtain ⟨hfound, hallowed, _⟩ := ShopBooks.flipCancelled_ok hflipped
      split
      · rename_i hfree
        have hlive : flipped.1.status ≠ .cancelled := by
          intro heq
          rw [heq] at hallowed
          cases cancelledBy <;> simp [ShopOrderCancelledBy.allowedFrom] at hallowed
        refine .local h ⟨hfound, hlive⟩ fun lock hheld => ?_
        rw [ShopTx.holds, Bool.or_eq_true, decide_eq_true_eq] at hheld
        rcases hheld with hheld | rfl
        · exact Or.inl hheld
        · exact Or.inr hfree
      · exact .local h trivial fun _ => Or.inl
  | .flipped storeId order, hcancellable =>
    rw [ShopTx.cancelTurn]
    have hsame : ∀ lock, (ShopTx.cancel orderId cancelledBy (.released storeId order none)).holds
        lock = true → (ShopTx.cancel orderId cancelledBy (.flipped storeId order)).holds lock =
          true ∨ free lock = true := fun lock hheld => Or.inl (by simpa [ShopTx.holds] using hheld)
    split
    · rename_i hnone
      exact .local h ⟨hcancellable, hnone ▸ trivial⟩ hsame
    · rename_i promoId hpromoId
      split
      · rename_i hmissing
        refine .local h ⟨hcancellable, ?_⟩ hsame
        rw [hpromoId]
        exact hmissing
      · rename_i promo hpromo
        obtain ⟨hmem, hid⟩ := ShopBooks.findPromo_some hpromo
        split
        · -- the order itself is a use of the code
          rename_i hzero
          have hused := h.used promo hmem
          rw [hzero, hid] at hused
          obtain ⟨horder, _⟩ := ShopBooks.findOrder_some hcancellable.1
          have hnone := List.countP_eq_zero.1 hused.symm order horder
          simp [hpromoId, hcancellable.2] at hnone
        · rename_i hpos
          split
          · rename_i hfree
            refine .local h ⟨hcancellable, ?_⟩ fun lock hheld => ?_
            · rw [hpromoId]
              exact ⟨promo, hpromo, (Nat.sub_add_cancel (Nat.pos_of_ne_zero hpos)).symm⟩
            · rw [ShopTx.holds, hpromoId, Bool.or_eq_true] at hheld
              rcases hheld with hheld | hheld
              · exact Or.inl hheld
              · have hlock : lock = .promo promoId := of_decide_eq_true hheld
                exact Or.inr (hlock ▸ hfree)
          · exact .local h hcancellable fun _ => Or.inl
  | .released storeId order usedCount, hreleased =>
    rw [ShopTx.cancelTurn]
    obtain ⟨hbooks, hchanges⟩ := h.commitCancel hreleased.1 hreleased.2
    refine .commit hbooks hchanges nofun (fun id hid => ?_) fun id hid => ?_
    · rw [writtenPromo] at hid
      split at hid
      · rename_i hsome
        simp [ShopTx.holds, hid, hsome]
      · cases hid
    · simp [ShopTx.holds, Option.some.inj hid]

/-! ### Runs -/

def PromoInv : ShopWorld → Prop :=
  ThreadPool.Inv PromoBooks ShopTx.Sound (ThreadPool.Excludes ShopTx.holds)

theorem PromoInv.step {w : ShopWorld} (h : PromoInv w) (action : PromoAction) :
    PromoInv (PromoAction.step w action) := by
  have hsymm : ∀ t u : ShopTx, ThreadPool.Excludes ShopTx.holds t u →
      ThreadPool.Excludes ShopTx.holds u t := fun _ _ => ThreadPool.Excludes.symm
  cases action with
  | placeOrder request rows subtotal => exact h.spawn hsymm trivial fun _ _ => nofun
  | cancel orderId cancelledBy => exact h.spawn hsymm trivial fun _ _ => nofun
  | turn i now =>
    rw [PromoAction.step]
    cases htx : w.threads[i]? with
    | none => exact h
    | some tx =>
      have hsound := h.thread i tx htx
      have hturn : TurnSpec (w.free ShopTx.holds) w.shared tx
          (tx.turn (w.free ShopTx.holds) now w.shared) := by
        cases tx with
        | placeOrder request rows subtotal phase => exact placeTurn_spec h.shared hsound
        | cancel orderId cancelledBy phase => exact cancelTurn_spec h.shared hsound
        | ended => exact .local h.shared trivial nofun
      refine h.move hsymm htx hturn.right hturn.sound fun u hu hrely hexcludes =>
        ⟨hrely.stable hturn.commits hexcludes, fun lock hheld => ?_⟩
      rcases hturn.locks lock hheld with hold | hfree
      · exact hexcludes lock hold
      · exact ThreadPool.holds_of_free hfree hu
  | abort i =>
    rw [PromoAction.step]
    cases htx : w.threads[i]? with
    | none => exact h
    | some tx => exact h.move hsymm htx h.shared trivial fun u _ hrely _ => ⟨hrely, nofun⟩
  | advance orderId target =>
    rw [PromoAction.step]
    split
    · rename_i hfree
      cases hrun : w.shared.advance orderId target with
      | error error => exact h.write h.shared fun _ _ hrely => hrely
      | ok books =>
        obtain ⟨hbooks, hchanges⟩ := h.shared.advance hrun
        refine h.write hbooks fun u hu hrely => ?_
        have hcommits : CommitsUnder (fun lock => lock = .order orderId) w.shared books :=
          ⟨none, none, some orderId, hchanges, nofun, nofun,
            fun id hid => by simp [Option.some.inj hid]⟩
        refine hrely.stable hcommits fun lock hlock => ?_
        have heq : lock = .order orderId := of_decide_eq_true hlock
        exact heq ▸ ThreadPool.holds_of_free hfree hu
    · exact h

/-- **The accounts of promo codes.**  However the transactions of any number of stores are
interleaved, the count of a promo code is the number of orders that hold it and are not cancelled;
it never exceeds the code's limit, and no store's orders exceed the limit for a store. -/
theorem promo_accounting {books : ShopBooks} (hids : (books.promos.map (·.id)).Nodup)
    (hunused : ∀ promo ∈ books.promos, promo.usedCount = 0) (hnone : books.orders = [])
    (actions : List PromoAction) :
    let reached := (Machine.run PromoAction.step { shared := books } actions).shared
    ∀ promo ∈ reached.promos, promo.usedCount = reached.uses promo.id ∧
      (∀ limit, promo.usageLimit = some limit → promo.usedCount ≤ limit) ∧
      ∀ storeId limit, promo.perStoreLimit = some limit →
        reached.storeUses storeId promo.id ≤ limit := by
  have hstart : PromoBooks books := by
    have huses : ∀ promoId, books.uses promoId = 0 := fun promoId => by
      rw [ShopBooks.uses, hnone, List.countP_nil]
    have hstore : ∀ storeId promoId, books.storeUses storeId promoId = 0 :=
      fun storeId promoId => by rw [ShopBooks.storeUses, hnone, List.countP_nil]
    refine ⟨hids, by simp [hnone], fun promo hmem => ?_, fun promo hmem limit _ => ?_,
      fun promo _ storeId limit _ => ?_⟩
    · rw [hunused promo hmem, huses]
    · rw [hunused promo hmem]
      exact Nat.zero_le limit
    · rw [hstore]
      exact Nat.zero_le limit
  have hreached : PromoInv (Machine.run PromoAction.step { shared := books } actions) :=
    Machine.run_keeps (I := PromoInv) (fun _ action hw => hw.step action)
      (ThreadPool.Inv.start hstart) actions
  exact fun promo hmem => ⟨hreached.shared.used promo hmem, hreached.shared.usageLimit promo hmem,
    hreached.shared.perStoreLimit promo hmem⟩

def welcomeCode : ShopBooks :=
  { promos := [{ id := "promo", code := "WELCOME", usageLimit := some 2,
                 perStoreLimit := some 1 }] }

/-- Two stores place an order with it at the same time, and the first one's is cancelled. -/
def twoStores : List PromoAction :=
  [.placeOrder { storeId := "one", orderId := "first", promoCode := some "WELCOME" } [] 100,
    .placeOrder { storeId := "two", orderId := "second", promoCode := some "WELCOME" } [] 100,
    .turn 0 0, .turn 1 0, .turn 0 0, .turn 1 0, .turn 0 0, .turn 1 0, .turn 0 0, .turn 0 0,
    .turn 1 0, .turn 1 0, .cancel "first" .merchant, .turn 2 0, .turn 2 0, .turn 2 0, .turn 1 0,
    .turn 2 0, .turn 2 0]

theorem promo_accounting_welcome :
    let reached := (Machine.run PromoAction.step { shared := welcomeCode } twoStores).shared
    reached.uses "promo" = 1 ∧ ∀ promo ∈ reached.promos, promo.usedCount = 1 := by
  intro reached
  have huses : reached.uses "promo" = 1 := by decide +kernel
  have hids : ∀ promo ∈ reached.promos, promo.id = "promo" := by decide +kernel
  refine ⟨huses, fun promo hmem => ?_⟩
  have haccount := @promo_accounting welcomeCode (by decide) (by decide) rfl twoStores promo hmem
  exact haccount.1.trans (hids promo hmem ▸ huses)

end Zomaal.Shop
