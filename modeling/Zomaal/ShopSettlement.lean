/-
**Delivered orders are recorded once, but an item whose credit failed is never credited.**

The purchases of an order are written in the transaction that delivers it.  The packaging of an item
is credited in a transaction of its own under a key made from the item; when that transaction fails,
nothing tries again.

Main results:

* `Purchasing.Stuck.step` — what was not credited at delivery stays so;
* `Purchasing.shopDelivery` — **what is missing can be credited exactly as long as every credit goes
  through the first time**.
-/

import Zomaal.PurchaseBooks
import Zomaal.ShopDelivery

set_option autoImplicit false

namespace Zomaal.Purchasing

open Shop (ShopOrderStatus ShopOrderCancelledBy)

/-! ### What was credited for an item -/

def deliveryMovement (itemId : String) (movement : InventoryMovement) : Bool :=
  movement.type = .packagingReceived ∧ movement.referenceType = some "ZOMAAL_SHOP_DELIVERY" ∧
    movement.referenceId = some itemId

def Uncredited (s : Books) (itemId : String) : Prop :=
  ∀ movement ∈ s.stock.movements, movement.idempotencyKey ≠ some (shopDeliveryKey itemId) ∧
    deliveryMovement itemId movement = false

def Credited (s : Books) (item : ShopOrderItem) : Prop :=
  ∃ inventoryItemId resultingQuantity, s.stock.movements.filter (deliveryMovement item.id) =
    [creditMovement inventoryItemId item.quantity item.id resultingQuantity]

theorem shopDeliveryKey_inj {a b : String} (h : shopDeliveryKey a = shopDeliveryKey b) : a = b :=
  (String.append_right_inj _).1 h

theorem deliveryMovement_creditMovement (itemId inventoryItemId reference : String)
    (quantity resultingQuantity : ℤ) :
    deliveryMovement itemId (creditMovement inventoryItemId quantity reference resultingQuantity) =
      decide (reference = itemId) := by
  simp [deliveryMovement, creditMovement]

theorem Credited.not_uncredited {s : Books} {item : ShopOrderItem} (h : Credited s item) :
    ¬ Uncredited s item.id := by
  rintro hnone
  obtain ⟨inventoryItemId, resultingQuantity, hfilter⟩ := h
  have hmem : creditMovement inventoryItemId item.quantity item.id resultingQuantity ∈
      s.stock.movements.filter (deliveryMovement item.id) := by
    rw [hfilter]
    exact List.mem_singleton_self _
  obtain ⟨hmem, hyes⟩ := List.mem_filter.1 hmem
  rw [(hnone _ hmem).2] at hyes
  cases hyes

/-- What a piece of a call does to the credits: no movement, or the one that credits an item. -/
def CreditsAtMost (s t : Books) (item : ShopOrderItem) : Prop :=
  Silent s t ∨ ∃ inventoryItemId resultingQuantity, Writes s t s.purchases s.expenses
    [creditMovement inventoryItemId item.quantity item.id resultingQuantity]

theorem Uncredited.of_movements {s t : Books} (h : s.stock.movements = t.stock.movements)
    {itemId : String} (hs : Uncredited s itemId) : Uncredited t itemId := by
  rw [Uncredited, ← h]
  exact hs

theorem CreditsAtMost.other {s t : Books} {item : ShopOrderItem} (h : CreditsAtMost s t item)
    {other : String} (hne : other ≠ item.id) :
    (Uncredited s other → Uncredited t other) ∧
      ∀ credited : ShopOrderItem, credited.id = other → Credited s credited →
        Credited t credited := by
  rcases h with hw | ⟨inventoryItemId, resultingQuantity, hw⟩
  · have hmovements : t.stock.movements = s.stock.movements := by
      rw [hw.movements, List.append_nil]
    refine ⟨fun hs => Uncredited.of_movements hmovements.symm hs, fun credited _ hs => ?_⟩
    rw [Credited, hmovements]
    exact hs
  · refine ⟨fun hs m hm => ?_, fun credited hid hs => ?_⟩
    · rw [hw.movements] at hm
      rcases Ledger.mem_concat.1 hm with hm | rfl
      · exact hs m hm
      · refine ⟨fun heq => hne ?_, ?_⟩
        · exact (shopDeliveryKey_inj (Option.some.inj heq)).symm
        · rw [deliveryMovement_creditMovement, decide_eq_false_iff_not]
          exact fun heq => hne heq.symm
    · obtain ⟨inventoryItemId', resultingQuantity', hfilter⟩ := hs
      refine ⟨inventoryItemId', resultingQuantity', ?_⟩
      have hnot : deliveryMovement credited.id
          (creditMovement inventoryItemId item.quantity item.id resultingQuantity) = false := by
        rw [deliveryMovement_creditMovement, decide_eq_false_iff_not]
        exact fun heq => hne (hid.symm.trans heq.symm)
      rw [hw.movements, List.filter_append, hfilter, List.filter_cons_of_neg (by simp [hnot])]
      rfl

/-- A part of a call that writes no purchase and no expense, and credits none but the items given.
-/
structure CreditsKept (s t : Books) (ids : List String) : Prop where
  purchases : t.purchases = s.purchases
  expenses : t.expenses = s.expenses
  drawn : s.drawn ⊆ t.drawn
  uncredited : ∀ id, id ∉ ids → Uncredited s id → Uncredited t id
  credited : ∀ item : ShopOrderItem, item.id ∉ ids → Credited s item → Credited t item

theorem CreditsKept.refl (s : Books) (ids : List String) : CreditsKept s s ids :=
  ⟨rfl, rfl, fun _ h => h, fun _ _ h => h, fun _ _ h => h⟩

variable {ids : List String}

theorem CreditsKept.trans {s t u : Books} (h : CreditsKept s t ids) (h' : CreditsKept t u ids) :
    CreditsKept s u ids :=
  ⟨h'.purchases.trans h.purchases, h'.expenses.trans h.expenses,
    fun _ hid => h'.drawn (h.drawn hid),
    fun id hid hs => h'.uncredited id hid (h.uncredited id hid hs),
    fun item hid hs => h'.credited item hid (h.credited item hid hs)⟩

theorem CreditsKept.widen {s t : Books} {ids' : List String} (h : CreditsKept s t ids)
    (hids : ids ⊆ ids') : CreditsKept s t ids' :=
  ⟨h.purchases, h.expenses, h.drawn, fun id hid => h.uncredited id fun hmem => hid (hids hmem),
    fun item hid => h.credited item fun hmem => hid (hids hmem)⟩

theorem CreditsAtMost.kept {s t : Books} {item : ShopOrderItem} (h : CreditsAtMost s t item) :
    CreditsKept s t [item.id] where
  purchases := by
    rcases h with hw | ⟨_, _, hw⟩
    · exact hw.purchases
    · exact hw.purchases
  expenses := by
    rcases h with hw | ⟨_, _, hw⟩
    · exact hw.expenses
    · exact hw.expenses
  drawn := by
    rcases h with hw | ⟨_, _, hw⟩
    · exact hw.drawn
    · exact hw.drawn
  uncredited id hid hs := (h.other (by simpa using hid)).1 hs
  credited credited hid hs := (h.other (by simpa using hid)).2 credited rfl hs

theorem Uncredited.credit {s t : Books} {item : ShopOrderItem} {inventoryItemId : String}
    {resultingQuantity : ℤ} (hs : Uncredited s item.id)
    (hmovements : t.stock.movements = s.stock.movements ++
      [creditMovement inventoryItemId item.quantity item.id resultingQuantity]) :
    Credited t item := by
  refine ⟨inventoryItemId, resultingQuantity, ?_⟩
  have hnone : s.stock.movements.filter (deliveryMovement item.id) = [] :=
    List.filter_eq_nil_iff.2 fun m hm => by simp [(hs m hm).2]
  rw [hmovements, List.filter_append, hnone, List.nil_append,
    List.filter_cons_of_pos (by simp [deliveryMovement_creditMovement])]
  rfl

theorem CreditsAtMost.self {s t : Books} {item : ShopOrderItem} (h : CreditsAtMost s t item)
    (hs : Uncredited s item.id) : Uncredited t item.id ∨ Credited t item := by
  rcases h with hw | ⟨inventoryItemId, resultingQuantity, hw⟩
  · exact Or.inl (Uncredited.of_movements (by rw [hw.movements, List.append_nil]) hs)
  · exact Or.inr (hs.credit hw.movements)

theorem Books.creditDeliveredPurchase_first {s : Books} (storeId : String)
    (item : DeliveredPackagingPurchase) (source : IdSource)
    (hs : Uncredited s item.deliveryReference) :
    let packaging := s.packagingItem storeId item source
    s.creditDeliveredPurchase storeId item source =
      if maxQuantity < (packaging.2.stock.balanceOf packaging.1).onHand + item.quantity then
        .error (.stock .integerOutOfRange)
      else .ok { packaging.2 with
        stock := packaging.2.stock.post
          { packaging.2.stock.balanceOf packaging.1 with
            onHand := (packaging.2.stock.balanceOf packaging.1).onHand + item.quantity }
          (creditMovement packaging.1 item.quantity item.deliveryReference
            ((packaging.2.stock.balanceOf packaging.1).onHand + item.quantity)) } := by
  have hp := Books.packagingItem_silent s storeId item source
  intro packaging
  have hkey : packaging.2.stock.findMovement packaging.1
      (shopDeliveryKey item.deliveryReference) = none := by
    rw [Store.findMovement_eq_none_iff, hp.movements, List.append_nil]
    exact fun m hm _ => (hs m hm).1
  rw [Books.creditDeliveredPurchase]
  change packaging.2.creditOnHand packaging.1 item.quantity item.deliveryReference = _
  rw [Books.creditOnHand, hkey]

/-! ### The credits of a delivery -/

def ShopOrderItem.catalogId (item : ShopOrderItem) : Option String :=
  item.variantId.orElse fun _ => item.productId

/-- The credit of an item meets no obstacle: no error of the database, and room in the balance. -/
def ItemClear (call : AdvanceCall) (storeId : String) (s : Deliveries) (item : ShopOrderItem) :
    Prop :=
  call.obstacle item.id = none ∧ ∀ catalogId, item.catalogId = some catalogId →
    let packaging := s.books.packagingItem storeId (ShopOrder.delivered s item catalogId)
      call.source
    (packaging.2.stock.balanceOf packaging.1).onHand + item.quantity ≤ maxQuantity

def CreditsClear (call : AdvanceCall) (storeId : String) : Deliveries → List ShopOrderItem → Prop
  | _, [] => True
  | s, item :: items =>
    ItemClear call storeId s item ∧
      CreditsClear call storeId (Deliveries.creditItem call storeId s item) items

namespace Deliveries

variable {call : AdvanceCall} {storeId : String} {s : Deliveries} {item : ShopOrderItem}

theorem creditItem_frame (call : AdvanceCall) (storeId : String) (s : Deliveries)
    (item : ShopOrderItem) : ∃ books failures,
    creditItem call storeId s item = { s with books, failures } := by
  unfold creditItem
  split
  · exact ⟨s.books, s.failures, rfl⟩
  · dsimp only
    split
    · exact ⟨_, s.failures, rfl⟩
    · exact ⟨s.books, _, rfl⟩

theorem creditItem_credits (call : AdvanceCall) (storeId : String) (s : Deliveries)
    (item : ShopOrderItem) :
    CreditsAtMost s.books (creditItem call storeId s item).books item := by
  unfold creditItem
  split
  · exact Or.inl (Silent.refl _)
  · dsimp only
    split
    · rename_i books hcredit
      split at hcredit
      · cases hcredit
      · exact Books.creditDeliveredPurchase_ok hcredit
    · exact Or.inl (Silent.refl _)

theorem creditItem_clear_iff (hcatalog : item.catalogId.isSome)
    (hs : Uncredited s.books item.id) :
    ItemClear call storeId s item ↔ Credited (creditItem call storeId s item).books item := by
  obtain ⟨catalogId, hcatalog⟩ := Option.isSome_iff_exists.1 hcatalog
  unfold creditItem ItemClear
  rw [← ShopOrderItem.catalogId, hcatalog]
  dsimp only
  cases hobstacle : call.obstacle item.id with
  | some e => exact ⟨fun h => (nomatch h.1), fun h => absurd hs h.not_uncredited⟩
  | none =>
    have hp := Books.packagingItem_silent s.books storeId
      (ShopOrder.delivered s item catalogId) call.source
    have hfirst := Books.creditDeliveredPurchase_first storeId
      (ShopOrder.delivered s item catalogId) call.source hs
    dsimp only at hfirst ⊢
    rw [hfirst]
    set packaging := s.books.packagingItem storeId (ShopOrder.delivered s item catalogId)
      call.source
    by_cases hfull : maxQuantity < (packaging.2.stock.balanceOf packaging.1).onHand +
        (ShopOrder.delivered s item catalogId).quantity
    · rw [if_pos hfull]
      constructor
      · exact fun h => absurd (h.2 catalogId rfl) (not_le.2 hfull)
      · exact fun h => absurd hs h.not_uncredited
    · rw [if_neg hfull]
      constructor
      · intro _
        have hmovements : packaging.2.stock.movements ++ [creditMovement packaging.1 item.quantity
            item.id ((packaging.2.stock.balanceOf packaging.1).onHand + item.quantity)] =
            s.books.stock.movements ++ [creditMovement packaging.1 item.quantity item.id
              ((packaging.2.stock.balanceOf packaging.1).onHand + item.quantity)] := by
          rw [hp.movements, List.append_nil]
        exact hs.credit hmovements
      · intro _
        refine ⟨rfl, fun other hother => ?_⟩
        obtain rfl := Option.some.inj hother
        exact not_lt.1 hfull

/-! ### The loop over the items -/

theorem credits_frame (call : AdvanceCall) (storeId : String) (items : List ShopOrderItem)
    (s : Deliveries) :
    ∃ books failures, items.foldl (creditItem call storeId) s = { s with books, failures } := by
  induction items generalizing s with
  | nil => exact ⟨s.books, s.failures, rfl⟩
  | cons item items ih =>
    obtain ⟨books, failures, h⟩ := creditItem_frame call storeId s item
    rw [List.foldl_cons, h]
    exact ih _

theorem credits_kept (call : AdvanceCall) (storeId : String) (items : List ShopOrderItem)
    (s : Deliveries) :
    CreditsKept s.books (items.foldl (creditItem call storeId) s).books
      (items.map ShopOrderItem.id) := by
  induction items generalizing s with
  | nil => exact CreditsKept.refl _ _
  | cons item items ih =>
    rw [List.foldl_cons, List.map_cons]
    refine CreditsKept.trans ?_ ((ih _).widen fun _ h => List.mem_cons_of_mem _ h)
    refine (creditItem_credits call storeId s item).kept.widen fun id h => ?_
    exact List.mem_cons.2 (Or.inl (List.mem_singleton.1 h))

theorem credits_spec (call : AdvanceCall) (storeId : String) (items : List ShopOrderItem)
    (s : Deliveries)
    (hnodup : (items.map ShopOrderItem.id).Nodup)
    (hcatalog : ∀ item ∈ items, item.catalogId.isSome)
    (hs : ∀ item ∈ items, Uncredited s.books item.id) :
    (∀ item ∈ items, Uncredited (items.foldl (creditItem call storeId) s).books item.id ∨
      Credited (items.foldl (creditItem call storeId) s).books item) ∧
    (CreditsClear call storeId s items ↔
      ∀ item ∈ items, Credited (items.foldl (creditItem call storeId) s).books item) := by
  induction items generalizing s with
  | nil => exact ⟨fun _ h => (nomatch h), fun _ _ h => (nomatch h), fun _ => trivial⟩
  | cons item items ih =>
    rw [List.map_cons, List.nodup_cons] at hnodup
    obtain ⟨hnew, hnodup⟩ := hnodup
    have hcredit := creditItem_credits call storeId s item
    have hitem := hs item (List.mem_cons_self ..)
    obtain ⟨hall, hiff⟩ := ih (creditItem call storeId s item) hnodup
      (fun other h => hcatalog other (List.mem_cons_of_mem _ h)) fun other h =>
        (hcredit.other fun heq => hnew (heq ▸ List.mem_map_of_mem h)).1
          (hs other (List.mem_cons_of_mem _ h))
    -- the rest of the loop leaves the first item as its own turn left it
    have hrest := credits_kept call storeId items
      (creditItem call storeId s item)
    have hself := hcredit.self hitem
    rw [List.foldl_cons]
    constructor
    · intro other hother
      rcases List.mem_cons.1 hother with rfl | hother
      · exact hself.imp (hrest.uncredited _ hnew) (hrest.credited _ hnew)
      · exact hall other hother
    · rw [CreditsClear, hiff, List.forall_mem_cons,
        creditItem_clear_iff (hcatalog item (List.mem_cons_self ..)) hitem]
      refine and_congr_left fun _ => ⟨hrest.credited _ hnew, fun hfinal => ?_⟩
      exact hself.resolve_left fun hnone => hfinal.not_uncredited (hrest.uncredited _ hnew hnone)

end Deliveries

/-! ### Recording an order -/

def Unrecorded (s : Books) (itemId : String) : Prop :=
  ∀ purchase ∈ s.purchases, purchase.shopOrderItemId ≠ some itemId

def Recorded (s : Books) (item : ShopOrderItem) : Prop :=
  ∃ purchase, s.purchases.filter (fun p => p.shopOrderItemId = some item.id) = [purchase] ∧
    purchase.source = .shop ∧ purchase.quantity = item.quantity ∧
    ∃ expense, s.expenses.filter (fun e => purchase.expenseId = some e.id) = [expense]

structure Keyed (s : Books) : Prop where
  nodup : (s.expenses.map Expense.id).Nodup
  drawn : ∀ e ∈ s.expenses, e.id ∈ s.drawn

structure RecordsKept (s t : Books) (ids : List String) : Prop where
  movements : t.stock.movements = s.stock.movements
  drawn : s.drawn ⊆ t.drawn
  keyed : Keyed t
  unrecorded : ∀ id, id ∉ ids → Unrecorded s id → Unrecorded t id
  recorded : ∀ item : ShopOrderItem, item.id ∉ ids → Recorded s item → Recorded t item

theorem RecordsKept.trans {s t u : Books} (h : RecordsKept s t ids) (h' : RecordsKept t u ids) :
    RecordsKept s u ids :=
  ⟨h'.movements.trans h.movements, fun _ hid => h'.drawn (h.drawn hid), h'.keyed,
    fun id hid hs => h'.unrecorded id hid (h.unrecorded id hid hs),
    fun item hid hs => h'.recorded item hid (h.recorded item hid hs)⟩

theorem RecordsKept.widen {s t : Books} {ids' : List String} (h : RecordsKept s t ids)
    (hids : ids ⊆ ids') : RecordsKept s t ids' :=
  ⟨h.movements, h.drawn, h.keyed, fun id hid => h.unrecorded id fun hmem => hid (hids hmem),
    fun item hid => h.recorded item fun hmem => hid (hids hmem)⟩

namespace Books

variable {recording : Recording}

theorem recordItem_ok {s t : Books} {item : ShopOrderItem} (hnew : item.id ∉ recording.recorded)
    (h : s.recordItem recording item = .ok t) :
    ∃ purchase expense, Writes s t (s.purchases ++ [purchase]) (s.expenses ++ [expense]) [] ∧
      purchase.shopOrderItemId = some item.id ∧ purchase.source = .shop ∧
      purchase.quantity = item.quantity ∧ purchase.expenseId = some expense.id ∧
      expense.id ∉ s.drawn ∧ expense.id ∈ t.drawn := by
  rw [recordItem, if_neg hnew] at h
  obtain ⟨u, hexpense, h⟩ := Except.bind_eq_ok h
  obtain ⟨v, hdraw, h⟩ := Except.bind_eq_ok h
  obtain ⟨expense, hid, -, hfresh, hdrawn, hu⟩ := createPurchaseExpense_ok hexpense
  obtain ⟨-, -, hv⟩ := draw_ok hdraw
  split at h
  · cases h
  · obtain rfl := Except.ok.inj h
    have hw := hu.then hv
    refine ⟨recording.purchase item (recording.source.next u.drawn) expense.id, expense,
      ⟨?_, hw.expenses, hw.movements, hw.items, hw.drawn⟩, rfl, rfl, rfl, rfl, by rwa [hid], ?_⟩
    · change v.purchases ++ _ = _
      rw [hw.purchases, hid]
    · rw [hid]
      exact hv.drawn hdrawn

theorem recordItem_spec {s t : Books} {item : ShopOrderItem} (hs : Keyed s)
    (hnew : Unrecorded s item.id) (hrecorded : item.id ∉ recording.recorded)
    (h : s.recordItem recording item = .ok t) : RecordsKept s t [item.id] ∧ Recorded t item := by
  obtain ⟨purchase, expense, hw, hitem, hsource, hquantity, hlink, hfresh, hdrawn⟩ :=
    recordItem_ok hrecorded h
  have hexpenseNew : expense.id ∉ s.expenses.map Expense.id := fun hmem => by
    obtain ⟨e, he, heq⟩ := List.mem_map.1 hmem
    exact hfresh (heq ▸ hs.drawn e he)
  refine ⟨⟨by rw [hw.movements, List.append_nil], hw.drawn, ⟨?_, fun e he => ?_⟩,
    fun id hid hs p hp => ?_, fun other hid hother => ?_⟩, ?_⟩
  · rw [hw.expenses]
    exact KeyedRows.nodup_append _ hs.nodup hexpenseNew
  · rw [hw.expenses] at he
    rcases Ledger.mem_concat.1 he with he | he
    · exact hw.drawn (hs.drawn e he)
    · rw [he]
      exact hdrawn
  · rw [hw.purchases] at hp
    rcases Ledger.mem_concat.1 hp with hp | hp
    · exact hs p hp
    · rw [hp, hitem]
      exact fun heq => hid (by simp [Option.some.inj heq])
  · obtain ⟨p, hp, hpsource, hpquantity, e, he⟩ := hother
    refine ⟨p, ?_, hpsource, hpquantity, e, ?_⟩
    · rw [hw.purchases, List.filter_append, hp, List.filter_cons_of_neg]
      · rfl
      · rw [hitem, decide_eq_true_eq]
        exact fun heq => hid (by simp [Option.some.inj heq])
    · have hmem : e ∈ s.expenses.filter fun e => p.expenseId = some e.id := by
        rw [he]
        exact List.mem_singleton_self _
      obtain ⟨hmem, hpe⟩ := List.mem_filter.1 hmem
      rw [decide_eq_true_eq] at hpe
      rw [hw.expenses, List.filter_append, he, List.filter_cons_of_neg]
      · rfl
      · rw [hpe, decide_eq_true_eq]
        exact fun heq => hfresh (Option.some.inj heq ▸ hs.drawn e hmem)
  · refine ⟨purchase, ?_, hsource, hquantity, expense, ?_⟩
    · have hnone : s.purchases.filter (fun p => p.shopOrderItemId = some item.id) = [] :=
        List.filter_eq_nil_iff.2 fun p hp => by simp [hnew p hp]
      rw [hw.purchases, List.filter_append, hnone, List.nil_append,
        List.filter_cons_of_pos (by simp [hitem])]
      rfl
    · have hnone : s.expenses.filter (fun e => purchase.expenseId = some e.id) = [] :=
        List.filter_eq_nil_iff.2 fun e he => by
          rw [hlink, decide_eq_true_eq]
          exact fun heq => hfresh (Option.some.inj heq ▸ hs.drawn e he)
      rw [hw.expenses, List.filter_append, hnone, List.nil_append,
        List.filter_cons_of_pos (by simp [hlink])]
      rfl

theorem recordItems_spec (items : List ShopOrderItem) {s t : Books} (hs : Keyed s)
    (hnodup : (items.map ShopOrderItem.id).Nodup)
    (hnew : ∀ item ∈ items, Unrecorded s item.id ∧ item.id ∉ recording.recorded)
    (h : items.foldlM (fun s item => s.recordItem recording item) s = .ok t) :
    RecordsKept s t (items.map ShopOrderItem.id) ∧ ∀ item ∈ items, Recorded t item := by
  induction items generalizing s with
  | nil =>
    obtain rfl := Except.ok.inj h
    exact ⟨⟨rfl, fun _ h => h, hs, fun _ _ h => h, fun _ _ h => h⟩, fun _ h => (nomatch h)⟩
  | cons item items ih =>
    rw [List.map_cons, List.nodup_cons] at hnodup
    obtain ⟨hitem, hnodup⟩ := hnodup
    rw [List.foldlM_cons] at h
    obtain ⟨u, hrecord, h⟩ := Except.bind_eq_ok h
    obtain ⟨hfree, hfree'⟩ := hnew item (List.mem_cons_self ..)
    obtain ⟨hkept, hrecorded⟩ := recordItem_spec hs hfree hfree' hrecord
    obtain ⟨hrest, hall⟩ := ih hkept.keyed hnodup (fun other hother => by
      obtain ⟨hfree, hfree'⟩ := hnew other (List.mem_cons_of_mem _ hother)
      refine ⟨hkept.unrecorded _ (fun hmem => hitem ?_) hfree, hfree'⟩
      rw [← List.mem_singleton.1 hmem]
      exact List.mem_map_of_mem hother) h
    refine ⟨(hkept.widen ?_).trans (hrest.widen fun _ h => List.mem_cons_of_mem _ h),
      fun other hother => ?_⟩
    · rw [List.map_cons]
      exact fun id h => List.mem_cons.2 (Or.inl (List.mem_singleton.1 h))
    · rcases List.mem_cons.1 hother with rfl | hother
      · exact hrest.recorded _ hitem hrecorded
      · exact hall other hother

theorem recordPurchases_spec {s t : Books} {order : ShopOrder} {deliveredAt : ℤ}
    {rate : ExchangeRate} {baseCurrency : String} {source : IdSource} (hs : Keyed s)
    (hnodup : (order.items.map ShopOrderItem.id).Nodup)
    (hnew : ∀ item ∈ order.items, Unrecorded s item.id)
    (h : s.recordPurchases order deliveredAt rate baseCurrency source = .ok t) :
    RecordsKept s t (order.items.map ShopOrderItem.id) ∧ ∀ item ∈ order.items, Recorded t item := by
  obtain ⟨purchaseCosts, -, h⟩ := Except.bind_eq_ok h
  obtain ⟨-, -, h⟩ := Except.bind_eq_ok h
  obtain ⟨expenseCosts, -, h⟩ := Except.bind_eq_ok h
  refine recordItems_spec order.items hs hnodup
    (fun item hitem => ⟨hnew item hitem, fun hmem => ?_⟩) h
  obtain ⟨p, hp, heq⟩ := List.mem_filterMap.1 hmem
  exact hnew item hitem p hp heq

end Books

/-! ### What a call does -/

theorem not_delivered_of_allowed {status target : ShopOrderStatus} (htarget : target ∈ forward)
    (h : status ∈ allowedFrom target) : status ≠ .delivered := by
  rintro rfl
  revert h htarget
  cases target <;> decide

namespace Deliveries

variable {s t : Deliveries} {call : AdvanceCall}

theorem movable_ok {order : ShopOrder} (h : s.movable call = .ok order) :
    s.findOrder call.orderId = some order ∧ order.status ∈ allowedFrom call.status := by
  rw [movable] at h
  split at h
  · cases h
  · rename_i found hfound
    split at h
    · rename_i hstatus
      obtain rfl := Except.ok.inj h
      exact ⟨hfound, hstatus⟩
    · cases h

theorem moveForward_ok {settlement : Option (ShopOrder × ExchangeRate)}
    (h : s.moveForward call settlement = .ok t) :
    ∃ order books, s.findOrder call.orderId = some order ∧
      order.status ∈ allowedFrom call.status ∧ s.post call order settlement = .ok books ∧
      t = { s with
        orders := KeyedRows.change ShopOrder.id call.orderId (·.advanced call) s.orders
        books } := by
  obtain ⟨-, -, h⟩ := Except.bind_eq_ok h
  obtain ⟨order, hmovable, h⟩ := Except.bind_eq_ok h
  obtain ⟨books, hpost, h⟩ := Except.bind_eq_ok h
  obtain ⟨hfound, hstatus⟩ := movable_ok hmovable
  exact ⟨order, books, hfound, hstatus, hpost, (Except.ok.inj h).symm⟩

theorem findOrder_moved {order : ShopOrder} {books : Books}
    (h : s.findOrder call.orderId = some order) :
    ({ s with
      orders := KeyedRows.change ShopOrder.id call.orderId (·.advanced call) s.orders
      books } : Deliveries).findOrder call.orderId = some (order.advanced call) := by
  rw [findOrder] at h ⊢
  rw [KeyedRows.lookup_change ShopOrder.id (f := fun order => order.advanced call) fun _ => rfl, h]
  simp

/-- **What a call of `advance` does** that does not throw: the order is moved forward, and, if it is
delivered, recorded and credited. -/
theorem advance_ok (h : s.advance call = .ok t) :
    ∃ order, s.findOrder call.orderId = some order ∧ order.status ≠ .delivered ∧
      ((call.status ≠ .delivered ∧ t = { s with
          orders := KeyedRows.change ShopOrder.id call.orderId (·.advanced call) s.orders }) ∨
        (call.status = .delivered ∧ ∃ settlement rate books moved,
          s.settlementOf call = .ok settlement ∧ s.moveForward call settlement = .ok moved ∧
          s.books.recordPurchases order call.now rate (call.baseCurrency.getD "") call.source =
            .ok books ∧
          moved = { s with
            orders := KeyedRows.change ShopOrder.id call.orderId (·.advanced call) s.orders
            books } ∧
          t = order.items.foldl (creditItem call order.storeId) moved)) := by
  rw [advance] at h
  split at h
  · cases h
  · rename_i htarget
    have hforward : call.status ∈ forward := by
      by_contra hnot
      exact htarget (Or.inl hnot)
    obtain ⟨settlement, hsettlement, h⟩ := Except.bind_eq_ok h
    obtain ⟨moved, hmoved, h⟩ := Except.bind_eq_ok h
    obtain ⟨order, books, hfound, hstatus, hpost, hmoved_eq⟩ := moveForward_ok hmoved
    refine ⟨order, hfound, not_delivered_of_allowed hforward hstatus, ?_⟩
    have ht := Except.ok.inj h
    by_cases hdelivered : call.status = .delivered
    · right
      rw [if_pos hdelivered, creditPackagingFromDelivery, hmoved_eq, findOrder_moved hfound] at ht
      have hsome : ∃ rate, settlement = some (order, rate) := by
        rw [settlementOf, if_pos hdelivered, hfound] at hsettlement
        obtain ⟨rate, -, hrate⟩ := Except.map_eq_ok hsettlement
        exact ⟨rate, hrate.symm⟩
      obtain ⟨rate, rfl⟩ := hsome
      exact ⟨hdelivered, _, rate, books, moved, hsettlement, hmoved, hpost, hmoved_eq,
        hmoved_eq ▸ ht.symm⟩
    · left
      rw [if_neg hdelivered] at ht
      rw [settlementOf, if_neg hdelivered] at hsettlement
      obtain rfl := Except.ok.inj hsettlement
      obtain rfl := Except.ok.inj hpost
      exact ⟨hdelivered, ht.symm.trans hmoved_eq⟩

theorem cancel_ok {orderId : String} {cancelledBy : ShopOrderCancelledBy} {reason : Option String}
    {now : ℤ} (h : s.cancel orderId cancelledBy reason now = .ok t) :
    ∃ order, s.findOrder orderId = some order ∧ order.status ≠ .delivered ∧
      t = { s with
        orders := KeyedRows.change ShopOrder.id orderId (fun order =>
          { order with
            status := .cancelled
            cancelledAt := some now
            cancelledBy := some cancelledBy
            cancelReason := trimToNull reason }) s.orders } := by
  unfold cancel at h
  split at h
  · cases h
  · rename_i order hfound
    split at h
    · rename_i hstatus
      refine ⟨order, hfound, ?_, (Except.ok.inj h).symm⟩
      rintro hdelivered
      rw [hdelivered] at hstatus
      revert hstatus
      cases cancelledBy <;> decide
    · cases h

end Deliveries

/-! ### The invariant -/

/-- **The invariant**: an order that was not delivered is not recorded and its items are not
credited; the items of a delivered one are recorded, and credited once or missing. -/
structure Inv (s : Deliveries) : Prop where
  orderIds : (s.orders.map ShopOrder.id).Nodup
  itemIds : (s.orders.flatMap fun order => order.items.map ShopOrderItem.id).Nodup
  catalogued : ∀ order ∈ s.orders, ∀ item ∈ order.items, item.catalogId.isSome
  keyed : Keyed s.books
  waiting : ∀ order ∈ s.orders, order.status ≠ .delivered → ∀ item ∈ order.items,
    Unrecorded s.books item.id ∧ Uncredited s.books item.id
  settled : ∀ order ∈ s.orders, order.status = .delivered → ∀ item ∈ order.items,
    Recorded s.books item ∧ (Uncredited s.books item.id ∨ Credited s.books item)

namespace Inv

variable {s : Deliveries}

variable {order : ShopOrder}

theorem apart (hs : Inv s) {other : ShopOrder} (horder : order ∈ s.orders)
    (hother : other ∈ s.orders) (hne : other ≠ order) {item : ShopOrderItem}
    (hitem : item ∈ other.items) : item.id ∉ order.items.map ShopOrderItem.id := by
  obtain ⟨-, hpairs⟩ := List.nodup_flatMap.1 hs.itemIds
  have : Std.Symm (Function.onFun List.Disjoint fun order : ShopOrder =>
      order.items.map ShopOrderItem.id) := ⟨fun _ _ h => List.Disjoint.symm h⟩
  have hdisjoint := hpairs.forall hother horder hne
  exact fun hmem => hdisjoint (List.mem_map_of_mem hitem) hmem

theorem items_nodup (hs : Inv s) (horder : order ∈ s.orders) :
    (order.items.map ShopOrderItem.id).Nodup :=
  (List.nodup_flatMap.1 hs.itemIds).1 order horder

variable {f : ShopOrder → ShopOrder}

theorem mem_changed (hs : Inv s) (horder : order ∈ s.orders) {other : ShopOrder} :
    other ∈ KeyedRows.change ShopOrder.id order.id f s.orders ↔
      other = f order ∨ (other ∈ s.orders ∧ other.id ≠ order.id) := by
  rw [KeyedRows.mem_change]
  refine or_congr_left ⟨?_, ?_⟩
  · rintro ⟨found, hfound, hid, rfl⟩
    rw [List.inj_on_of_nodup_map hs.orderIds hfound horder hid]
  · rintro rfl
    exact ⟨order, horder, rfl, rfl⟩

theorem itemIds_change {orders : List ShopOrder} {id : String}
    (hitems : ∀ order, (f order).items = order.items) :
    ((KeyedRows.change ShopOrder.id id f orders).flatMap fun order =>
      order.items.map ShopOrderItem.id) =
      orders.flatMap fun order => order.items.map ShopOrderItem.id := by
  rw [KeyedRows.change, List.flatMap_map]
  refine List.flatMap_congr fun order _ => ?_
  split
  · rw [hitems]
  · rfl

theorem flip (hs : Inv s) (horder : order ∈ s.orders) (hold : order.status ≠ .delivered)
    (hid : ∀ order, (f order).id = order.id) (hitems : ∀ order, (f order).items = order.items)
    (hnew : (f order).status ≠ .delivered) :
    Inv { s with orders := KeyedRows.change ShopOrder.id order.id f s.orders } where
  orderIds := by
    change ((KeyedRows.change _ _ _ _).map _).Nodup
    rw [KeyedRows.map_key_change _ hid]
    exact hs.orderIds
  itemIds := by
    change (List.flatMap _ (KeyedRows.change _ _ _ _)).Nodup
    rw [itemIds_change hitems]
    exact hs.itemIds
  catalogued other hother item hitem := by
    rcases (hs.mem_changed horder).1 hother with rfl | ⟨hother, -⟩
    · exact hs.catalogued order horder item (hitems order ▸ hitem)
    · exact hs.catalogued other hother item hitem
  keyed := hs.keyed
  waiting other hother hstatus item hitem := by
    rcases (hs.mem_changed horder).1 hother with rfl | ⟨hother, -⟩
    · exact hs.waiting order horder hold item (hitems order ▸ hitem)
    · exact hs.waiting other hother hstatus item hitem
  settled other hother hstatus item hitem := by
    rcases (hs.mem_changed horder).1 hother with rfl | ⟨hother, -⟩
    · exact absurd hstatus hnew
    · exact hs.settled other hother hstatus item hitem

theorem deliver (hs : Inv s) (horder : order ∈ s.orders) (hold : order.status ≠ .delivered)
    {call : AdvanceCall} (hid : call.orderId = order.id) (hdelivered : call.status = .delivered)
    {rate : ExchangeRate} {books : Books}
    (hrecord : s.books.recordPurchases order call.now rate (call.baseCurrency.getD "") call.source =
      .ok books) {moved t : Deliveries} (hmoved : moved = { s with
      orders := KeyedRows.change ShopOrder.id call.orderId (·.advanced call) s.orders
      books }) (ht : t = order.items.foldl (Deliveries.creditItem call order.storeId) moved) :
    Inv t ∧
      t.orders = KeyedRows.change ShopOrder.id order.id (fun order => order.advanced call)
        s.orders ∧
      (∀ item : ShopOrderItem, item.id ∉ order.items.map ShopOrderItem.id →
        Credited s.books item → Credited t.books item) ∧
      (CreditsClear call order.storeId moved order.items ↔
        ∀ item ∈ order.items, Credited t.books item) := by
  have hnodup := hs.items_nodup horder
  obtain ⟨hrecords, hrecorded⟩ := Books.recordPurchases_spec hs.keyed hnodup
    (fun item hitem => (hs.waiting order horder hold item hitem).1) hrecord
  have hbooks : moved.books = books := by rw [hmoved]
  have huncredited : ∀ id, Uncredited s.books id → Uncredited moved.books id := fun id h =>
    Uncredited.of_movements (by rw [hbooks, hrecords.movements]) h
  have hkept := Deliveries.credits_kept call order.storeId order.items moved
  obtain ⟨hcredits, hiff⟩ := Deliveries.credits_spec call order.storeId order.items
    moved hnodup (hs.catalogued order horder) fun item hitem =>
      huncredited _ (hs.waiting order horder hold item hitem).2
  obtain ⟨_, _, hframe⟩ := Deliveries.credits_frame call order.storeId order.items moved
  have horders : t.orders =
      KeyedRows.change ShopOrder.id order.id (fun order => order.advanced call) s.orders := by
    rw [ht, hframe, hmoved, hid]
  rw [← ht] at hkept hcredits hiff
  have hpurchases : t.books.purchases = books.purchases := by rw [hkept.purchases, hbooks]
  have hexpenses : t.books.expenses = books.expenses := by rw [hkept.expenses, hbooks]
  have hrecordedKept : ∀ item, Recorded books item → Recorded t.books item := fun item h => by
    rw [Recorded, hpurchases, hexpenses]
    exact h
  have hmem : ∀ {other}, other ∈ t.orders ↔
      other = order.advanced call ∨ (other ∈ s.orders ∧ other.id ≠ order.id) := by
    intro other
    rw [horders]
    exact hs.mem_changed horder
  have hapart : ∀ other ∈ s.orders, other.id ≠ order.id → ∀ item ∈ other.items,
      item.id ∉ order.items.map ShopOrderItem.id := fun other hother hne item hitem =>
    hs.apart horder hother (fun heq => hne (heq ▸ rfl)) hitem
  have hcreditedKept : ∀ item : ShopOrderItem, item.id ∉ order.items.map ShopOrderItem.id →
      Credited s.books item → Credited t.books item := fun item hid h => by
    refine hkept.credited item hid ?_
    rw [Credited, hbooks, hrecords.movements]
    exact h
  refine ⟨?_, horders, hcreditedKept, hiff⟩
  constructor
  case orderIds =>
    rw [horders, KeyedRows.map_key_change ShopOrder.id
      (f := fun order => order.advanced call) fun _ => rfl]
    exact hs.orderIds
  case itemIds =>
    rw [horders, itemIds_change (f := fun order => order.advanced call) fun _ => rfl]
    exact hs.itemIds
  case catalogued =>
    intro other hother item hitem
    rcases hmem.1 hother with rfl | ⟨hother, -⟩
    · exact hs.catalogued order horder item hitem
    · exact hs.catalogued other hother item hitem
  case keyed =>
    refine ⟨hexpenses ▸ hrecords.keyed.nodup, fun e he => ?_⟩
    rw [hexpenses] at he
    exact hkept.drawn (hbooks ▸ hrecords.keyed.drawn e he)
  case waiting =>
    intro other hother hstatus item hitem
    rcases hmem.1 hother with rfl | ⟨hother, hne⟩
    · exact absurd hdelivered hstatus
    · obtain ⟨hfree, hfree'⟩ := hs.waiting other hother hstatus item hitem
      have hitemApart := hapart other hother hne item hitem
      refine ⟨?_, hkept.uncredited _ hitemApart (huncredited _ hfree')⟩
      rw [Unrecorded, hpurchases]
      exact hrecords.unrecorded _ hitemApart hfree
  case settled =>
    intro other hother hstatus item hitem
    rcases hmem.1 hother with rfl | ⟨hother, hne⟩
    · exact ⟨hrecordedKept item (hrecorded item hitem), hcredits item hitem⟩
    · obtain ⟨hdone, hcredit⟩ := hs.settled other hother hstatus item hitem
      have hitemApart := hapart other hother hne item hitem
      refine ⟨hrecordedKept item (hrecords.recorded item hitemApart hdone), ?_⟩
      exact hcredit.imp (fun h => hkept.uncredited _ hitemApart (huncredited _ h))
        (hcreditedKept item hitemApart)

theorem step (hs : Inv s) (shopCall : ShopCall) : Inv (s.step shopCall) := by
  rw [Deliveries.step]
  split
  · rename_i t h
    cases shopCall with
    | advance call =>
      obtain ⟨order, hfound, hold, hcases⟩ := Deliveries.advance_ok h
      obtain ⟨horder, hid⟩ := KeyedRows.lookup_some _ hfound
      rcases hcases with ⟨hstatus, rfl⟩ | ⟨hdelivered, -, rate, books, moved, -, -, hrecord,
        hmoved, ht⟩
      · rw [← hid]
        exact hs.flip horder hold (fun _ => rfl) (fun _ => rfl) hstatus
      · exact (hs.deliver horder hold hid.symm hdelivered hrecord hmoved ht).1
    | cancel orderId cancelledBy reason now =>
      obtain ⟨order, hfound, hold, rfl⟩ := Deliveries.cancel_ok h
      obtain ⟨horder, rfl⟩ := KeyedRows.lookup_some _ hfound
      exact hs.flip horder hold (fun _ => rfl) (fun _ => rfl) (by simp)
  · exact hs

end Inv

/-! ### What is missing stays missing -/

def Stuck (orderId : String) (item : ShopOrderItem) (s : Deliveries) : Prop :=
  ∃ order ∈ s.orders, order.id = orderId ∧ order.status = .delivered ∧ item ∈ order.items ∧
    Uncredited s.books item.id

variable {item : ShopOrderItem} {s : Deliveries}

theorem Stuck.step {orderId : String} (hs : Inv s) (h : Stuck orderId item s)
    (shopCall : ShopCall) : Stuck orderId item (s.step shopCall) := by
  obtain ⟨order, horder, hid, hstatus, hitem, hmissing⟩ := h
  -- the order a call changes was not delivered, so it is another one
  have hother : ∀ {changed : ShopOrder}, changed ∈ s.orders → changed.status ≠ .delivered →
      order.id ≠ changed.id := fun hchanged hnot heq =>
    hnot (List.inj_on_of_nodup_map hs.orderIds horder hchanged heq ▸ hstatus)
  rw [Deliveries.step]
  split
  · rename_i t h
    cases shopCall with
    | advance call =>
      obtain ⟨changed, hfound, hold, hcases⟩ := Deliveries.advance_ok h
      obtain ⟨hchanged, hcall⟩ := KeyedRows.lookup_some _ hfound
      have hkept : order ∈ KeyedRows.change ShopOrder.id call.orderId
          (fun order => order.advanced call) s.orders :=
        (KeyedRows.mem_change _).2 (Or.inr ⟨horder, hcall ▸ hother hchanged hold⟩)
      rcases hcases with ⟨-, rfl⟩ | ⟨-, -, rate, books, moved, -, -, hrecord, hmoved, ht⟩
      · exact ⟨order, hkept, hid, hstatus, hitem, hmissing⟩
      · obtain ⟨_, _, hframe⟩ := Deliveries.credits_frame call changed.storeId changed.items moved
        have horders : t.orders = KeyedRows.change ShopOrder.id call.orderId
            (fun order => order.advanced call) s.orders := by
          rw [ht, hframe, hmoved]
        have hrecords := (Books.recordPurchases_spec hs.keyed (hs.items_nodup hchanged)
          (fun item hitem => (hs.waiting changed hchanged hold item hitem).1) hrecord).1
        have hmoved' : Uncredited moved.books item.id :=
          Uncredited.of_movements (by rw [hmoved, hrecords.movements]) hmissing
        have hapart := hs.apart hchanged horder (fun heq => hold (heq ▸ hstatus)) hitem
        refine ⟨order, horders ▸ hkept, hid, hstatus, hitem, ?_⟩
        have hcredits := Deliveries.credits_kept call changed.storeId changed.items moved
        rw [ht]
        exact hcredits.uncredited _ hapart hmoved'
    | cancel cancelled cancelledBy reason now =>
      obtain ⟨changed, hfound, hold, rfl⟩ := Deliveries.cancel_ok h
      obtain ⟨hchanged, rfl⟩ := KeyedRows.lookup_some _ hfound
      exact ⟨order, (KeyedRows.mem_change _).2 (Or.inr ⟨horder, hother hchanged hold⟩), hid,
        hstatus, hitem, hmissing⟩
  · exact ⟨order, horder, hid, hstatus, hitem, hmissing⟩

theorem Stuck.run {orderId : String} (hs : Inv s) (h : Stuck orderId item s)
    (calls : List ShopCall) : Stuck orderId item (Machine.run Deliveries.step s calls) := by
  have hkeeps : ∀ t shopCall, (Inv t ∧ Stuck orderId item t) →
      (Inv (t.step shopCall) ∧ Stuck orderId item (t.step shopCall)) :=
    fun t shopCall ht => ⟨ht.1.step shopCall, ht.2.step ht.1 shopCall⟩
  exact (Machine.run_keeps hkeeps ⟨hs, h⟩ calls).2

/-! ### Settlement -/

/-- Every order is recorded when it is delivered, and not before, and no item is credited twice. -/
structure SettledOnce (s : Deliveries) : Prop where
  /-- an item of a delivered order is one purchase with one expense -/
  recorded : ∀ order ∈ s.orders, order.status = .delivered → ∀ item ∈ order.items,
    Recorded s.books item
  /-- an item of another order is no purchase -/
  unrecorded : ∀ order ∈ s.orders, order.status ≠ .delivered → ∀ item ∈ order.items,
    Unrecorded s.books item.id
  /-- for an item, no inventory item is credited more than its quantity -/
  credited : ∀ order ∈ s.orders, ∀ item ∈ order.items, ∀ inventoryItemId,
    s.books.stock.sumMovements (fun movement => deliveryMovement item.id movement &&
      movement.inventoryItemId = inventoryItemId) ≤ item.quantity

def Accepted (s : Deliveries) (shopCall : ShopCall) : Prop := ∃ t, s.perform shopCall = .ok t

/-- Of every delivered order, a finite number of accepted calls credits every item. -/
def Completable (s : Deliveries) : Prop :=
  ∀ order ∈ s.orders, order.status = .delivered → ∃ more : List ShopCall,
    Machine.Along Deliveries.step Accepted s more ∧
      ∀ item ∈ order.items, Credited (Machine.run Deliveries.step s more).books item

def CreditsGoThrough (s : Deliveries) : ShopCall → Prop
  | .advance call =>
    call.status = .delivered → ∀ settlement moved order,
      s.settlementOf call = .ok settlement → s.moveForward call settlement = .ok moved →
      s.findOrder call.orderId = some order →
      CreditsClear call order.storeId moved order.items
  | .cancel .. => True

def AllCredited (s : Deliveries) : Prop :=
  ∀ order ∈ s.orders, order.status = .delivered → ∀ item ∈ order.items, Credited s.books item

theorem Credited.sum_le {s : Books} (h : Credited s item) (inventoryItemId : String) :
    s.stock.sumMovements (fun movement => deliveryMovement item.id movement &&
      movement.inventoryItemId = inventoryItemId) ≤ item.quantity := by
  obtain ⟨found, resultingQuantity, hfilter⟩ := h
  have hpos := item.quantity_pos
  have hsplit : (s.stock.movements.filter fun movement => deliveryMovement item.id movement &&
      movement.inventoryItemId = inventoryItemId) =
      (s.stock.movements.filter (deliveryMovement item.id)).filter fun movement =>
        movement.inventoryItemId = inventoryItemId := by
    rw [List.filter_filter]
    refine List.filter_congr fun movement _ => Bool.and_comm ..
  rw [Store.sumMovements, Ledger.total, hsplit, hfilter]
  by_cases hitem : found = inventoryItemId
  · simp [creditMovement, hitem]
  · simp only [creditMovement, hitem, decide_false, Bool.false_eq_true, not_false_eq_true,
      List.filter_cons_of_neg, List.filter_nil, List.map_nil, List.sum_nil]
    exact hpos.le

theorem Inv.settledOnce (hs : Inv s) : SettledOnce s := by
  refine ⟨fun order horder hstatus item hitem => (hs.settled order horder hstatus item hitem).1,
    fun order horder hstatus item hitem => (hs.waiting order horder hstatus item hitem).1,
    fun order horder item hitem inventoryItemId => ?_⟩
  have hcases : Uncredited s.books item.id ∨ Credited s.books item := by
    by_cases hstatus : order.status = .delivered
    · exact (hs.settled order horder hstatus item hitem).2
    · exact Or.inl (hs.waiting order horder hstatus item hitem).2
  rcases hcases with hnone | hdone
  · have hpos := item.quantity_pos
    rw [Store.sumMovements, Ledger.total_eq_zero fun m hm => by simp [(hnone m hm).2]]
    exact hpos.le
  · exact hdone.sum_le inventoryItemId

theorem Inv.completable_iff (hs : Inv s) : Completable s ↔ AllCredited s := by
  constructor
  · intro h order horder hstatus item hitem
    refine (hs.settled order horder hstatus item hitem).2.resolve_left fun hmissing => ?_
    obtain ⟨more, -, hall⟩ := h order horder hstatus
    obtain ⟨-, -, -, -, -, hstill⟩ :=
      Stuck.run hs ⟨order, horder, rfl, hstatus, hitem, hmissing⟩ more
    exact (hall item hitem).not_uncredited hstill
  · exact fun h order horder hstatus => ⟨[], trivial, h order horder hstatus⟩

theorem AllCredited.flip (hall : AllCredited s) (hs : Inv s) {order : ShopOrder}
    (horder : order ∈ s.orders) {f : ShopOrder → ShopOrder} (hnew : (f order).status ≠ .delivered) :
    AllCredited { s with orders := KeyedRows.change ShopOrder.id order.id f s.orders } := by
  intro other hother hstatus
  rcases (hs.mem_changed horder).1 hother with rfl | ⟨hother, -⟩
  · exact absurd hstatus hnew
  · exact hall other hother hstatus

theorem CreditsGoThrough.of_error {call : AdvanceCall} {e : PurchaseError}
    (h : s.advance call = .error e) : CreditsGoThrough s (.advance call) := by
  intro hdelivered settlement moved order hsettlement hmoved _
  rw [Deliveries.advance, if_neg (by rw [hdelivered]; decide), hsettlement] at h
  change ((s.moveForward call settlement).bind _ : Except PurchaseError Deliveries) = _ at h
  rw [hmoved] at h
  cases h

theorem Inv.allCredited_iff (hs : Inv s) (hall : AllCredited s) (shopCall : ShopCall) :
    CreditsGoThrough s shopCall ↔ AllCredited (s.step shopCall) := by
  rw [Deliveries.step]
  cases shopCall with
  | cancel orderId cancelledBy reason now =>
    refine iff_of_true trivial ?_
    split
    · rename_i t h
      obtain ⟨order, hfound, -, rfl⟩ := Deliveries.cancel_ok h
      obtain ⟨horder, rfl⟩ := KeyedRows.lookup_some _ hfound
      exact hall.flip hs horder (by simp)
    · exact hall
  | advance call =>
    split
    · rename_i t h
      obtain ⟨order, hfound, hold, hcases⟩ := Deliveries.advance_ok h
      obtain ⟨horder, hid⟩ := KeyedRows.lookup_some _ hfound
      rcases hcases with ⟨hstatus, rfl⟩ | ⟨hdelivered, settlement, rate, books, moved,
        hsettlement, hforward, hrecord, hmoved, ht⟩
      · refine iff_of_true (fun h => absurd h hstatus) ?_
        rw [← hid]
        exact hall.flip hs horder hstatus
      · obtain ⟨-, horders, hkept, hclear⟩ :=
          hs.deliver horder hold hid.symm hdelivered hrecord hmoved ht
        have hcall : CreditsGoThrough s (.advance call) ↔
            CreditsClear call order.storeId moved order.items := by
          constructor
          · exact fun h => h hdelivered settlement moved order hsettlement hforward hfound
          · intro h _ settlement' moved' order' hsettlement' hforward' hfound'
            obtain rfl := Except.ok.inj (hsettlement.symm.trans hsettlement')
            obtain rfl := Except.ok.inj (hforward.symm.trans hforward')
            obtain rfl := Option.some.inj (hfound.symm.trans hfound')
            exact h
        rw [hcall, hclear]
        -- the items of the other orders are not those of this one
        constructor
        · intro h other hother hstatus item hitem
          rw [horders] at hother
          rcases (hs.mem_changed horder).1 hother with rfl | ⟨hother, hne⟩
          · exact h item hitem
          · exact hkept item (hs.apart horder hother (fun heq => hne (heq ▸ rfl)) hitem)
              (hall other hother hstatus item hitem)
        · intro h item hitem
          refine h (order.advanced call) ?_ hdelivered item hitem
          rw [horders]
          exact (hs.mem_changed horder).2 (Or.inl rfl)
    · rename_i e h
      exact iff_of_true (CreditsGoThrough.of_error h) hall

structure ShopStart (s : Deliveries) : Prop where
  orderIds : (s.orders.map ShopOrder.id).Nodup
  itemIds : (s.orders.flatMap fun order => order.items.map ShopOrderItem.id).Nodup
  catalogued : ∀ order ∈ s.orders, ∀ item ∈ order.items, item.catalogId.isSome
  keyed : Keyed s.books
  waiting : ∀ order ∈ s.orders, order.status ≠ .delivered ∧ ∀ item ∈ order.items,
    Unrecorded s.books item.id ∧ Uncredited s.books item.id

theorem ShopStart.inv (h : ShopStart s) : Inv s where
  orderIds := h.orderIds
  itemIds := h.itemIds
  catalogued := h.catalogued
  keyed := h.keyed
  waiting order horder _ := (h.waiting order horder).2
  settled order horder hstatus := absurd hstatus (h.waiting order horder).1

def longerIds : IdSource where
  next drawn := String.ofList (List.replicate ((drawn.map String.length).sum + 1) 'x')
  fresh drawn h := by
    have hmem := List.mem_map_of_mem (f := String.length) h
    have hle := List.single_le_sum (fun _ _ => Nat.zero_le _) _ hmem
    rw [String.length_ofList, List.length_replicate] at hle
    omega

def boxItem : ShopOrderItem :=
  { id := "item", productId := some "boxes", productName := "Boxes", quantity := 3
    quantity_pos := triple_pos, lineTotal := 60 }

def boxShop : Deliveries :=
  { orders := [{ id := "order", number := 7, storeId := "store", currency := "MAD", total := 60
                 items := [boxItem] }]
    products := fun _ => some {}
    baseCurrencies := fun _ => some "MAD" }

theorem boxShop_start : ShopStart boxShop where
  orderIds := by decide
  itemIds := by decide
  catalogued := by decide
  keyed := ⟨by decide, by decide⟩
  waiting order horder := by
    obtain rfl := List.mem_singleton.1 horder
    exact ⟨by decide, fun _ _ => ⟨(fun _ h => nomatch h), (fun _ h => nomatch h)⟩⟩

def deliverBoxes : AdvanceCall :=
  { orderId := "order", status := .delivered, baseCurrency := some "MAD", source := longerIds }

def deliverContended : AdvanceCall :=
  { deliverBoxes with obstacle := fun _ => some (.conflict "Could not complete the write") }

end Zomaal.Purchasing
