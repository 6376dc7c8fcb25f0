/-
**Manual purchases stay in step with stock and expenses.**

Edits of a purchase move stock by the difference to the old row.  Whatever else moves stock
meanwhile, the movements of received purchases that refer to a purchase sum to its quantity, its
expense has its cost, and a deleted purchase leaves a sum of zero and no expense.  A merchant who
adjusts stock by hand writes any reference they like; it is the type of a movement that tells it is
the purchase's.

Main results:

* `Purchasing.Books.createPurchase_ok`, `Purchasing.Books.updatePurchase_ok`,
  `Purchasing.Books.removePurchase_ok` — what a call that returns wrote;
* `Purchasing.manualPurchases` — **the tables agree after every run**.
-/

import Zomaal.PackagingCredit
import Zomaal.StockLedger

set_option autoImplicit false

namespace Zomaal.Purchasing

/-! ### The movements of a purchase -/

variable (purchaseId : String)

def purchaseMovement (movement : InventoryMovement) : Bool :=
  movement.type = .purchaseReceived ∧ movement.bucket = .onHand ∧
    movement.referenceType = some "MERCHANT_PURCHASE" ∧ movement.referenceId = some purchaseId

def Books.received (s : Books) (purchaseId : String) : ℤ :=
  s.stock.sumMovements (purchaseMovement purchaseId)

structure MovesPurchase (units : ℤ) (written : List InventoryMovement) :
    Prop where
  apart : ∀ movement ∈ written, ∀ other, purchaseMovement other movement = true →
    other = purchaseId
  sum : Ledger.total InventoryMovement.quantityDelta (purchaseMovement purchaseId) written = units

theorem MovesPurchase.nil : MovesPurchase purchaseId 0 [] :=
  ⟨fun _ hm => (nomatch hm), rfl⟩

/-! ### What the pieces of a call write -/

/-- What a piece of a call leaves: the purchases and expenses given, and the given movements after
the old ones. Items and identifiers stay. -/
structure Writes (s t : Books) (purchases : List MerchantPurchase) (expenses : List Expense)
    (written : List InventoryMovement) : Prop where
  purchases : t.purchases = purchases
  expenses : t.expenses = expenses
  movements : t.stock.movements = s.stock.movements ++ written
  items : ∀ stocked item, s.items stocked = some item → t.items stocked = some item
  drawn : s.drawn ⊆ t.drawn

abbrev Silent (s t : Books) : Prop := Writes s t s.purchases s.expenses []

theorem Silent.refl (s : Books) : Silent s s :=
  ⟨rfl, rfl, (List.append_nil _).symm, fun _ _ h => h, fun _ h => h⟩

variable {written : List InventoryMovement} {expenses : List Expense}
  {purchases : List MerchantPurchase}

theorem Writes.trans {s t u : Books} {purchases' : List MerchantPurchase} {expenses' : List Expense}
    {written' : List InventoryMovement} (h : Writes s t purchases expenses written)
    (h' : Writes t u purchases' expenses' written') :
    Writes s u purchases' expenses' (written ++ written') := by
  refine ⟨h'.purchases, h'.expenses, ?_, fun _ _ hitem => h'.items _ _ (h.items _ _ hitem),
    fun _ hid => h'.drawn (h.drawn hid)⟩
  rw [h'.movements, h.movements, List.append_assoc]

theorem Writes.after {s t u : Books} (h : Silent s t) (h' : Writes t u purchases expenses written) :
    Writes s u purchases expenses written := by
  simpa using h.trans h'

theorem Writes.then {s t u : Books} (h : Writes s t purchases expenses written) (h' : Silent t u) :
    Writes s u purchases expenses written := by
  have := h.trans h'
  rw [List.append_nil, h.purchases, h.expenses] at this
  exact this

namespace Books

variable {s t : Books}

theorem draw_ok {id : String} (h : s.draw id = .ok t) :
    id ∉ s.drawn ∧ id ∈ t.drawn ∧ Silent s t := by
  rw [draw] at h
  split at h
  · cases h
  · rename_i hnew
    obtain rfl := Except.ok.inj h
    exact ⟨hnew, List.mem_cons_self .., rfl, rfl, (List.append_nil _).symm, fun _ _ h => h,
      fun _ hid => List.mem_cons_of_mem _ hid⟩

variable {storeId : String}

theorem purchaseCategoryId_ok {newId categoryId : String}
    (h : s.purchaseCategoryId storeId newId = .ok (categoryId, t)) : Silent s t := by
  rw [purchaseCategoryId] at h
  split at h
  · obtain ⟨-, rfl⟩ := Prod.mk.inj (Except.ok.inj h)
    exact Silent.refl _
  · obtain ⟨u, hdraw, h⟩ := Except.bind_eq_ok h
    obtain ⟨-, rfl⟩ := Prod.mk.inj (Except.ok.inj h)
    obtain ⟨-, -, hu⟩ := draw_ok hdraw
    exact ⟨hu.purchases, hu.expenses, hu.movements, hu.items, hu.drawn⟩

theorem createPurchaseExpense_ok {input : PurchaseExpenseInput} {newId newCategoryId : String}
    (h : s.createPurchaseExpense input newId newCategoryId = .ok t) :
    ∃ expense : Expense, expense.id = newId ∧ expense.amount = store4 input.amount ∧
      newId ∉ s.drawn ∧ newId ∈ t.drawn ∧
      Writes s t s.purchases (s.expenses ++ [expense]) [] := by
  obtain ⟨⟨categoryId, u⟩, hcategory, h⟩ := Except.bind_eq_ok h
  obtain ⟨v, hdraw, h⟩ := Except.bind_eq_ok h
  obtain rfl := Except.ok.inj h
  have hu := purchaseCategoryId_ok hcategory
  obtain ⟨hnew, hdrawn, hv⟩ := draw_ok hdraw
  have hsv := hu.then hv
  refine ⟨{
      id := newId
      storeId := input.storeId
      categoryId
      title := purchaseExpenseTitle input.productName
      amount := store4 input.amount
      paymentMethod := input.paymentMethod
      spentAt := input.spentAt
      notes := input.notes
      createdByUserId := input.createdByUserId
      receiptUrl := input.receiptUrl }, rfl, rfl, fun hold => hnew (hu.drawn hold), hdrawn,
    hsv.purchases, ?_, hsv.movements, hsv.items, hsv.drawn⟩
  change v.expenses ++ _ = _
  rw [hsv.expenses]

theorem attachReceipt_ok {assetId expenseId : String} {now : ℤ}
    (h : s.attachReceipt storeId assetId expenseId now = .ok t) : Silent s t := by
  rw [attachReceipt] at h
  dsimp only at h
  split at h
  · obtain rfl := Except.ok.inj h
    exact ⟨rfl, rfl, (List.append_nil _).symm, fun _ _ h => h, fun _ h => h⟩
  · cases h

theorem attachReceipt?_ok {expenseId : String} {assetId : Option String} {now : ℤ}
    (h : s.attachReceipt? storeId assetId expenseId now = .ok t) : Silent s t := by
  cases assetId with
  | none =>
    obtain rfl := Except.ok.inj h
    exact Silent.refl _
  | some assetId => exact attachReceipt_ok h

theorem deleteAttachedAsset_silent (s : Books) (assetId : Option String) :
    Silent s (s.deleteAttachedAsset assetId) := by
  cases assetId with
  | none => exact Silent.refl s
  | some assetId => exact ⟨rfl, rfl, (List.append_nil _).symm, fun _ _ h => h, fun _ h => h⟩

theorem detachReceipt_silent (s : Books) (assetId : Option String) :
    Silent s (s.detachReceipt assetId) := by
  cases assetId with
  | none => exact Silent.refl s
  | some assetId => exact ⟨rfl, rfl, (List.append_nil _).symm, fun _ _ h => h, fun _ h => h⟩

variable {item : String}

theorem moveOnHand_ok {movement : OnHandMovement} (h : s.moveOnHand item movement = .ok t) :
    ∃ written : InventoryMovement, written.type = movement.type ∧ written.bucket = .onHand ∧
      written.quantityDelta = movement.quantityDelta ∧
      written.referenceType = some movement.referenceType ∧
      written.referenceId = some movement.referenceId ∧
      Writes s t s.purchases s.expenses [written] := by
  rw [moveOnHand] at h
  split at h
  · rename_i m stock hmoved
    obtain rfl := Except.ok.inj h
    unfold moveOnHandInTx at hmoved
    dsimp only at hmoved
    split at hmoved
    · cases hmoved
    · split at hmoved
      · cases hmoved
      · obtain ⟨-, rfl⟩ := Prod.mk.inj hmoved
        exact ⟨_, rfl, rfl, rfl, rfl, rfl, rfl, rfl, rfl, fun _ _ h => h, fun _ h => h⟩
  · cases h
  · cases h

theorem moveOnHand_moves {movement : OnHandMovement} (htype : movement.type = .purchaseReceived)
    (hreference : movement.referenceType = "MERCHANT_PURCHASE")
    (h : s.moveOnHand item movement = .ok t) :
    ∃ written, MovesPurchase movement.referenceId movement.quantityDelta written ∧
      Writes s t s.purchases s.expenses written := by
  obtain ⟨written, htype', hbucket, hdelta, href, hrefId, hwrites⟩ := moveOnHand_ok h
  have hrefers : ∀ other, purchaseMovement other written = decide (other = movement.referenceId) :=
    fun other => by
      simp [purchaseMovement, htype', htype, hbucket, href, hreference, hrefId, eq_comm]
  refine ⟨[written], ⟨fun m hm other hother => ?_, ?_⟩, hwrites⟩
  · obtain rfl := List.mem_singleton.1 hm
    rw [hrefers, decide_eq_true_eq] at hother
    exact hother
  · rw [Ledger.total_cons, Ledger.total_nil, hrefers, hdelta]
    simp

theorem moveStock_ok {reason purchaseId : String} {units : ℤ}
    (h : s.moveStock item units reason purchaseId = .ok t) :
    ∃ written, MovesPurchase purchaseId units written ∧
      Writes s t s.purchases s.expenses written := by
  rw [moveStock] at h
  split at h
  · split at h <;> cases h
  · exact moveOnHand_moves rfl rfl h

theorem moveStock?_ok {item : Option String} {reason purchaseId : String} {units : ℤ}
    (h : s.moveStock? item units reason purchaseId = .ok t) :
    ∃ written, MovesPurchase purchaseId (if item.isSome then units else 0) written ∧
      (item = none → written = []) ∧ Writes s t s.purchases s.expenses written := by
  cases item with
  | none =>
    obtain rfl := Except.ok.inj h
    exact ⟨[], MovesPurchase.nil _, fun _ => rfl, Silent.refl _⟩
  | some item =>
    obtain ⟨written, hmoves, hwrites⟩ := moveStock_ok h
    exact ⟨written, hmoves, nofun, hwrites⟩

variable {target : PurchaseTarget}

theorem ensureInventoryItem_ok {newId : String} {stocked : Stocked}
    (hstocked : stockedBy target.packagingMaterialId target.warehouseVariantId = some stocked)
    (hitem : ∀ item, target.inventoryItemId = some item → s.items stocked = some item)
    (h : s.ensureInventoryItem storeId target newId = .ok (item, t)) :
    Silent s t ∧ t.items stocked = some item := by
  rw [ensureInventoryItem, hstocked] at h
  cases hnamed : target.inventoryItemId with
  | some named =>
    rw [hnamed] at h
    obtain ⟨rfl, rfl⟩ := Prod.mk.inj (Except.ok.inj h)
    exact ⟨Silent.refl s, hitem _ hnamed⟩
  | none =>
    simp only [hnamed] at h
    cases hfound : s.items stocked with
    | some found =>
      simp only [hfound] at h
      obtain ⟨rfl, rfl⟩ := Prod.mk.inj (Except.ok.inj h)
      exact ⟨Silent.refl s, hfound⟩
    | none =>
      simp only [hfound] at h
      obtain ⟨u, hdraw, h⟩ := Except.bind_eq_ok h
      obtain ⟨rfl, rfl⟩ := Prod.mk.inj (Except.ok.inj h)
      obtain ⟨-, -, hu⟩ := draw_ok hdraw
      refine ⟨⟨hu.purchases, hu.expenses, hu.movements, fun other item hother => ?_, hu.drawn⟩,
        Function.update_self ..⟩
      have hne : other ≠ stocked := by
        rintro rfl
        rw [hfound] at hother
        cases hother
      change Function.update u.items stocked _ other = _
      rw [Function.update_of_ne hne]
      exact hu.items _ _ hother

theorem createTarget_ok {dto : CreatePurchaseDto} (h : s.createTarget storeId dto = .ok target) :
    ∃ stocked, stockedBy target.packagingMaterialId target.warehouseVariantId = some stocked ∧
      target.inventoryItemId = s.items stocked := by
  rw [createTarget] at h
  split at h
  · cases h
  · split at h
    · rw [packagingTarget] at h
      split at h
      · cases h
      · obtain rfl := Except.ok.inj h
        exact ⟨_, rfl, rfl⟩
    · rw [productTarget] at h
      split at h
      · cases h
      · split at h
        · cases h
        · dsimp only at h
          split at h
          · cases h
          · obtain rfl := Except.ok.inj h
            exact ⟨_, rfl, rfl⟩

theorem receiveStock_ok {quantity : ℤ} {ids : NewIds} {stocked : Stocked}
    (hstocked : stockedBy target.packagingMaterialId target.warehouseVariantId = some stocked)
    (hitem : ∀ item, target.inventoryItemId = some item → s.items stocked = some item)
    (h : s.receiveStock storeId target quantity ids = .ok t) :
    ∃ written, MovesPurchase ids.purchase quantity written ∧
      Writes s t s.purchases s.expenses written ∧ (t.items stocked).isSome := by
  obtain ⟨⟨item, u⟩, hensure, h⟩ := Except.bind_eq_ok h
  obtain ⟨hsilent, hfound⟩ := ensureInventoryItem_ok hstocked hitem hensure
  obtain ⟨written, hmoves, hwrites⟩ := moveOnHand_moves rfl rfl h
  refine ⟨written, hmoves, hsilent.after ?_, ?_⟩
  · rw [hsilent.purchases, hsilent.expenses] at hwrites
    exact hwrites
  · rw [hwrites.items _ _ hfound]
    rfl

end Books

/-! ### What the calls write -/

/-- The expense is the purchase's, and both say what the purchase cost. -/
structure Booked (row : MerchantPurchase) (expense : Expense) : Prop where
  linked : row.expenseId = some expense.id
  amount : expense.amount = row.totalCost
  cost : row.totalCost.1 = purchaseCost row.unitPrice row.quantity

variable {writeConflicts : ℕ}

theorem serializable_ok {α : Type} {work : Except PurchaseError α} {a : α}
    (h : serializable writeConflicts work = .ok a) : work = .ok a := by
  rw [serializable] at h
  split at h
  · cases h
  · exact h

namespace Books

variable {s t : Books}

variable {row : MerchantPurchase} {ids : NewIds} {now : ℤ}

theorem createPurchase_ok {access : StoreAccess} {dto : CreatePurchaseDto}
    (h : s.createPurchase access dto ids now writeConflicts = .ok (row, t)) :
    ∃ expense written, Writes s t (s.purchases ++ [row]) (s.expenses ++ [expense]) written ∧
      row.source = .manual ∧ Booked row expense ∧ row.id ∉ s.drawn ∧ row.id ∈ t.drawn ∧
      expense.id ∉ s.drawn ∧ expense.id ∈ t.drawn ∧
      (row.stockAdded = true →
        MovesPurchase row.id row.quantity written ∧ (t.stockItemId row).isSome) ∧
      (row.stockAdded = false → written = []) := by
  obtain ⟨target, htarget, h⟩ := Except.bind_eq_ok h
  obtain ⟨-, -, h⟩ := Except.bind_eq_ok h
  obtain ⟨-, -, h⟩ := Except.bind_eq_ok h
  obtain ⟨supplierName, -, h⟩ := Except.bind_eq_ok h
  obtain ⟨invoice, -, h⟩ := Except.bind_eq_ok h
  obtain ⟨purchaseDate, -, h⟩ := Except.bind_eq_ok h
  obtain ⟨u, hexpense, h⟩ := Except.bind_eq_ok (serializable_ok h)
  obtain ⟨v, hreceipt, h⟩ := Except.bind_eq_ok h
  obtain ⟨w, hdraw, h⟩ := Except.bind_eq_ok h
  obtain ⟨stocked, hstocked, hitem⟩ := createTarget_ok htarget
  obtain ⟨expense, hid, hamount, hnewExpense, hdrawnExpense, hu⟩ :=
    createPurchaseExpense_ok hexpense
  have hv := attachReceipt?_ok hreceipt
  obtain ⟨hnew, hdrawn, hw⟩ := draw_ok hdraw
  obtain ⟨x, hstock, h⟩ := Except.bind_eq_ok h
  obtain ⟨hrow, rfl⟩ := Prod.mk.inj (Except.ok.inj h)
  rw [hrow] at hstock
  have hrowId : row.id = ids.purchase := by rw [← hrow]
  have hlinked : row.expenseId = some expense.id := by rw [← hrow, hid]
  have hcost : row.totalCost = store4 (purchaseCost row.unitPrice row.quantity) := by rw [← hrow]
  have hquantity : row.quantity = dto.quantity := by rw [← hrow]
  have hstockAdded : row.stockAdded = dto.addToStock.getD true := by rw [← hrow]
  have hunit : row.unitPrice = dto.unitPrice := by rw [← hrow]
  have hstockedRow : row.stocked = some stocked := by rw [← hrow, ← hstocked]; rfl
  -- the tables before the stock is moved
  have hy : Writes s { w with purchases := w.purchases ++ [row] } (s.purchases ++ [row])
      (s.expenses ++ [expense]) [] := by
    have hsw := (hu.then hv).then hw
    refine ⟨?_, hsw.expenses, hsw.movements, hsw.items, hsw.drawn⟩
    change w.purchases ++ [row] = _
    rw [hsw.purchases]
  rw [receiveStock?, ← hstockAdded] at hstock
  have hbooked : Booked row expense := by
    refine ⟨hlinked, ?_, ?_⟩
    · rw [hamount, hcost, hunit, hquantity]
    · rw [hcost]
      exact store4_toDecimalPlaces2 _
  have hnewRow : row.id ∉ s.drawn := fun hold =>
    hnew ((hu.then hv).drawn (hrowId ▸ hold))
  have hexpenseDrawn : expense.id ∈ w.drawn := hid ▸ hw.drawn (hv.drawn hdrawnExpense)
  split at hstock
  · rename_i hadd
    obtain ⟨written, hmoves, hx, hfound⟩ := receiveStock_ok hstocked
      (fun item hnamed => hy.items _ _ (hitem ▸ hnamed)) hstock
    refine ⟨expense, written, ?_, ?_, hbooked, hnewRow, hrowId ▸ hx.drawn hdrawn, hid ▸ hnewExpense,
      hx.drawn hexpenseDrawn, fun _ => ⟨?_, ?_⟩, fun hnot => ?_⟩
    · have := hy.trans hx
      rw [List.nil_append, hy.purchases, hy.expenses] at this
      exact this
    · rw [← hrow]
    · rw [hrowId, hquantity]
      exact hmoves
    · rw [stockItemId, hstockedRow]
      exact hfound
    · rw [hnot] at hadd
      cases hadd
  · rename_i hadd
    obtain rfl := Except.ok.inj hstock
    exact ⟨expense, [], hy, by rw [← hrow], hbooked, hnewRow, hrowId ▸ hdrawn, hid ▸ hnewExpense,
      hexpenseDrawn, fun hyes => absurd hyes hadd, fun _ => rfl⟩

variable {storeId : String}

theorem requireEditable_ok {id : String} (h : s.requireEditable storeId id = .ok row) :
    row ∈ s.purchases ∧ row.id = id ∧ row.source = .manual := by
  rw [requireEditable] at h
  split at h
  · cases h
  · rename_i found hfound
    split at h
    · cases h
    · rename_i hsource
      obtain rfl := Except.ok.inj h
      obtain ⟨hlookup, -⟩ := Option.filter_eq_some_iff.1 hfound
      obtain ⟨hmem, hid⟩ := KeyedRows.lookup_some _ hlookup
      refine ⟨hmem, hid, ?_⟩
      cases hcases : found.source with
      | manual => rfl
      | shop => exact absurd hcases hsource

/-- What an edit does to the expenses: the purchase's expense is rewritten, or the purchase gets
one. -/
inductive ExpenseEdited (s t : Books) (old row : MerchantPurchase) (expenses : List Expense) : Prop
  | rewritten (expenseId : String) (f : Expense → Expense) (linked : old.expenseId = some expenseId)
      (still : row.expenseId = some expenseId) (found : ∃ e ∈ s.expenses, e.id = expenseId)
      (same : ∀ e, (f e).id = e.id) (amount : ∀ e, (f e).amount = row.totalCost)
      (expenses_eq : expenses = KeyedRows.change Expense.id expenseId f s.expenses)
  | created (expense : Expense) (unlinked : old.expenseId = none)
      (linked : row.expenseId = some expense.id) (amount : expense.amount = row.totalCost)
      (fresh : expense.id ∉ s.drawn)
      (drawn : expense.id ∈ t.drawn) (expenses_eq : expenses = s.expenses ++ [expense])

variable {old : MerchantPurchase}

theorem ExpenseEdited.widen {u v : Books} (h : ExpenseEdited u v old row expenses)
    (hexpenses : u.expenses = s.expenses) (hu : s.drawn ⊆ u.drawn) (hv : v.drawn ⊆ t.drawn) :
    ExpenseEdited s t old row expenses := by
  cases h with
  | rewritten expenseId f linked still found same amount expenses_eq =>
    exact .rewritten expenseId f linked still (hexpenses ▸ found) same amount
      (hexpenses ▸ expenses_eq)
  | created expense unlinked linked amount fresh drawn expenses_eq =>
    exact .created expense unlinked linked amount (fun hold => fresh (hu hold)) (hv drawn)
      (hexpenses ▸ expenses_eq)

variable {dto : UpdatePurchaseDto}

theorem updateExpense_ok {expenseId : String} {totalCost : Decimal} {purchaseDate : ℤ}
    {notes previousReceipt replacedReceipt : Option String}
    (h : s.updateExpense storeId expenseId dto totalCost purchaseDate notes now previousReceipt
      replacedReceipt = .ok t) :
    ∃ f : Expense → Expense, (∀ e, (f e).id = e.id) ∧ (∀ e, (f e).amount = store4 totalCost) ∧
      (∃ e ∈ s.expenses, e.id = expenseId) ∧
      Writes s t s.purchases (KeyedRows.change Expense.id expenseId f s.expenses) [] := by
  obtain ⟨u, hreceipt, h⟩ := Except.bind_eq_ok h
  have hu := (detachReceipt_silent s replacedReceipt).then (attachReceipt?_ok hreceipt)
  split at h
  · cases h
  · rename_i found hfound
    obtain rfl := Except.ok.inj h
    obtain ⟨hmem, hid⟩ := KeyedRows.lookup_some _ hfound
    refine ⟨editExpense dto totalCost purchaseDate notes, fun _ => rfl, fun _ => rfl,
      ⟨found, hu.expenses ▸ hmem, hid⟩, hu.purchases, ?_, hu.movements, hu.items, hu.drawn⟩
    rw [← hu.expenses]

theorem bookExpense_ok {expenseId : String} {totalCost : Decimal} {purchaseDate : ℤ}
    {notes previousReceipt replacedReceipt : Option String}
    (h : s.bookExpense storeId old dto totalCost purchaseDate notes ids now previousReceipt
      replacedReceipt = .ok (expenseId, t)) (row : MerchantPurchase)
    (hlinked : row.expenseId = some expenseId) (hcost : row.totalCost = store4 totalCost) :
    ∃ expenses, ExpenseEdited s t old row expenses ∧ Writes s t s.purchases expenses [] := by
  rw [bookExpense] at h
  split at h
  · rename_i linked hold
    obtain ⟨u, hupdate, h⟩ := Except.bind_eq_ok h
    obtain ⟨rfl, rfl⟩ := Prod.mk.inj (Except.ok.inj h)
    obtain ⟨f, hsame, hamount, hfound, hwrites⟩ := updateExpense_ok hupdate
    exact ⟨_, .rewritten linked f hold hlinked hfound hsame (fun e => by rw [hamount, hcost]) rfl,
      hwrites⟩
  · rename_i hold
    obtain ⟨u, hcreate, h⟩ := Except.bind_eq_ok h
    obtain ⟨v, hreceipt, h⟩ := Except.bind_eq_ok h
    obtain ⟨rfl, rfl⟩ := Prod.mk.inj (Except.ok.inj h)
    obtain ⟨expense, hid, hamount, hnew, hdrawn, hu⟩ := createPurchaseExpense_ok hcreate
    have hv := attachReceipt?_ok hreceipt
    refine ⟨_, .created expense hold (hid ▸ hlinked) ?_ (hid ▸ hnew) (hid ▸ hv.drawn hdrawn) rfl,
      hu.then hv⟩
    rw [hamount, hcost]

theorem updatePurchase_ok {id : String}
    (h : s.updatePurchase storeId id dto ids now writeConflicts = .ok (row, t)) :
    ∃ old ∈ s.purchases, ∃ expenses written, old.id = id ∧ old.source = .manual ∧ row.id = id ∧
      row.source = .manual ∧ row.stockAdded = old.stockAdded ∧ row.stocked = old.stocked ∧
      row.totalCost.1 = purchaseCost row.unitPrice row.quantity ∧
      Writes s t (KeyedRows.change MerchantPurchase.id id (fun _ => row) s.purchases) expenses
        written ∧
      ExpenseEdited s t old row expenses ∧ (old.stockAdded = false → written = []) ∧
      (old.stockAdded = true → (s.stockItemId old).isSome →
        MovesPurchase id (row.quantity - old.quantity) written) := by
  obtain ⟨old, hold, h⟩ := Except.bind_eq_ok (serializable_ok h)
  obtain ⟨-, -, h⟩ := Except.bind_eq_ok h
  obtain ⟨-, -, h⟩ := Except.bind_eq_ok h
  obtain ⟨hmem, hid, hsource⟩ := requireEditable_ok hold
  obtain ⟨supplierName, -, h⟩ := Except.bind_eq_ok h
  obtain ⟨invoice, -, h⟩ := Except.bind_eq_ok h
  obtain ⟨purchaseDate, -, h⟩ := Except.bind_eq_ok h
  obtain ⟨u, hmove, h⟩ := Except.bind_eq_ok h
  obtain ⟨⟨expenseId, v⟩, hexpense, h⟩ := Except.bind_eq_ok h
  obtain ⟨hrow, ht⟩ := Prod.mk.inj (Except.ok.inj h)
  rw [hrow] at ht
  obtain ⟨written, hmoves, hnone, hu⟩ := moveStock?_ok hmove
  obtain ⟨expenses, hbooks, hv⟩ := bookExpense_ok hexpense row (by rw [← hrow])
    (by rw [← hrow])
  have hsv := hu.trans hv
  rw [List.append_nil, hu.purchases] at hsv
  have hwrites : Writes s t (KeyedRows.change MerchantPurchase.id id (fun _ => row) s.purchases)
      expenses written := by
    subst ht
    refine Writes.then (t := { v with
      purchases := KeyedRows.change MerchantPurchase.id id (fun _ => row) v.purchases })
      ⟨?_, hsv.expenses, hsv.movements, hsv.items, hsv.drawn⟩ (deleteAttachedAsset_silent _ _)
    change KeyedRows.change _ _ _ v.purchases = _
    rw [hsv.purchases]
  refine ⟨old, hmem, expenses, written, hid, hsource, ?_, ?_, ?_, ?_, ?_, hwrites,
    hbooks.widen hu.expenses hu.drawn ?_, fun huncounted => hnone ?_, fun hcounted hitem => ?_⟩
  · rw [← hrow, hid]
  · rw [← hrow, hsource]
  · rw [← hrow]
  · rw [← hrow]
    rfl
  · rw [← hrow]
    exact store4_toDecimalPlaces2 _
  · subst ht
    exact (deleteAttachedAsset_silent { v with
      purchases := KeyedRows.change MerchantPurchase.id id (fun _ => row) v.purchases } _).drawn
  · rw [if_neg (by simp [huncounted])]
  · have hdelta : row.quantity - old.quantity = dto.quantity.getD old.quantity - old.quantity := by
      rw [← hrow]
    by_cases hzero : row.quantity - old.quantity = 0
    · rw [hnone (by rw [if_neg (by simp [← hdelta, hzero])]), hzero]
      exact MovesPurchase.nil id
    · have hpick : (if old.stockAdded = true ∧ dto.quantity.getD old.quantity - old.quantity ≠ 0
          then s.stockItemId old else none) = s.stockItemId old := if_pos ⟨hcounted, hdelta ▸ hzero⟩
      rw [hpick, if_pos hitem, ← hdelta] at hmoves
      exact hmoves

inductive ExpenseGone (s : Books) (old : MerchantPurchase) (expenses : List Expense) : Prop
  | unlinked (unlinked : old.expenseId = none) (expenses_eq : expenses = s.expenses)
  | deleted (expenseId : String) (linked : old.expenseId = some expenseId)
      (expenses_eq : expenses = s.expenses.filter fun expense => expense.id ≠ expenseId)

theorem removePurchase_ok {id : String}
    (h : s.removePurchase storeId id writeConflicts = .ok (old, t)) :
    old ∈ s.purchases ∧ old.id = id ∧ old.source = .manual ∧ ∃ expenses written,
      Writes s t (s.purchases.filter fun purchase => purchase.id ≠ id) expenses written ∧
      ExpenseGone s old expenses ∧ (old.stockAdded = false → written = []) ∧
      (old.stockAdded = true → (s.stockItemId old).isSome →
        MovesPurchase id (-old.quantity) written) := by
  obtain ⟨row, hrow, h⟩ := Except.bind_eq_ok (serializable_ok h)
  obtain ⟨hmem, hid, hsource⟩ := requireEditable_ok hrow
  obtain ⟨u, hmove, h⟩ := Except.bind_eq_ok h
  obtain ⟨v, hexpense, h⟩ := Except.bind_eq_ok h
  obtain ⟨rfl, ht⟩ := Prod.mk.inj (Except.ok.inj h)
  obtain ⟨written, hmoves, hnone, hu⟩ := moveStock?_ok hmove
  have hgone : ∃ expenses, ExpenseGone s row expenses ∧
      Writes s v (s.purchases.filter fun purchase => purchase.id ≠ id) expenses written := by
    unfold deleteExpense at hexpense
    split at hexpense
    · rename_i hunlinked
      obtain rfl := Except.ok.inj hexpense
      refine ⟨s.expenses, .unlinked hunlinked rfl, ?_, hu.expenses, hu.movements, hu.items,
        hu.drawn⟩
      change u.purchases.filter _ = _
      rw [hu.purchases]
    · rename_i expenseId hlinked
      split at hexpense
      · cases hexpense
      · obtain rfl := Except.ok.inj hexpense
        refine ⟨_, .deleted expenseId hlinked rfl, ?_, ?_, hu.movements, hu.items, hu.drawn⟩
        · change u.purchases.filter _ = _
          rw [hu.purchases]
        · change u.expenses.filter _ = _
          rw [hu.expenses]
  obtain ⟨expenses, hgone, hv⟩ := hgone
  refine ⟨hmem, hid, hsource, expenses, written, ?_, hgone, fun huncounted => hnone ?_,
    fun hcounted hitem => ?_⟩
  · subst ht
    exact hv.then (deleteAttachedAsset_silent _ _)
  · simp [huncounted]
  · rw [if_pos hcounted, if_pos hitem] at hmoves
    exact hmoves

end Books

/-! ### What other movements of stock write -/

/-- The movements of `t` are those of before and some that are no purchase's. -/
def NoPurchases (before : List InventoryMovement) (t : Store) : Prop :=
  ∃ written, t.movements = before ++ written ∧
    ∀ movement ∈ written, ∀ id, purchaseMovement id movement = false

theorem NoPurchases.refl (s : Store) : NoPurchases s.movements s :=
  ⟨[], (List.append_nil _).symm, fun _ hm => nomatch hm⟩

variable {before : List InventoryMovement}

theorem NoPurchases.concat {s t : Store} {movement : InventoryMovement} (h : NoPurchases before s)
    (hmovements : t.movements = s.movements ++ [movement])
    (hother : ∀ id, purchaseMovement id movement = false) : NoPurchases before t := by
  obtain ⟨written, hold, hothers⟩ := h
  refine ⟨written ++ [movement], by rw [hmovements, hold, List.append_assoc], fun m hm => ?_⟩
  rcases Ledger.mem_concat.1 hm with hm | rfl
  · exact hothers m hm
  · exact hother

theorem not_purchaseMovement_of_type {movement : InventoryMovement}
    (h : movement.type ≠ .purchaseReceived) (id : String) :
    purchaseMovement id movement = false := by
  rw [purchaseMovement, decide_eq_false_iff_not]
  exact fun hall => h hall.1

theorem noPurchases_stable (before : List InventoryMovement) :
    StockStable (fun _ => True) (NoPurchases before) where
  quiet hq hs := by
    rw [NoPurchases, hq.movements]
    exact hs
  moved _ _ hm hs := by
    refine hs.concat hm.movements fun id => ?_
    simp [purchaseMovement, MoveInput.movement, orderLineReference]
  status _ _ hs := hs

open Command in
theorem changeStock_noPurchases {item key : String} (storeId : String)
    {change : BalanceQuantities → BalanceQuantities × InventoryMovement}
    (htype : ∀ balance, (change balance).2.type ≠ .purchaseReceived) :
    Keeps (NoPurchases before) (changeStock storeId item key change) := by
  intro s hs
  rcases changeStock_cases storeId item key change s with ⟨e, h⟩ | ⟨duplicate, -, h⟩ |
    ⟨-, -, h⟩
  · rw [Command.final, h]
    exact hs
  · rw [Command.final, h]
    exact hs
  · rw [Command.final, h]
    exact hs.concat (Store.movements_post ..) (not_purchaseMovement_of_type (htype _))

open Command in
theorem moveOnHandInTx_noPurchases (item : String) {movement : OnHandMovement}
    (htype : movement.type ≠ .purchaseReceived) :
    Keeps (NoPurchases before) (withOrderTransaction (moveOnHandInTx item movement)) := by
  intro s hs
  rw [Command.final, withOrderTransaction]
  rcases h : moveOnHandInTx item movement s with ⟨e | m, t⟩
  · rw [transaction_of_error h]
    exact (noPurchases_stable before).quiet (quiet_rollback s t) hs
  · rw [transaction_of_ok h]
    unfold moveOnHandInTx at h
    dsimp only at h
    split at h
    · cases h
    · split at h
      · cases h
      · obtain ⟨-, rfl⟩ := Prod.mk.inj h
        exact hs.concat (Store.movements_post ..) (not_purchaseMovement_of_type htype)

/-- Whether an operation is asked to write a movement of a received purchase: purchases alone call
`moveOnHandInTx`. -/
def receivesPurchase : StockOperation → Bool
  | .applyMovement _ _ input => input.type = .purchaseReceived
  | .moveOnHandInTx _ movement => movement.type = .purchaseReceived
  | _ => false

open Command in
theorem stockOperation_noPurchases {operation : StockOperation}
    (hother : receivesPurchase operation = false) (s : Store) :
    NoPurchases s.movements (operation.step s) := by
  have hstable := noPurchases_stable s.movements
  have hkeeps : Keeps (NoPurchases s.movements) operation.perform := by
    cases operation with
    | reserveOrder orderId => exact hstable.moves.reserveOrder orderId
    | deliverOrder orderId deliveredAt =>
      exact hstable.withOrderTransaction (hstable.moves.deliverOrder orderId _)
    | releaseOrder orderId =>
      exact hstable.withOrderTransaction (hstable.moves.releaseOrder orderId)
    | applyReturnCondition input =>
      exact (hstable.withOrderTransaction
        (hstable.moves.applyReturnCondition input)).bind fun _ => Keeps.pure ()
    | reconcileReturnTargets input =>
      exact (hstable.withOrderTransaction
        (hstable.moves.reconcileReturnTargets trivial)).bind fun _ => Keeps.pure ()
    | adjust storeId item dto =>
      have htype : InventoryMovementType.manualAdjustment ≠ .purchaseReceived := by decide
      exact (changeStock_noPurchases storeId fun _ => htype).bind fun _ => Keeps.pure ()
    | setOnHand storeId item dto =>
      have htype : InventoryMovementType.manualAdjustment ≠ .purchaseReceived := by decide
      exact (changeStock_noPurchases storeId fun _ => htype).bind fun _ => Keeps.pure ()
    | applyMovement storeId item input =>
      have htype : input.type ≠ .purchaseReceived := by simpa [receivesPurchase] using hother
      exact (changeStock_noPurchases storeId fun _ => htype).bind fun _ => Keeps.pure ()
    | moveOnHandInTx item movement =>
      have htype : movement.type ≠ .purchaseReceived := by simpa [receivesPurchase] using hother
      exact (moveOnHandInTx_noPurchases item htype).bind fun _ => Keeps.pure ()
    | editOrders orders => exact Keeps.modify fun s hs => hs
  exact hkeeps s (NoPurchases.refl s)

/-! ### The machine -/

/-- The calls on purchases, and what else happens: other movements, credits of packaging, new items
with opening stock, the expenses service, edits of the catalogue, and uploads of receipts. -/
inductive BooksAction
  | create (access : StoreAccess) (dto : CreatePurchaseDto) (ids : NewIds) (now : ℤ)
      (writeConflicts : ℕ)
  | update (storeId id : String) (dto : UpdatePurchaseDto) (ids : NewIds) (now : ℤ)
      (writeConflicts : ℕ)
  | remove (storeId id : String) (writeConflicts : ℕ)
  | operate (operation : StockOperation) (other : receivesPurchase operation = false)
  | credit (storeId : String) (item : DeliveredPackagingPurchase) (source : IdSource)
  | openStock (storeId : String) (stocked : Stocked) (item : String) (quantity : ℤ)
  | createExpense (expense : Expense)
  | editExpense (expenseId : String) (edit : Expense → Expense)
  | deleteExpense (expenseId : String)
  | editCatalogue (products : String → Option PurchasableProduct)
      (materials : String → Option PackagingMaterial)
  | editReceipts (receipts : List ReceiptAsset)

namespace Books

variable (s : Books)

def rejectIfPurchaseGenerated (expenseId : String) : Except PurchaseError Unit :=
  if s.purchases.any fun purchase => purchase.expenseId = some expenseId then
    .error (.conflict
      "This expense comes from a purchase — edit or delete the purchase instead.")
  else .ok ()

def openStock (storeId : String) (stocked : Stocked) (item : String) (quantity : ℤ) :
    Except PurchaseError Books := do
  let s ← s.draw item
  if (s.items stocked).isSome then .error .uniqueConstraint
  else .ok { s with
    items := Function.update s.items stocked (some item)
    stock := { s.stock with
      itemStores := Function.update s.stock.itemStores item (some storeId) }.post
        { onHand := quantity }
        { inventoryItemId := item
          type := .openingBalance
          bucket := .onHand
          quantityDelta := quantity
          resultingQuantity := quantity
          reason := "Opening stock" } }

def perform : BooksAction → Except PurchaseError Books
  | .create access dto ids now writeConflicts =>
    (s.createPurchase access dto ids now writeConflicts).map Prod.snd
  | .update storeId id dto ids now writeConflicts =>
    (s.updatePurchase storeId id dto ids now writeConflicts).map Prod.snd
  | .remove storeId id writeConflicts => (s.removePurchase storeId id writeConflicts).map Prod.snd
  | .operate operation _ => .ok { s with stock := operation.step s.stock }
  | .credit storeId item source => s.creditDeliveredPurchase storeId item source
  | .openStock storeId stocked item quantity => s.openStock storeId stocked item quantity
  | .createExpense expense => do
      let s ← s.draw expense.id
      return { s with expenses := s.expenses ++ [expense] }
  | .editExpense expenseId edit => do
      s.rejectIfPurchaseGenerated expenseId
      return { s with
        expenses := KeyedRows.change Expense.id expenseId
          (fun expense => { edit expense with id := expense.id }) s.expenses }
  | .deleteExpense expenseId => do
      s.rejectIfPurchaseGenerated expenseId
      return { s with expenses := s.expenses.filter fun expense => expense.id ≠ expenseId }
  | .editCatalogue products materials => .ok { s with products, materials }
  | .editReceipts receipts => .ok { s with receipts }

def step (action : BooksAction) : Books :=
  match s.perform action with
  | .ok t => t
  | .error _ => s

end Books

/-! ### The invariant -/

/-- **The three tables are in step**, and rows are found by identifiers that were drawn.  The
purchases `legacy` were there from before expenses were linked. -/
structure InStep (legacy : List MerchantPurchase) (s : Books) : Prop where
  purchaseIds : (s.purchases.map MerchantPurchase.id).Nodup
  expenseIds : (s.expenses.map Expense.id).Nodup
  owned : ∀ p ∈ s.purchases, ∀ q ∈ s.purchases, ∀ e, p.expenseId = some e →
    q.expenseId = some e → p = q
  purchaseDrawn : ∀ p ∈ s.purchases, p.id ∈ s.drawn
  linkDrawn : ∀ p ∈ s.purchases, ∀ e, p.expenseId = some e → e ∈ s.drawn
  expenseDrawn : ∀ e ∈ s.expenses, e.id ∈ s.drawn
  movementDrawn : ∀ m ∈ s.stock.movements, ∀ id, purchaseMovement id m = true → id ∈ s.drawn
  booked : ∀ p ∈ s.purchases, p.source = .manual →
    (p ∈ legacy ∧ p.expenseId = none) ∨ ∃ e ∈ s.expenses, Booked p e
  counted : ∀ p ∈ s.purchases, p.stockAdded = true →
    s.received p.id = p.quantity ∧ (s.stockItemId p).isSome
  uncounted : ∀ p ∈ s.purchases, p.stockAdded = false → ∀ m ∈ s.stock.movements,
    purchaseMovement p.id m = false
  gone : ∀ id, (∀ p ∈ s.purchases, p.id ≠ id) → s.received id = 0

/-- How the rows of purchases and expenses change: new rows have new identifiers, an old purchase
keeps its expense, or is gone together with it. -/
structure Evolves (s t : Books) : Prop where
  drawn : s.drawn ⊆ t.drawn
  freshPurchase : ∀ q ∈ t.purchases, (∃ p ∈ s.purchases, p.id = q.id) ∨ q.id ∉ s.drawn
  freshExpense : ∀ x ∈ t.expenses, (∃ e ∈ s.expenses, e.id = x.id) ∨ x.id ∉ s.drawn
  kept : ∀ p ∈ s.purchases,
    (∃ q ∈ t.purchases, q.id = p.id ∧ ∀ e, p.expenseId = some e → q.expenseId = some e) ∨
      ((∀ q ∈ t.purchases, q.id ≠ p.id) ∧ ∀ x ∈ t.expenses, p.expenseId ≠ some x.id)

variable {id : String}

theorem Writes.received {s t : Books} {units : ℤ} (h : Writes s t purchases expenses written)
    (hmoves : MovesPurchase id units written) (other : String) :
    t.received other = s.received other + if other = id then units else 0 := by
  rw [Books.received, Books.received, Store.sumMovements, Store.sumMovements, h.movements,
    Ledger.total_append]
  split
  · rename_i heq
    rw [heq, hmoves.sum]
  · rename_i hne
    have hnone : ∀ m ∈ written, purchaseMovement other m = false := fun m hm =>
      Bool.eq_false_iff.2 fun hyes => hne (hmoves.apart m hm other hyes)
    rw [Ledger.total_eq_zero hnone]

variable {legacy : List MerchantPurchase}

theorem InStep.movements_fresh {s : Books} (h : InStep legacy s) (hid : id ∉ s.drawn) :
    ∀ m ∈ s.stock.movements, purchaseMovement id m = false :=
  fun m hm => Bool.eq_false_iff.2 fun hyes => hid (h.movementDrawn m hm id hyes)

variable {p : MerchantPurchase}

theorem stockItemId_mono {s t : Books} (hitems : ∀ stocked item, s.items stocked = some item →
    t.items stocked = some item) (h : (s.stockItemId p).isSome) : (t.stockItemId p).isSome := by
  obtain ⟨item, hitem⟩ := Option.isSome_iff_exists.1 h
  rw [Books.stockItemId, Option.bind_eq_some_iff] at hitem
  obtain ⟨stocked, hstocked, hitem⟩ := hitem
  rw [Books.stockItemId, hstocked, Option.bind_some, hitems _ _ hitem]
  rfl

/-! ### What happens elsewhere -/

/-- What happens elsewhere leaves the purchases and their expenses alone, and moves stock of no
purchase. -/
structure Elsewhere (s t : Books) : Prop where
  purchases : t.purchases = s.purchases
  movements : NoPurchases s.stock.movements t.stock
  items : ∀ stocked item, s.items stocked = some item → t.items stocked = some item
  drawn : s.drawn ⊆ t.drawn
  expenseIds : (s.expenses.map Expense.id).Nodup → (∀ e ∈ s.expenses, e.id ∈ s.drawn) →
    (t.expenses.map Expense.id).Nodup
  fresh : ∀ x ∈ t.expenses, (∃ e ∈ s.expenses, e.id = x.id) ∨ (x.id ∉ s.drawn ∧ x.id ∈ t.drawn)
  kept : ∀ p ∈ s.purchases, ∀ e ∈ s.expenses, p.expenseId = some e.id → e ∈ t.expenses

theorem Elsewhere.of_writes {s t : Books} (h : Writes s t s.purchases s.expenses written)
    (hothers : ∀ m ∈ written, ∀ id, purchaseMovement id m = false) : Elsewhere s t where
  purchases := h.purchases
  movements := ⟨written, h.movements, hothers⟩
  items := h.items
  drawn := h.drawn
  expenseIds hnodup _ := h.expenses ▸ hnodup
  fresh x hx := Or.inl ⟨x, h.expenses ▸ hx, rfl⟩
  kept _ _ _ he _ := h.expenses ▸ he

theorem Elsewhere.received {s t : Books} (h : Elsewhere s t) (id : String) :
    t.received id = s.received id := by
  obtain ⟨written, hmovements, hothers⟩ := h.movements
  have hnone : ∀ m ∈ written, purchaseMovement id m = false := fun m hm => hothers m hm id
  rw [Books.received, Books.received, Store.sumMovements, Store.sumMovements, hmovements,
    Ledger.total_append, Ledger.total_eq_zero hnone, add_zero]

theorem Elsewhere.keeps {s t : Books} (h : Elsewhere s t) (hs : InStep legacy s) :
    InStep legacy t ∧ Evolves s t := by
  obtain ⟨written, hmovements, hothers⟩ := h.movements
  have hpurchases := h.purchases
  constructor
  · refine ⟨hpurchases ▸ hs.purchaseIds, h.expenseIds hs.expenseIds hs.expenseDrawn,
      hpurchases ▸ hs.owned, fun p hp => h.drawn (hs.purchaseDrawn p (hpurchases ▸ hp)),
      fun p hp e he => h.drawn (hs.linkDrawn p (hpurchases ▸ hp) e he), fun x hx => ?_,
      fun m hm id hid => ?_, fun p hp hsource => ?_, fun p hp hadded => ?_,
      fun p hp hadded m hm => ?_, fun id hid => ?_⟩
    · rcases h.fresh x hx with ⟨e, he, heq⟩ | ⟨-, hdrawn⟩
      · exact heq ▸ h.drawn (hs.expenseDrawn e he)
      · exact hdrawn
    · rw [hmovements] at hm
      rcases List.mem_append.1 hm with hm | hm
      · exact h.drawn (hs.movementDrawn m hm id hid)
      · rw [hothers m hm id] at hid
        cases hid
    · rw [hpurchases] at hp
      refine (hs.booked p hp hsource).imp_right ?_
      rintro ⟨e, he, hbooked⟩
      exact ⟨e, h.kept p hp e he hbooked.linked, hbooked⟩
    · rw [hpurchases] at hp
      obtain ⟨hsum, hitem⟩ := hs.counted p hp hadded
      exact ⟨by rw [h.received, hsum], stockItemId_mono h.items hitem⟩
    · rw [hpurchases] at hp
      rw [hmovements] at hm
      rcases List.mem_append.1 hm with hm | hm
      · exact hs.uncounted p hp hadded m hm
      · exact hothers m hm p.id
    · rw [h.received]
      exact hs.gone id fun p hp => hid p (hpurchases ▸ hp)
  · refine ⟨h.drawn, fun q hq => Or.inl ⟨q, hpurchases ▸ hq, rfl⟩,
      fun x hx => (h.fresh x hx).imp_right And.left, fun p hp => Or.inl ⟨p, hpurchases ▸ hp, rfl,
        fun _ he => he⟩⟩

/-! ### What the calls keep -/

theorem InStep.created {s t : Books} {row : MerchantPurchase} {expense : Expense}
    (hs : InStep legacy s)
    (hw : Writes s t (s.purchases ++ [row]) (s.expenses ++ [expense]) written)
    (hbooked : Booked row expense) (hrow : row.id ∉ s.drawn) (hrow' : row.id ∈ t.drawn)
    (hexpense : expense.id ∉ s.drawn) (hexpense' : expense.id ∈ t.drawn)
    (hcounted : row.stockAdded = true →
      MovesPurchase row.id row.quantity written ∧ (t.stockItemId row).isSome)
    (huncounted : row.stockAdded = false → written = []) : InStep legacy t ∧ Evolves s t := by
  have hmoves : MovesPurchase row.id (if row.stockAdded then row.quantity else 0) written := by
    cases hadded : row.stockAdded with
    | true => exact (hcounted hadded).1
    | false =>
      rw [huncounted hadded]
      exact MovesPurchase.nil row.id
  have hmem : ∀ {p}, p ∈ t.purchases ↔ p ∈ s.purchases ∨ p = row := by
    simp [hw.purchases]
  have hmemExpense : ∀ {e}, e ∈ t.expenses ↔ e ∈ s.expenses ∨ e = expense := by
    simp [hw.expenses]
  have hapart : ∀ p ∈ s.purchases, p.id ≠ row.id := fun p hp heq =>
    hrow (heq ▸ hs.purchaseDrawn p hp)
  have hlinkApart : ∀ p ∈ s.purchases, p.expenseId ≠ some expense.id := fun p hp heq =>
    hexpense (hs.linkDrawn p hp _ heq)
  have hreceived : ∀ p ∈ s.purchases, t.received p.id = s.received p.id := fun p hp => by
    rw [hw.received hmoves, if_neg (hapart p hp), add_zero]
  have hzero : s.received row.id = 0 := Ledger.total_eq_zero (hs.movements_fresh hrow)
  constructor
  · constructor
    case purchaseIds =>
      rw [hw.purchases]
      exact KeyedRows.nodup_concat _ hs.purchaseIds hapart
    case expenseIds =>
      rw [hw.expenses]
      exact KeyedRows.nodup_concat _ hs.expenseIds fun e he heq =>
        hexpense (heq ▸ hs.expenseDrawn e he)
    case owned =>
      intro p hp q hq e he he'
      rcases hmem.1 hp with hp | rfl <;> rcases hmem.1 hq with hq | rfl
      · exact hs.owned p hp q hq e he he'
      · rw [hbooked.linked] at he'
        exact absurd (he.trans he'.symm) (hlinkApart p hp)
      · rw [hbooked.linked] at he
        exact absurd (he'.trans he.symm) (hlinkApart q hq)
      · rfl
    case purchaseDrawn =>
      intro p hp
      rcases hmem.1 hp with hp | rfl
      · exact hw.drawn (hs.purchaseDrawn p hp)
      · exact hrow'
    case linkDrawn =>
      intro p hp e he
      rcases hmem.1 hp with hp | rfl
      · exact hw.drawn (hs.linkDrawn p hp e he)
      · rw [hbooked.linked] at he
        exact Option.some.inj he ▸ hexpense'
    case expenseDrawn =>
      intro e he
      rcases hmemExpense.1 he with he | rfl
      · exact hw.drawn (hs.expenseDrawn e he)
      · exact hexpense'
    case movementDrawn =>
      intro m hm id hid
      rw [hw.movements] at hm
      rcases List.mem_append.1 hm with hm | hm
      · exact hw.drawn (hs.movementDrawn m hm id hid)
      · exact hmoves.apart m hm id hid ▸ hrow'
    case booked =>
      intro p hp hsource
      rcases hmem.1 hp with hp | rfl
      · refine (hs.booked p hp hsource).imp_right ?_
        rintro ⟨e, he, hpe⟩
        exact ⟨e, hmemExpense.2 (Or.inl he), hpe⟩
      · exact Or.inr ⟨expense, hmemExpense.2 (Or.inr rfl), hbooked⟩
    case counted =>
      intro p hp hadded
      rcases hmem.1 hp with hp | rfl
      · obtain ⟨hsum, hitem⟩ := hs.counted p hp hadded
        exact ⟨by rw [hreceived p hp, hsum], stockItemId_mono hw.items hitem⟩
      · refine ⟨?_, (hcounted hadded).2⟩
        rw [hw.received hmoves, if_pos rfl, if_pos hadded, hzero, zero_add]
    case uncounted =>
      intro p hp hadded m hm
      rw [hw.movements] at hm
      rcases hmem.1 hp with hp | rfl
      · rcases List.mem_append.1 hm with hm | hm
        · exact hs.uncounted p hp hadded m hm
        · exact Bool.eq_false_iff.2 fun hyes => hapart p hp (hmoves.apart m hm _ hyes)
      · rw [huncounted hadded, List.append_nil] at hm
        exact hs.movements_fresh hrow m hm
    case gone =>
      intro id hid
      have hne : id ≠ row.id := fun heq => hid row (hmem.2 (Or.inr rfl)) heq.symm
      rw [hw.received hmoves, if_neg hne, add_zero]
      exact hs.gone id fun p hp => hid p (hmem.2 (Or.inl hp))
  · refine ⟨hw.drawn, fun q hq => ?_, fun x hx => ?_, fun p hp =>
      Or.inl ⟨p, hmem.2 (Or.inl hp), rfl, fun _ he => he⟩⟩
    · rcases hmem.1 hq with hq | rfl
      · exact Or.inl ⟨q, hq, rfl⟩
      · exact Or.inr hrow
    · rcases hmemExpense.1 hx with hx | rfl
      · exact Or.inl ⟨x, hx, rfl⟩
      · exact Or.inr hexpense

/-- The expenses after an edit: the edited purchase's is in step, and those of others are as they
were. -/
structure ExpenseFollows (s t : Books) (old row : MerchantPurchase) (expenses : List Expense) :
    Prop where
  booked : ∃ e ∈ expenses, Booked row e
  nodup : (expenses.map Expense.id).Nodup
  fresh : ∀ x ∈ expenses, (∃ e ∈ s.expenses, e.id = x.id) ∨ (x.id ∉ s.drawn ∧ x.id ∈ t.drawn)
  others : ∀ p ∈ s.purchases, p ≠ old → ∀ e ∈ s.expenses, p.expenseId = some e.id → e ∈ expenses
  still : ∀ e, old.expenseId = some e → row.expenseId = some e
  link : ∀ e, row.expenseId = some e → old.expenseId = some e ∨ (e ∉ s.drawn ∧ e ∈ t.drawn)

theorem Books.ExpenseEdited.follows {s t : Books} {old row : MerchantPurchase}
    (hs : InStep legacy s) (hold : old ∈ s.purchases)
    (hcost : row.totalCost.1 = purchaseCost row.unitPrice row.quantity)
    (h : Books.ExpenseEdited s t old row expenses) : ExpenseFollows s t old row expenses := by
  cases h with
  | rewritten expenseId f linked still found same amount expenses_eq =>
    subst expenses_eq
    refine ⟨?_, ?_, fun x hx => ?_, fun p hp hne e he hlink => ?_, fun e he => ?_, fun e he => ?_⟩
    · obtain ⟨e, he, hid⟩ := found
      refine ⟨f e, (KeyedRows.mem_change _).2 (Or.inl ⟨e, he, hid, rfl⟩), ?_, amount e, hcost⟩
      rw [same, hid, still]
    · rw [KeyedRows.map_key_change _ same]
      exact hs.expenseIds
    · rcases (KeyedRows.mem_change _).1 hx with ⟨e, he, -, rfl⟩ | ⟨hx, -⟩
      · exact Or.inl ⟨e, he, (same e).symm⟩
      · exact Or.inl ⟨x, hx, rfl⟩
    · refine (KeyedRows.mem_change _).2 (Or.inr ⟨he, fun heq => hne ?_⟩)
      exact hs.owned p hp old hold e.id hlink (heq ▸ linked)
    · rw [linked] at he
      rw [still, he]
    · rw [still] at he
      exact Or.inl (linked.trans he)
  | created expense unlinked linked amount fresh drawn expenses_eq =>
    subst expenses_eq
    refine ⟨⟨expense, by simp, linked, amount, hcost⟩, ?_, fun x hx => ?_,
      fun p hp hne e he hlink => by simp [he], fun e he => ?_, fun e he => ?_⟩
    · exact KeyedRows.nodup_concat _ hs.expenseIds fun e he heq =>
        fresh (heq ▸ hs.expenseDrawn e he)
    · rcases Ledger.mem_concat.1 hx with hx | rfl
      · exact Or.inl ⟨x, hx, rfl⟩
      · exact Or.inr ⟨fresh, drawn⟩
    · rw [unlinked] at he
      cases he
    · rw [linked] at he
      obtain rfl := Option.some.inj he
      exact Or.inr ⟨fresh, drawn⟩

theorem InStep.updated {s t : Books} {old row : MerchantPurchase} (hs : InStep legacy s)
    (hold : old ∈ s.purchases) (hid : old.id = id) (hid' : row.id = id)
    (hadded : row.stockAdded = old.stockAdded) (hstocked : row.stocked = old.stocked)
    (hw : Writes s t (KeyedRows.change MerchantPurchase.id id (fun _ => row) s.purchases) expenses
      written) (hexpense : ExpenseFollows s t old row expenses)
    (huncounted : old.stockAdded = false → written = [])
    (hcounted : old.stockAdded = true → (s.stockItemId old).isSome →
      MovesPurchase id (row.quantity - old.quantity) written) : InStep legacy t ∧ Evolves s t := by
  have hmoves : MovesPurchase id (if old.stockAdded then row.quantity - old.quantity else 0)
      written := by
    cases hcases : old.stockAdded with
    | true => exact hcounted hcases (hs.counted old hold hcases).2
    | false =>
      rw [huncounted hcases]
      exact MovesPurchase.nil id
  have hkeys : ∀ p ∈ s.purchases, p.id = id → p = old := fun p hp heq =>
    List.inj_on_of_nodup_map hs.purchaseIds hp hold (heq.trans hid.symm)
  have hmem : ∀ {p}, p ∈ t.purchases ↔ p = row ∨ (p ∈ s.purchases ∧ p.id ≠ id) := by
    intro p
    rw [hw.purchases, KeyedRows.mem_change]
    refine or_congr_left ⟨?_, ?_⟩
    · rintro ⟨-, -, -, rfl⟩
      rfl
    · rintro rfl
      exact ⟨old, hold, hid, rfl⟩
  have hother : ∀ p ∈ s.purchases, p.id ≠ id → p ≠ old := by
    rintro p - hne rfl
    exact hne hid
  have hlink : ∀ p ∈ s.purchases, p.id ≠ id → ∀ e, p.expenseId = some e →
      row.expenseId ≠ some e := by
    intro p hp hne e he he'
    rcases hexpense.link e he' with hlinked | ⟨hnew, -⟩
    · exact hother p hp hne (hs.owned p hp old hold e he hlinked)
    · exact hnew (hs.linkDrawn p hp e he)
  constructor
  · constructor
    case purchaseIds =>
      rw [hw.purchases, KeyedRows.map_key_change_of_key _ fun _ _ => hid']
      exact hs.purchaseIds
    case expenseIds =>
      rw [hw.expenses]
      exact hexpense.nodup
    case owned =>
      intro p hp q hq e he he'
      rcases hmem.1 hp with rfl | ⟨hp, hne⟩ <;> rcases hmem.1 hq with rfl | ⟨hq, hne'⟩
      · rfl
      · exact absurd he (hlink q hq hne' e he')
      · exact absurd he' (hlink p hp hne e he)
      · exact hs.owned p hp q hq e he he'
    case purchaseDrawn =>
      intro p hp
      rcases hmem.1 hp with rfl | ⟨hp, -⟩
      · rw [hid', ← hid]
        exact hw.drawn (hs.purchaseDrawn old hold)
      · exact hw.drawn (hs.purchaseDrawn p hp)
    case linkDrawn =>
      intro p hp e he
      rcases hmem.1 hp with rfl | ⟨hp, -⟩
      · rcases hexpense.link e he with hlinked | ⟨-, hdrawn⟩
        · exact hw.drawn (hs.linkDrawn old hold e hlinked)
        · exact hdrawn
      · exact hw.drawn (hs.linkDrawn p hp e he)
    case expenseDrawn =>
      intro x hx
      rcases hexpense.fresh x (hw.expenses ▸ hx) with ⟨e, he, heq⟩ | ⟨-, hdrawn⟩
      · exact heq ▸ hw.drawn (hs.expenseDrawn e he)
      · exact hdrawn
    case movementDrawn =>
      intro m hm other hother
      rw [hw.movements] at hm
      rcases List.mem_append.1 hm with hm | hm
      · exact hw.drawn (hs.movementDrawn m hm other hother)
      · rw [hmoves.apart m hm other hother, ← hid]
        exact hw.drawn (hs.purchaseDrawn old hold)
    case booked =>
      intro p hp hsource
      rcases hmem.1 hp with rfl | ⟨hp, hne⟩
      · exact Or.inr (hw.expenses ▸ hexpense.booked)
      · refine (hs.booked p hp hsource).imp_right ?_
        rintro ⟨e, he, hpe⟩
        exact ⟨e, hw.expenses ▸ hexpense.others p hp (hother p hp hne) e he hpe.linked, hpe⟩
    case counted =>
      intro p hp hcase
      rcases hmem.1 hp with rfl | ⟨hp, hne⟩
      · obtain ⟨hsum, hitem⟩ := hs.counted old hold (hadded ▸ hcase)
        rw [hw.received hmoves, if_pos hid', if_pos (hadded ▸ hcase), hid', ← hid, hsum]
        refine ⟨by omega, stockItemId_mono hw.items ?_⟩
        rw [Books.stockItemId, hstocked]
        exact hitem
      · obtain ⟨hsum, hitem⟩ := hs.counted p hp hcase
        refine ⟨?_, stockItemId_mono hw.items hitem⟩
        rw [hw.received hmoves, if_neg hne, hsum, add_zero]
    case uncounted =>
      intro p hp hcase m hm
      rw [hw.movements] at hm
      rcases hmem.1 hp with rfl | ⟨hp, hne⟩
      · rw [huncounted (hadded ▸ hcase), List.append_nil] at hm
        rw [hid', ← hid]
        exact hs.uncounted old hold (hadded ▸ hcase) m hm
      · rcases List.mem_append.1 hm with hm | hm
        · exact hs.uncounted p hp hcase m hm
        · exact Bool.eq_false_iff.2 fun hyes => hne (hmoves.apart m hm _ hyes)
    case gone =>
      intro other hnone
      have hne : other ≠ id := fun heq => hnone row (hmem.2 (Or.inl rfl)) (hid'.trans heq.symm)
      rw [hw.received hmoves, if_neg hne, add_zero]
      refine hs.gone other fun p hp heq => ?_
      exact hnone p (hmem.2 (Or.inr ⟨hp, fun h => hne (heq.symm.trans h)⟩)) heq
  · refine ⟨hw.drawn, fun q hq => ?_, fun x hx => ?_, fun p hp => Or.inl ?_⟩
    · rcases hmem.1 hq with rfl | ⟨hq, -⟩
      · exact Or.inl ⟨old, hold, hid.trans hid'.symm⟩
      · exact Or.inl ⟨q, hq, rfl⟩
    · exact (hexpense.fresh x (hw.expenses ▸ hx)).imp_right And.left
    · by_cases heq : p.id = id
      · obtain rfl := hkeys p hp heq
        exact ⟨row, hmem.2 (Or.inl rfl), hid'.trans heq.symm, hexpense.still⟩
      · exact ⟨p, hmem.2 (Or.inr ⟨hp, heq⟩), rfl, fun _ he => he⟩

theorem InStep.removed {s t : Books} {old : MerchantPurchase} (hs : InStep legacy s)
    (hold : old ∈ s.purchases) (hid : old.id = id)
    (hw : Writes s t (s.purchases.filter fun purchase => purchase.id ≠ id) expenses written)
    (hexpense : Books.ExpenseGone s old expenses)
    (huncounted : old.stockAdded = false → written = [])
    (hcounted : old.stockAdded = true → (s.stockItemId old).isSome →
      MovesPurchase id (-old.quantity) written) : InStep legacy t ∧ Evolves s t := by
  have hmoves : MovesPurchase id (if old.stockAdded then -old.quantity else 0) written := by
    cases hcases : old.stockAdded with
    | true => exact hcounted hcases (hs.counted old hold hcases).2
    | false =>
      rw [huncounted hcases]
      exact MovesPurchase.nil id
  have hkeys : ∀ p ∈ s.purchases, p.id = id → p = old := fun p hp heq =>
    List.inj_on_of_nodup_map hs.purchaseIds hp hold (heq.trans hid.symm)
  have hmem : ∀ {p}, p ∈ t.purchases ↔ p ∈ s.purchases ∧ p.id ≠ id := by
    simp [hw.purchases]
  -- the expenses that stay are those of the other purchases
  have hexpenses : t.expenses.Sublist s.expenses ∧
      (∀ x ∈ t.expenses, old.expenseId ≠ some x.id) ∧
      ∀ p ∈ s.purchases, p ≠ old → ∀ e ∈ s.expenses, p.expenseId = some e.id → e ∈ t.expenses := by
    rw [hw.expenses]
    cases hexpense with
    | unlinked unlinked expenses_eq =>
      subst expenses_eq
      exact ⟨List.Sublist.refl _, by simp [unlinked], fun _ _ _ _ he _ => he⟩
    | deleted expenseId linked expenses_eq =>
      subst expenses_eq
      refine ⟨List.filter_sublist, fun x hx heq => ?_, fun p hp hne e he hlink => ?_⟩
      · rw [linked, Option.some.injEq] at heq
        simp [heq] at hx
      · refine List.mem_filter.2 ⟨he, decide_eq_true fun heq => hne ?_⟩
        exact hs.owned p hp old hold e.id hlink (heq ▸ linked)
  obtain ⟨hsub, hdeleted, hothers⟩ := hexpenses
  have hother : ∀ p ∈ s.purchases, p.id ≠ id → p ≠ old := by
    rintro p - hne rfl
    exact hne hid
  have hzero : t.received id = 0 := by
    rw [hw.received hmoves, if_pos rfl]
    cases hcases : old.stockAdded with
    | true =>
      rw [if_pos rfl, ← hid, (hs.counted old hold hcases).1, add_neg_cancel]
    | false =>
      rw [if_neg Bool.false_ne_true, add_zero, ← hid]
      exact Ledger.total_eq_zero (hs.uncounted old hold hcases)
  constructor
  · constructor
    case purchaseIds =>
      rw [hw.purchases]
      exact hs.purchaseIds.sublist (List.filter_sublist.map _)
    case expenseIds => exact hs.expenseIds.sublist (hsub.map _)
    case owned =>
      intro p hp q hq e he he'
      exact hs.owned p (hmem.1 hp).1 q (hmem.1 hq).1 e he he'
    case purchaseDrawn => exact fun p hp => hw.drawn (hs.purchaseDrawn p (hmem.1 hp).1)
    case linkDrawn => exact fun p hp e he => hw.drawn (hs.linkDrawn p (hmem.1 hp).1 e he)
    case expenseDrawn => exact fun x hx => hw.drawn (hs.expenseDrawn x (hsub.subset hx))
    case movementDrawn =>
      intro m hm other hother
      rw [hw.movements] at hm
      rcases List.mem_append.1 hm with hm | hm
      · exact hw.drawn (hs.movementDrawn m hm other hother)
      · rw [hmoves.apart m hm other hother, ← hid]
        exact hw.drawn (hs.purchaseDrawn old hold)
    case booked =>
      intro p hp hsource
      obtain ⟨hp, hne⟩ := hmem.1 hp
      refine (hs.booked p hp hsource).imp_right ?_
      rintro ⟨e, he, hpe⟩
      exact ⟨e, hothers p hp (hother p hp hne) e he hpe.linked, hpe⟩
    case counted =>
      intro p hp hcase
      obtain ⟨hp, hne⟩ := hmem.1 hp
      obtain ⟨hsum, hitem⟩ := hs.counted p hp hcase
      refine ⟨?_, stockItemId_mono hw.items hitem⟩
      rw [hw.received hmoves, if_neg hne, hsum, add_zero]
    case uncounted =>
      intro p hp hcase m hm
      obtain ⟨hp, hne⟩ := hmem.1 hp
      rw [hw.movements] at hm
      rcases List.mem_append.1 hm with hm | hm
      · exact hs.uncounted p hp hcase m hm
      · exact Bool.eq_false_iff.2 fun hyes => hne (hmoves.apart m hm _ hyes)
    case gone =>
      intro other hnone
      by_cases heq : other = id
      · rw [heq, hzero]
      · rw [hw.received hmoves, if_neg heq, add_zero]
        refine hs.gone other fun p hp hpe => ?_
        exact hnone p (hmem.2 ⟨hp, fun h => heq (hpe.symm.trans h)⟩) hpe
  · refine ⟨hw.drawn, fun q hq => Or.inl ⟨q, (hmem.1 hq).1, rfl⟩,
      fun x hx => Or.inl ⟨x, hsub.subset hx, rfl⟩, fun p hp => ?_⟩
    by_cases heq : p.id = id
    · obtain rfl := hkeys p hp heq
      exact Or.inr ⟨fun q hq h => (hmem.1 hq).2 (h.trans heq), hdeleted⟩
    · exact Or.inl ⟨p, hmem.2 ⟨hp, heq⟩, rfl, fun _ he => he⟩

/-! ### Every action -/

namespace Books

variable {s t : Books}

theorem upsertMaterial_silent (s : Books) (storeId : String) (item : DeliveredPackagingPurchase)
    (source : IdSource) : Silent s (s.upsertMaterial storeId item source).2 := by
  unfold upsertMaterial
  dsimp only
  split
  · exact ⟨rfl, rfl, (List.append_nil _).symm, fun _ _ h => h, fun _ h => h⟩
  · exact ⟨rfl, rfl, (List.append_nil _).symm, fun _ _ h => h,
      fun _ hid => List.mem_cons_of_mem _ hid⟩

theorem items_update {stocked : Stocked} {newId : String} (hnew : s.items stocked = none)
    (other : Stocked) (item : String) (h : s.items other = some item) :
    Function.update s.items stocked (some newId) other = some item := by
  have hne : other ≠ stocked := by
    rintro rfl
    rw [hnew] at h
    cases h
  rw [Function.update_of_ne hne]
  exact h

theorem upsertItem_silent (s : Books) (storeId materialId : String) (source : IdSource) :
    Silent s (s.upsertItem storeId materialId source).2 := by
  unfold upsertItem
  split
  · exact Silent.refl _
  · rename_i hnew
    exact ⟨rfl, rfl, (List.append_nil _).symm, items_update hnew,
      fun _ hid => List.mem_cons_of_mem _ hid⟩

theorem packagingItem_silent (s : Books) (storeId : String) (item : DeliveredPackagingPurchase)
    (source : IdSource) : Silent s (s.packagingItem storeId item source).2 :=
  (upsertMaterial_silent s storeId item source).then (upsertItem_silent _ _ _ _)

variable {storeId : String}

theorem creditDeliveredPurchase_ok {item : DeliveredPackagingPurchase} {source : IdSource}
    (h : s.creditDeliveredPurchase storeId item source = .ok t) :
    Silent s t ∨ ∃ inventoryItemId resultingQuantity, Writes s t s.purchases s.expenses
      [creditMovement inventoryItemId item.quantity item.deliveryReference resultingQuantity] := by
  have hv := packagingItem_silent s storeId item source
  unfold creditDeliveredPurchase at h
  dsimp only at h
  unfold creditOnHand at h
  dsimp only at h
  split at h
  · obtain rfl := Except.ok.inj h
    exact Or.inl hv
  · split at h
    · cases h
    · obtain rfl := Except.ok.inj h
      exact Or.inr ⟨_, _, hv.after ⟨hv.purchases, hv.expenses, rfl, fun _ _ h => h, fun _ h => h⟩⟩

theorem creditDeliveredPurchase_elsewhere {item : DeliveredPackagingPurchase} {source : IdSource}
    (h : s.creditDeliveredPurchase storeId item source = .ok t) : Elsewhere s t := by
  rcases creditDeliveredPurchase_ok h with hw | ⟨inventoryItemId, resultingQuantity, hw⟩
  · exact Elsewhere.of_writes hw fun _ hm => nomatch hm
  · refine Elsewhere.of_writes hw fun m hm id => ?_
    obtain rfl := List.mem_singleton.1 hm
    exact not_purchaseMovement_of_type (by simp [creditMovement]) id

theorem openStock_elsewhere {item : String} {stocked : Stocked} {quantity : ℤ}
    (h : s.openStock storeId stocked item quantity = .ok t) : Elsewhere s t := by
  obtain ⟨u, hdraw, h⟩ := Except.bind_eq_ok h
  obtain ⟨-, -, hu⟩ := draw_ok hdraw
  split at h
  · cases h
  · rename_i hnew
    obtain rfl := Except.ok.inj h
    refine Elsewhere.of_writes (hu.after ⟨hu.purchases, hu.expenses, rfl,
      items_update (by simpa using hnew), fun _ h => h⟩) fun m hm id => ?_
    obtain rfl := List.mem_singleton.1 hm
    exact not_purchaseMovement_of_type (by simp) id

theorem createExpense_elsewhere {expense : Expense} (hnew : expense.id ∉ s.drawn)
    (hdrawn : expense.id ∈ t.drawn) (ht : Silent s t) :
    Elsewhere s { t with expenses := t.expenses ++ [expense] } where
  purchases := ht.purchases
  movements := ⟨[], ht.movements, fun _ hm => nomatch hm⟩
  items := ht.items
  drawn := ht.drawn
  expenseIds hnodup hall := by
    change ((t.expenses ++ [expense]).map Expense.id).Nodup
    rw [ht.expenses]
    exact KeyedRows.nodup_concat _ hnodup fun e he heq => hnew (heq ▸ hall e he)
  fresh x hx := by
    rcases Ledger.mem_concat.1 hx with hx | rfl
    · exact Or.inl ⟨x, ht.expenses ▸ hx, rfl⟩
    · exact Or.inr ⟨hnew, hdrawn⟩
  kept p _ e he _ := List.mem_append_left _ (ht.expenses.symm ▸ he)

theorem rejectIfPurchaseGenerated_ok {expenseId : String} {u : Unit}
    (h : s.rejectIfPurchaseGenerated expenseId = .ok u) :
    ∀ p ∈ s.purchases, p.expenseId ≠ some expenseId := by
  rw [rejectIfPurchaseGenerated] at h
  split at h
  · cases h
  · rename_i hnone
    simpa using hnone

theorem changeExpenses_elsewhere {expenseId : String}
    (hfree : ∀ p ∈ s.purchases, p.expenseId ≠ some expenseId)
    (hids : (expenses.map Expense.id).Sublist (s.expenses.map Expense.id))
    (hothers : ∀ e ∈ s.expenses, e.id ≠ expenseId → e ∈ expenses) :
    Elsewhere s { s with expenses } where
  purchases := rfl
  movements := NoPurchases.refl s.stock
  items _ _ h := h
  drawn _ h := h
  expenseIds hnodup _ := hnodup.sublist hids
  fresh x hx := by
    have hmem := hids.subset (List.mem_map_of_mem hx)
    obtain ⟨e, he, heq⟩ := List.mem_map.1 hmem
    exact Or.inl ⟨e, he, heq⟩
  kept p hp e he hlink := hothers e he fun heq => hfree p hp (heq ▸ hlink)

end Books

variable {s : Books}

theorem InStep.perform {t : Books} {action : BooksAction} (hs : InStep legacy s)
    (h : s.perform action = .ok t) : InStep legacy t ∧ Evolves s t := by
  cases action with
  | create access dto ids now writeConflicts =>
    obtain ⟨⟨row, t'⟩, hcreate, rfl⟩ := Except.map_eq_ok h
    obtain ⟨expense, written, hw, -, hbooked, hrow, hrow', hexpense, hexpense', hcounted,
      huncounted⟩ := Books.createPurchase_ok hcreate
    exact hs.created hw hbooked hrow hrow' hexpense hexpense' hcounted huncounted
  | update storeId id dto ids now writeConflicts =>
    obtain ⟨⟨row, t'⟩, hupdate, rfl⟩ := Except.map_eq_ok h
    obtain ⟨old, hold, expenses, written, hid, -, hid', -, hadded, hstocked, hcost, hw, hexpense,
      huncounted, hcounted⟩ := Books.updatePurchase_ok hupdate
    exact hs.updated hold hid hid' hadded hstocked hw (hexpense.follows hs hold hcost) huncounted
      hcounted
  | remove storeId id writeConflicts =>
    obtain ⟨⟨old, t'⟩, hremove, rfl⟩ := Except.map_eq_ok h
    obtain ⟨hold, hid, -, expenses, written, hw, hexpense, huncounted, hcounted⟩ :=
      Books.removePurchase_ok hremove
    exact hs.removed hold hid hw hexpense huncounted hcounted
  | operate operation other =>
    obtain rfl := Except.ok.inj h
    obtain ⟨written, hmovements, hothers⟩ := stockOperation_noPurchases other s.stock
    exact (Elsewhere.of_writes (s := s) (t := { s with stock := operation.step s.stock })
      ⟨rfl, rfl, hmovements, fun _ _ h => h, fun _ h => h⟩ hothers).keeps hs
  | credit storeId item source => exact (Books.creditDeliveredPurchase_elsewhere h).keeps hs
  | openStock storeId stocked item quantity => exact (Books.openStock_elsewhere h).keeps hs
  | createExpense expense =>
    obtain ⟨u, hdraw, h⟩ := Except.bind_eq_ok h
    obtain rfl := Except.ok.inj h
    obtain ⟨hnew, hdrawn, hu⟩ := Books.draw_ok hdraw
    exact (Books.createExpense_elsewhere hnew hdrawn hu).keeps hs
  | editExpense expenseId edit =>
    obtain ⟨u, hfree, h⟩ := Except.bind_eq_ok h
    obtain rfl := Except.ok.inj h
    refine (Books.changeExpenses_elsewhere (Books.rejectIfPurchaseGenerated_ok hfree) ?_
      fun e he hne => ?_).keeps hs
    · rw [KeyedRows.map_key_change Expense.id (k := expenseId)
        (f := fun expense => { edit expense with id := expense.id }) (fun _ => rfl)]
    · exact (KeyedRows.mem_change _).2 (Or.inr ⟨he, hne⟩)
  | deleteExpense expenseId =>
    obtain ⟨u, hfree, h⟩ := Except.bind_eq_ok h
    obtain rfl := Except.ok.inj h
    refine (Books.changeExpenses_elsewhere (Books.rejectIfPurchaseGenerated_ok hfree)
      (List.filter_sublist.map _) fun e he hne => ?_).keeps hs
    exact List.mem_filter.2 ⟨he, decide_eq_true hne⟩
  | editCatalogue products materials =>
    obtain rfl := Except.ok.inj h
    exact (Elsewhere.of_writes (s := s) (t := { s with products, materials })
      ⟨rfl, rfl, (List.append_nil _).symm, fun _ _ h => h, fun _ h => h⟩
      fun _ hm => nomatch hm).keeps hs
  | editReceipts receipts =>
    obtain rfl := Except.ok.inj h
    exact (Elsewhere.of_writes (s := s) (t := { s with receipts })
      ⟨rfl, rfl, (List.append_nil _).symm, fun _ _ h => h, fun _ h => h⟩
      fun _ hm => nomatch hm).keeps hs

theorem InStep.step (action : BooksAction) (hs : InStep legacy s) :
    InStep legacy (s.step action) := by
  rw [Books.step]
  split
  · rename_i t h
    exact (hs.perform h).1
  · exact hs

/-! ### What became of a purchase -/

/-- What became of a purchase: it is still there with its expense, or both are gone. -/
def Fate (p : MerchantPurchase) (s : Books) : Prop :=
  (∃ q ∈ s.purchases, q.id = p.id ∧ ∀ e, p.expenseId = some e → q.expenseId = some e) ∨
    (p.id ∈ s.drawn ∧ (∀ e, p.expenseId = some e → e ∈ s.drawn) ∧
      (∀ q ∈ s.purchases, q.id ≠ p.id) ∧ ∀ x ∈ s.expenses, p.expenseId ≠ some x.id)

theorem Fate.evolve {t : Books} (hs : InStep legacy s) (h : Evolves s t) (hp : Fate p s) :
    Fate p t := by
  rcases hp with ⟨q, hq, hid, hlink⟩ | ⟨hid, hlink, hgone, hnone⟩
  · rcases h.kept q hq with ⟨q', hq', hid', hlink'⟩ | ⟨hgone, hnone⟩
    · exact Or.inl ⟨q', hq', hid'.trans hid, fun e he => hlink' e (hlink e he)⟩
    · refine Or.inr ⟨h.drawn (hid ▸ hs.purchaseDrawn q hq), fun e he =>
        h.drawn (hs.linkDrawn q hq e (hlink e he)), fun q' hq' => hid ▸ hgone q' hq',
        fun x hx he => hnone x hx (hlink _ he)⟩
  · refine Or.inr ⟨h.drawn hid, fun e he => h.drawn (hlink e he), fun q hq heq => ?_,
      fun x hx he => ?_⟩
    · rcases h.freshPurchase q hq with ⟨q', hq', heq'⟩ | hfresh
      · exact hgone q' hq' (heq'.trans heq)
      · exact hfresh (heq ▸ hid)
    · rcases h.freshExpense x hx with ⟨x', hx', heq'⟩ | hfresh
      · exact hnone x' hx' (heq' ▸ he)
      · exact hfresh (hlink _ he)

theorem Fate.run (hs : InStep legacy s) (hp : p ∈ s.purchases) (actions : List BooksAction) :
    Fate p (Machine.run Books.step s actions) := by
  have hkeeps : ∀ t action, (InStep legacy t ∧ Fate p t) →
      (InStep legacy (t.step action) ∧ Fate p (t.step action)) := by
    intro t action ht
    refine ⟨ht.1.step action, ?_⟩
    rw [Books.step]
    split
    · rename_i u h
      exact ht.2.evolve ht.1 (ht.1.perform h).2
    · exact ht.2
  exact (Machine.run_keeps hkeeps ⟨hs, Or.inl ⟨p, hp, rfl, fun _ he => he⟩⟩ actions).2

/-! ### The books -/

/-- A store before its first call: purchases recorded by the shop, and manual ones from before stock
and expenses were linked to them. -/
structure Start (s : Books) : Prop where
  purchaseIds : (s.purchases.map MerchantPurchase.id).Nodup
  expenseIds : (s.expenses.map Expense.id).Nodup
  owned : ∀ p ∈ s.purchases, ∀ q ∈ s.purchases, ∀ e, p.expenseId = some e →
    q.expenseId = some e → p = q
  purchaseDrawn : ∀ p ∈ s.purchases, p.id ∈ s.drawn
  linkDrawn : ∀ p ∈ s.purchases, ∀ e, p.expenseId = some e → e ∈ s.drawn
  expenseDrawn : ∀ e ∈ s.expenses, e.id ∈ s.drawn
  movements : ∀ m ∈ s.stock.movements, ∀ id, purchaseMovement id m = false
  uncounted : ∀ p ∈ s.purchases, p.stockAdded = false
  booked : ∀ p ∈ s.purchases, p.source = .manual →
    p.expenseId = none ∨ ∃ e ∈ s.expenses, Booked p e

theorem Start.inStep (h : Start s) : InStep s.purchases s where
  purchaseIds := h.purchaseIds
  expenseIds := h.expenseIds
  owned := h.owned
  purchaseDrawn := h.purchaseDrawn
  linkDrawn := h.linkDrawn
  expenseDrawn := h.expenseDrawn
  movementDrawn m hm id hid := by
    rw [h.movements m hm id] at hid
    cases hid
  booked p hp hsource := (h.booked p hp hsource).imp_left fun hnone => ⟨hp, hnone⟩
  counted p hp hadded := by
    rw [h.uncounted p hp] at hadded
    cases hadded
  uncounted p _ _ m hm := h.movements m hm p.id
  gone id _ := Ledger.total_eq_zero fun m hm => h.movements m hm id

/-- The tables agree: in `u`, reached from `t`, which was reached from the start `s`. -/
structure Agree (s t u : Books) : Prop where
  /-- the movements of a purchase sum to its quantity, or there are none -/
  stock : ∀ p ∈ u.purchases, p.source = .manual →
    (p.stockAdded = true → u.received p.id = p.quantity) ∧
      (p.stockAdded = false → ∀ m ∈ u.stock.movements, purchaseMovement p.id m = false)
  /-- a purchase has one expense of its own with what it cost, unless it has had none from the start
  and was not edited yet -/
  expense : ∀ p ∈ u.purchases, p.source = .manual → (p ∈ s.purchases ∧ p.expenseId = none) ∨
    ∃ e ∈ u.expenses, Booked p e ∧ (∀ e' ∈ u.expenses, p.expenseId = some e'.id → e' = e) ∧
      ∀ q ∈ u.purchases, q.expenseId = some e.id → q = p
  /-- a deleted purchase leaves a sum of zero and no expense -/
  removed : ∀ p ∈ t.purchases, (∀ q ∈ u.purchases, q.id ≠ p.id) →
    u.received p.id = 0 ∧ ∀ e ∈ u.expenses, p.expenseId ≠ some e.id
  /-- what throws leaves everything as it was -/
  thrown : ∀ action e, u.perform action = .error e → u.step action = u

/-- **The tables agree after every run**, and what was deleted anywhere in it is gone. -/
theorem manualPurchases {s : Books} (hs : Start s) (before after : List BooksAction) :
    Agree s (Machine.run Books.step s before)
      (Machine.run Books.step (Machine.run Books.step s before) after) := by
  have hkeeps : ∀ t action, InStep s.purchases t → InStep s.purchases (t.step action) :=
    fun _ action ht => ht.step action
  have ht := Machine.run_keeps hkeeps hs.inStep before
  have hu := Machine.run_keeps hkeeps ht after
  set t := Machine.run Books.step s before with ht_def
  set u := Machine.run Books.step t after with hu_def
  refine ⟨fun p hp _ => ⟨fun hadded => (hu.counted p hp hadded).1, hu.uncounted p hp⟩,
    fun p hp hsource => (hu.booked p hp hsource).imp_right ?_, fun p hp hgone =>
      ⟨hu.gone p.id hgone, ?_⟩, fun action e herror => by rw [Books.step, herror]⟩
  · rintro ⟨e, he, hbooked⟩
    refine ⟨e, he, hbooked, fun e' he' hlink => ?_, fun q hq hlink =>
      hu.owned q hq p hp e.id hlink hbooked.linked⟩
    rw [hbooked.linked, Option.some.injEq] at hlink
    exact List.inj_on_of_nodup_map hu.expenseIds he' he hlink.symm
  · rcases Fate.run ht hp after with ⟨q, hq, hid, -⟩ | ⟨-, -, -, hnone⟩
    · exact absurd hid (hgone q hq)
    · exact hnone

/-! ### A store that buys boxes -/

def boxStore : Books where
  materials := fun id => if id = "boxes" then some { storeId := "store", name := "Boxes" } else none

theorem boxStore_start : Start boxStore := by
  constructor <;> simp [boxStore]

def buyBoxes : BooksAction :=
  .create { storeId := "store", userId := "owner", baseCurrency := "MAD" }
    { packagingMaterialId := some "boxes", named := by simp, quantity := 5
      quantity_mem := by omega, unitPrice := store4 (5 / 2), purchaseDate := some 0 }
    { purchase := "purchase", expense := "expense", category := "category", item := "item" } 0 0

def correctBoxes : BooksAction :=
  .update "store" "purchase" { quantity := some 3, quantity_mem := by simp }
    { purchase := "", expense := "", category := "", item := "" } 0 0

theorem manualPurchases_corrected :
    ((Machine.run Books.step (Machine.run Books.step boxStore [buyBoxes])
      [correctBoxes]).purchases.map fun p => (p.quantity, p.totalCost.1)) = [(3, 15 / 2)] ∧
    Agree boxStore (Machine.run Books.step boxStore [buyBoxes])
      (Machine.run Books.step (Machine.run Books.step boxStore [buyBoxes]) [correctBoxes]) :=
  ⟨by decide +kernel, manualPurchases boxStore_start [buyBoxes] [correctBoxes]⟩

def refersToPurchase (movement : InventoryMovement) : Bool :=
  movement.bucket = .onHand ∧ movement.referenceType = some "MERCHANT_PURCHASE" ∧
    movement.referenceId = some purchaseId

def adjustBoxes : BooksAction :=
  .operate (.adjust "store" "item"
    { bucket := .onHand, quantityDelta := 2, reason := "two more in the parcel"
      idempotencyKey := "count-0001", referenceType := some "MERCHANT_PURCHASE"
      referenceId := some "purchase" }) rfl

/-- **Not every movement that refers to a purchase is the purchase's**: after the adjustment those
of five boxes sum to seven. -/
theorem manualPurchases_adjusted :
    Start boxStore ∧
    ¬ ∀ p ∈ (Machine.run Books.step boxStore [buyBoxes, adjustBoxes]).purchases,
      p.source = .manual → p.stockAdded = true →
        (Machine.run Books.step boxStore [buyBoxes, adjustBoxes]).stock.sumMovements
          (refersToPurchase p.id) = p.quantity :=
  ⟨boxStore_start, by decide +kernel⟩

end Zomaal.Purchasing
