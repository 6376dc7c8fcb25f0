/-
**The counters of the customers.**

A customer has a counter of orders and one of cancellations, both raised after the rows of the
orders are written: by the sync of a page, whose rows it has read before it wrote any of them, and
by the webhook of an order, which reads the row in the transaction that writes it.  This module puts
both paths into one machine, with the deletion of orders and the duplicates that the merchant
cancels; every page and every webhook is processed to its end before the next one.

Main results:

* `customerCounters` — **when the counters of the customers are exact**.
-/

import Mathlib.Algebra.Group.Prod
import Zomaal.FirstLabel
import Zomaal.SyncRetries

set_option autoImplicit false

namespace Zomaal

/-! ### Writes of orders -/

/-- A write of an order's row: its status before, if any, and after, its customer, and whether the
merchant cancelled it as a duplicate. -/
structure OrderWrite where
  connection : String
  externalOrderId : String
  before : Option EcommerceOrderStatus
  after : EcommerceOrderStatus
  customer : Option String
  cancelledDuplicate : Bool

namespace OrderWrite

def link (write : OrderWrite) : (String × String) × Option String :=
  ((write.connection, write.externalOrderId), write.customer)

/-- An order of the customer goes from another status to cancelled. -/
def cancels (write : OrderWrite) (phone : String) : Bool :=
  write.customer = some phone && write.before.any (fun status => status ≠ .cancelled) &&
    write.after = .cancelled && !write.cancelledDuplicate

theorem cancels_iff {write : OrderWrite} {phone : String} :
    write.cancels phone ↔ write.customer = some phone ∧
      (write.before.any fun status => status ≠ .cancelled) ∧ write.after = .cancelled ∧
        write.cancelledDuplicate = false := by
  simp only [cancels, Bool.and_eq_true, decide_eq_true_eq, Bool.not_eq_true', and_assoc]

end OrderWrite

variable (writes : List OrderWrite)

def firstCustomer (connection externalOrderId : String) : Option String :=
  FirstLabel.first (writes.map OrderWrite.link) (connection, externalOrderId)

/-- **What the writes tell of a customer**: the orders that were linked to the customer first, and
the cancellations. -/
def writtenCounts (phone : String) : ℕ × ℕ :=
  ((FirstLabel.keys (writes.map OrderWrite.link) phone).card,
    writes.countP fun write => write.cancels phone)

variable (incoming : NormalizedEcommerceOrder)

def NormalizedEcommerceOrder.written (connection : String) (cancelledDuplicates : List String)
    (stored : Option StoredOrder) (customer : Option OrderCustomer) : OrderWrite where
  connection := connection
  externalOrderId := incoming.externalOrderId
  before := stored.map fun row => row.data.status
  after := incoming.status
  customer := customer.map OrderCustomer.phone
  cancelledDuplicate := stored.any fun row => row.id ∈ cancelledDuplicates

def pageWrites (env : SyncEnvironment) (connection : String) (cancelledDuplicates : List String)
    (customers : List (String × Option OrderCustomer)) :
    List StoredOrder → List NormalizedEcommerceOrder → List OrderWrite
  | _, [] => []
  | orders, incoming :: rest =>
    incoming.written connection cancelledDuplicates
        (KeyedRows.lookup StoredOrder.externalOrderId incoming.externalOrderId orders)
        (customerByOrder customers incoming.externalOrderId) ::
      pageWrites env connection cancelledDuplicates customers (env.upsertOrder orders incoming)
        rest

/-! ### The webhook of an order -/

def SyncEnvironment.webhookStatements (env : SyncEnvironment) (db : SyncDb)
    (incoming : NormalizedEcommerceOrder) (customer : Option OrderCustomer) :
    List LateStatement :=
  let existing := db.order incoming.externalOrderId
  .writeLines incoming.externalOrderId (webhookOrderLines env.toLowerCase
      (env.created incoming.externalOrderId) env.catalogue incoming.lines) ::
    ((if existing.isSome then [.refreshCodStatus incoming.externalOrderId] else []) ++
      (env.customerCall db incoming existing customer).statements)

/-- Whether a webhook writes the row of an order: not over a newer one. -/
def SyncDb.accepts (db : SyncDb) (incoming : NormalizedEcommerceOrder) : Bool :=
  (db.order incoming.externalOrderId).all fun row =>
    row.data.providerUpdatedAt ≤ incoming.providerUpdatedAt

/-- **`upsertCurrentOrder`**, of an order that Shopify has. -/
def upsertCurrentOrder (env : SyncEnvironment) (incoming : NormalizedEcommerceOrder) (db : SyncDb) :
    Except CustomerError Unit × SyncDb :=
  match env.resolveCustomer incoming db.book with
  | (.error error, book) => (.error error, { db with book })
  | (.ok (_, customer), book) =>
    if db.accepts incoming then
      (.ok (), (env.webhookStatements db incoming customer).foldl (SyncDb.write env)
        { db with book, orders := env.upsertOrder db.orders incoming })
    else (.ok (), { db with book })

def webhookWrites (env : SyncEnvironment) (connection : String) (db : SyncDb)
    (incoming : NormalizedEcommerceOrder) : List OrderWrite :=
  match (env.resolveCustomer incoming db.book).1 with
  | .error _ => []
  | .ok (_, customer) =>
    if db.accepts incoming then
      [incoming.written connection db.cancelledDuplicates (db.order incoming.externalOrderId)
        customer]
    else []

/-! ### The machine -/

/-- What a store finds around it; the rows of its connections have identifiers of their own. -/
structure StoreEnvironment extends SyncEnvironment where
  rowId : String → String → String

def StoreEnvironment.connection (env : StoreEnvironment) (connection : String) : SyncEnvironment :=
  { env.toSyncEnvironment with newOrderId := env.rowId connection }

/-- The rows of a store, and what was written to those of its orders. -/
structure CountedDb where
  orders : String → List StoredOrder := fun _ => []
  book : CustomerBook := {}
  warnOnNewOrder : Bool := true
  cancelledDuplicates : List String := []
  writes : List OrderWrite := []

inductive CounterAction
  | page (connection : String) (page : SyncPage)
  | webhook (connection : String) (incoming : NormalizedEcommerceOrder)
  | delete (connection externalOrderId : String)
  | cancelDuplicate (orderId : String)

namespace CountedDb

variable (env : StoreEnvironment) (s : CountedDb)

def rows (connection : String) : SyncDb where
  orders := s.orders connection
  book := s.book
  warnOnNewOrder := s.warnOnNewOrder
  cancelledDuplicates := s.cancelledDuplicates

def put (connection : String) (db : SyncDb) (writes : List OrderWrite) : CountedDb :=
  { s with
    orders := Function.update s.orders connection db.orders
    book := db.book
    writes := s.writes ++ writes }

def writesOfPage (connection : String) (page : SyncPage) : List OrderWrite :=
  match (env.resolveCustomers page.orders s.book).1 with
  | .error _ => []
  | .ok customers =>
    pageWrites (env.connection connection) connection s.cancelledDuplicates customers
      (s.orders connection) page.orders

/-- **A step**: a page, a webhook, the deletion of an order, or a duplicate that is cancelled. -/
def step : CounterAction → CountedDb
  | .page connection page =>
    s.put connection (persistOrders (env.connection connection) page {} (s.rows connection)).2
      (s.writesOfPage env connection page)
  | .webhook connection incoming =>
    s.put connection
      (upsertCurrentOrder (env.connection connection) incoming (s.rows connection)).2
      (webhookWrites (env.connection connection) connection (s.rows connection) incoming)
  | .delete connection externalOrderId =>
    { s with
      orders := Function.update s.orders connection ((s.orders connection).filter fun row =>
        row.externalOrderId ≠ externalOrderId) }
  | .cancelDuplicate orderId =>
    { s with cancelledDuplicates := orderId :: s.cancelledDuplicates }

end CountedDb

/-! ### What the counters promise -/

def Customer.counted (customer : Customer) : ℕ × ℕ :=
  (customer.totalOrders, customer.cancellationsCount)

/-- The counters of a customer; somebody who is not known has none. -/
def CustomerBook.counted (book : CustomerBook) (storeId phone : String) : ℕ × ℕ :=
  ((KeyedRows.lookup Customer.key (storeId, phone) book.customers).map Customer.counted).getD 0

def CountedDb.Exact (env : StoreEnvironment) (s : CountedDb) : Prop :=
  ∀ phone, s.book.counted env.storeId phone = writtenCounts s.writes phone

structure CountedDb.Start (env : StoreEnvironment) (s : CountedDb) : Prop where
  writes : s.writes = []
  normalised : s.book.Normalised env.directory
  counted : ∀ phone, s.book.counted env.storeId phone = 0

variable (cancelledDuplicates : List String)

def StoredOrder.countsCancellation (row : StoredOrder) : Bool :=
  row.data.status ≠ .cancelled && row.id ∉ cancelledDuplicates

/-- **What was read of an order holds when it is written**: it had no row if it was never linked to
a customer, and its cancellation counted if it counts now. -/
def OrderTimely (writes : List OrderWrite) (connection : String)
    (incoming : NormalizedEcommerceOrder) (read stored : Option StoredOrder) : Prop :=
  (read = none ↔ firstCustomer writes connection incoming.externalOrderId = none) ∧
    (incoming.status = .cancelled →
      read.any (StoredOrder.countsCancellation cancelledDuplicates) =
        stored.any (StoredOrder.countsCancellation cancelledDuplicates))

/-- What was read holds for each order of a page that has a customer. -/
def PageTimely (env : SyncEnvironment) (connection : String) (cancelledDuplicates : List String)
    (customers : List (String × Option OrderCustomer)) (read : String → Option StoredOrder) :
    List OrderWrite → List StoredOrder → List NormalizedEcommerceOrder → Prop
  | _, _, [] => True
  | writes, orders, incoming :: rest =>
    let stored := KeyedRows.lookup StoredOrder.externalOrderId incoming.externalOrderId orders
    let customer := customerByOrder customers incoming.externalOrderId
    (customer.isSome → OrderTimely cancelledDuplicates writes connection incoming
      (read incoming.externalOrderId) stored) ∧
    PageTimely env connection cancelledDuplicates customers read
      (writes ++ [incoming.written connection cancelledDuplicates stored customer])
      (env.upsertOrder orders incoming) rest

def CountedDb.Timely (env : StoreEnvironment) (s : CountedDb) : CounterAction → Prop
  | .page connection page => ∀ customers,
      (env.resolveCustomers page.orders s.book).1 = .ok customers →
        PageTimely (env.connection connection) connection s.cancelledDuplicates customers
          (s.rows connection).order s.writes (s.orders connection) page.orders
  | .webhook connection incoming =>
    (env.identify incoming).isSome → (s.rows connection).accepts incoming →
      let stored := (s.rows connection).order incoming.externalOrderId
      OrderTimely s.cancelledDuplicates s.writes connection incoming stored stored
  | .delete _ _ => True
  | .cancelDuplicate _ => True

/-! ### What the writes tell -/

theorem writtenCounts_append (write : OrderWrite) (phone : String) :
    writtenCounts (writes ++ [write]) phone =
      writtenCounts writes phone +
        (if firstCustomer writes write.connection write.externalOrderId = none ∧
            write.customer = some phone then 1 else 0,
          if write.cancels phone then 1 else 0) := by
  rw [writtenCounts, List.map_append, List.map_singleton, OrderWrite.link,
    FirstLabel.card_keys_append, List.countP_append, List.countP_singleton]
  rfl

/-! ### What the statements count -/

def LateStatement.countsFor : LateStatement → Option String
  | .countOrder phone => some phone
  | .countCancellation phone => some phone
  | .writeLines _ _ => none
  | .storeEvents _ _ => none
  | .refreshCodStatus _ => none
  | .blacklist _ => none

def LateStatement.tally (phone : String) : LateStatement → ℕ × ℕ
  | .countOrder counted => if counted = phone then (1, 0) else 0
  | .countCancellation counted => if counted = phone then (0, 1) else 0
  | .writeLines _ _ => 0
  | .storeEvents _ _ => 0
  | .refreshCodStatus _ => 0
  | .blacklist _ => 0

section Counted

variable {env : SyncEnvironment} {book book' : CustomerBook} {phone : String}

theorem counted_updateCustomer {counted : String} (hfound : (env.storeId, counted) ∈ book.keys)
    (change : Customer → Customer) (hkey : ∀ row, (change row).key = row.key) {amount : ℕ × ℕ}
    (hcounted : ∀ row, (change row).counted = row.counted + amount) :
    (book.updateCustomer env.storeId counted change).counted env.storeId phone =
      book.counted env.storeId phone + if counted = phone then amount else 0 := by
  rw [CustomerBook.counted, CustomerBook.updateCustomer, KeyedRows.lookup_change Customer.key hkey,
    CustomerBook.counted]
  by_cases hphone : counted = phone
  · subst hphone
    obtain ⟨row, hrow⟩ := Option.isSome_iff_exists.1 (CustomerBook.lookup_isSome_iff.2 hfound)
    rw [hrow, if_pos rfl, Option.map_some, if_pos rfl]
    exact hcounted row
  · have hne : (env.storeId, phone) ≠ (env.storeId, counted) :=
      fun h => hphone (Prod.mk.inj h).2.symm
    simp only [if_neg hne, if_neg hphone, add_zero, Option.map_id']

theorem counted_updateCustomer_hidden (counted : String) {change : Customer → Customer}
    (hkey : ∀ row, (change row).key = row.key)
    (hcounted : ∀ row, (change row).counted = row.counted) :
    (book.updateCustomer env.storeId counted change).counted env.storeId phone =
      book.counted env.storeId phone := by
  rw [CustomerBook.counted, CustomerBook.updateCustomer, KeyedRows.lookup_change Customer.key hkey,
    CustomerBook.counted, Option.map_map]
  congr 2
  funext row
  rw [Function.comp_apply]
  split
  · exact hcounted row
  · rfl

theorem counted_saveCustomer (saved : String) (params : CustomerParams) :
    (book.saveCustomer env.storeId saved params).counted env.storeId phone =
      book.counted env.storeId phone := by
  rw [CustomerBook.saveCustomer]
  split
  · exact counted_updateCustomer_hidden saved params.metadata_key fun _ => rfl
  · rename_i hfree
    have hfree : KeyedRows.lookup Customer.key
        (params.metadata { storeId := env.storeId, phone := saved }).key book.customers = none :=
      Option.not_isSome_iff_eq_none.1 hfree
    rw [CustomerBook.counted, CustomerBook.counted, KeyedRows.lookup_append_fresh _ hfree]
    split
    · rename_i hphone
      rw [hphone, hfree]
      rfl
    · rfl

theorem counted_write {db : SyncDb} {statement : LateStatement}
    (hfound : ∀ counted ∈ statement.countsFor, (env.storeId, counted) ∈ db.book.keys) :
    (db.write env statement).book.counted env.storeId phone =
      db.book.counted env.storeId phone + statement.tally phone := by
  cases statement with
  | countOrder counted =>
    exact counted_updateCustomer (hfound counted rfl)
      (fun customer => { customer with totalOrders := customer.totalOrders + 1 })
      (fun _ => rfl) fun _ => rfl
  | countCancellation counted =>
    exact counted_updateCustomer (hfound counted rfl)
      (fun customer => customer.increment .cancellations) (fun _ => rfl) fun _ => rfl
  | blacklist blacklisted =>
    have hsame : ∀ (row : Customer), (if row.isBlacklisted then row
        else if row.evaluateThreshold (db.book.settings env.storeId) then
          { row with
            isBlacklisted := true
            blacklistReason := some row.autoBlacklistReason }
        else row).key = row.key ∧ (if row.isBlacklisted then row
        else if row.evaluateThreshold (db.book.settings env.storeId) then
          { row with
            isBlacklisted := true
            blacklistReason := some row.autoBlacklistReason }
        else row).counted = row.counted := by
      intro row
      split
      · exact ⟨rfl, rfl⟩
      · split <;> exact ⟨rfl, rfl⟩
    exact counted_updateCustomer_hidden blacklisted (fun row => (hsame row).1)
      fun row => (hsame row).2
  | writeLines | storeEvents | refreshCodStatus => rfl

theorem counted_writes {db : SyncDb} {statements : List LateStatement}
    (hfound : ∀ statement ∈ statements, ∀ counted ∈ statement.countsFor,
      (env.storeId, counted) ∈ db.book.keys) :
    (statements.foldl (SyncDb.write env) db).book.counted env.storeId phone =
      db.book.counted env.storeId phone + (statements.map (LateStatement.tally phone)).sum := by
  induction statements generalizing db with
  | nil => rfl
  | cons statement statements ih =>
    have hfirst := hfound statement (List.mem_cons_self ..)
    have hrest : ∀ other ∈ statements, ∀ counted ∈ other.countsFor,
        (env.storeId, counted) ∈ (db.write env statement).book.keys := by
      intro other hother counted hcounted
      rw [keys_write]
      exact hfound other (List.mem_cons_of_mem _ hother) counted hcounted
    rw [List.foldl_cons, ih hrest, counted_write hfirst, List.map_cons, List.sum_cons, add_assoc]

/-! ### Resolving customers counts nothing -/

/-- Customers were resolved: numbers are normalised, nobody was forgotten and nothing counted. -/
structure ResolvedFrom (env : SyncEnvironment) (book book' : CustomerBook) : Prop where
  normalised : book'.Normalised env.directory
  keys : book.keys ⊆ book'.keys
  counted : ∀ phone, book'.counted env.storeId phone = book.counted env.storeId phone

variable (env) in
theorem resolveCustomer_total (hlawful : env.directory.Lawful) (h : book.Normalised env.directory)
    (incoming : NormalizedEcommerceOrder) :
    ∃ book', env.resolveCustomer incoming book = (.ok (env.customerRead incoming book'), book') ∧
      ResolvedFrom env book book' := by
  rw [resolveCustomer_eq]
  cases hphone : cleaned incoming.customerPhone with
  | none =>
    have hnone : book.upsertCustomer env.directory env.storeId incoming.customerParams =
        .ok none := by
      rw [CustomerBook.upsertCustomer, NormalizedEcommerceOrder.customerParams]
      dsimp only
      rw [hphone]
    rw [hnone]
    exact ⟨book, rfl, h, fun _ hkey => hkey, fun _ => rfl⟩
  | some raw =>
    obtain ⟨phone, hupsert, hidentity⟩ := @CustomerBook.Normalised.upsertCustomer env.directory
      book hlawful h env.storeId raw incoming.customerParams hphone
    obtain ⟨hnormal, -, hfound⟩ := h.saveCustomer incoming.customerParams hidentity
    rw [hupsert]
    refine ⟨_, rfl, hnormal, fun key hkey => ?_, fun _ => counted_saveCustomer _ _⟩
    rw [CustomerBook.saveCustomer]
    split
    · exact (book.keys_updateCustomer phone incoming.customerParams.metadata_key).symm ▸ hkey
    · exact List.mem_map.2 (by
        obtain ⟨row, hrow, hsame⟩ := List.mem_map.1 hkey
        exact ⟨row, List.mem_append_left _ hrow, hsame⟩)

theorem customerRead_known {incoming : NormalizedEcommerceOrder} {customer : OrderCustomer}
    (h : (env.customerRead incoming book).2 = some customer) :
    (env.storeId, customer.phone) ∈ book.keys := by
  obtain ⟨identity, -, hflag⟩ := Option.bind_eq_some_iff.1 h
  obtain ⟨isBlacklisted, hrow, rfl⟩ := Option.map_eq_some_iff.1 hflag
  obtain ⟨row, hrow, -⟩ := Option.map_eq_some_iff.1 hrow
  exact CustomerBook.lookup_isSome_iff.1 (Option.isSome_iff_exists.2 ⟨row, hrow⟩)

variable (env) in
theorem resolveCustomers_total (hlawful : env.directory.Lawful) (h : book.Normalised env.directory)
    (orders : List NormalizedEcommerceOrder) :
    ∃ customers book', env.resolveCustomers orders book = (.ok customers, book') ∧
      ResolvedFrom env book book' ∧
      ∀ entry ∈ customers, ∀ customer, entry.2 = some customer →
        (env.storeId, customer.phone) ∈ book'.keys := by
  induction orders generalizing book with
  | nil => exact ⟨[], book, rfl, ⟨h, fun _ hkey => hkey, fun _ => rfl⟩, fun _ hmem => nomatch hmem⟩
  | cons incoming orders ih =>
    obtain ⟨next, hnext, hfrom⟩ := resolveCustomer_total env hlawful h incoming
    obtain ⟨customers, book', hrest, hfrom', hknown⟩ := ih hfrom.normalised
    refine ⟨env.customerRead incoming next :: customers, book', ?_,
      ⟨hfrom'.normalised, fun _ hkey => hfrom'.keys (hfrom.keys hkey),
        fun phone => (hfrom'.counted phone).trans (hfrom.counted phone)⟩, ?_⟩
    · rw [resolveCustomers_cons_ok hnext, hrest]
      rfl
    · intro entry hentry customer hcustomer
      rcases List.mem_cons.1 hentry with rfl | hlater
      · exact hfrom'.keys (customerRead_known hcustomer)
      · exact hknown entry hlater customer hcustomer

theorem customerByOrder_mem {customers : List (String × Option OrderCustomer)}
    {externalOrderId : String} {customer : OrderCustomer}
    (h : customerByOrder customers externalOrderId = some customer) :
    ∃ entry ∈ customers, entry.2 = some customer := by
  obtain ⟨entry, hentry, hcustomer⟩ := Option.bind_eq_some_iff.1 h
  rw [List.findRev?_eq_findRev?TR, List.findRev?TR] at hentry
  exact ⟨entry, List.mem_reverse.1 (List.mem_of_find?_eq_some hentry), hcustomer⟩

end Counted

/-! ### What a call counts -/

section Calls

variable {env : SyncEnvironment} {db : SyncDb} {phone : String}

theorem tally_newOrder (warnOnNewOrder : Bool) (customer : OrderCustomer)
    (incoming : NormalizedEcommerceOrder) :
    ((env.newOrderStatements warnOnNewOrder customer incoming).map
        (LateStatement.tally phone)).sum = if customer.phone = phone then (1, 0) else 0 := by
  have hwarning : ∀ events : List OrderEventRow, ((if customer.isBlacklisted && warnOnNewOrder then
      [LateStatement.storeEvents incoming.externalOrderId events] else []).map
        (LateStatement.tally phone)).sum = 0 := by
    intro events
    split <;> rfl
  rw [SyncEnvironment.newOrderStatements, List.map_cons, List.sum_cons, hwarning, add_zero]
  rfl

theorem tally_cancellation (customer : OrderCustomer) (orderId : String) :
    ((SyncEnvironment.cancellationStatements cancelledDuplicates customer orderId).map
        (LateStatement.tally phone)).sum =
      if orderId ∉ cancelledDuplicates ∧ customer.phone = phone then (0, 1) else 0 := by
  rw [SyncEnvironment.cancellationStatements]
  by_cases hduplicate : orderId ∈ cancelledDuplicates
  · rw [if_pos hduplicate, if_neg fun h => h.1 hduplicate]
    rfl
  · rw [if_neg hduplicate, List.map_cons, List.map_singleton, List.sum_cons, List.sum_singleton,
      LateStatement.tally, LateStatement.tally, add_zero]
    exact if_congr (and_iff_right hduplicate).symm rfl rfl

theorem tally_customerCall (read : Option StoredOrder) (customer : Option OrderCustomer) :
    ((env.customerCall db incoming read customer).statements.map (LateStatement.tally phone)).sum =
      (if customer.map OrderCustomer.phone = some phone ∧ read = none then 1 else 0,
        if customer.map OrderCustomer.phone = some phone ∧ incoming.status = .cancelled ∧
          read.any (StoredOrder.countsCancellation db.cancelledDuplicates) then 1 else 0) := by
  cases customer with
  | none => rfl
  | some customer =>
    have hphone : (some customer).map OrderCustomer.phone = some phone ↔
        customer.phone = phone := Option.some_inj
    simp only [hphone]
    cases read with
    | none =>
      refine (tally_newOrder db.warnOnNewOrder customer incoming).trans ?_
      by_cases hown : customer.phone = phone
      · rw [if_pos hown, if_pos ⟨hown, rfl⟩, if_neg fun h => nomatch h.2.2]
      · rw [if_neg hown, if_neg fun h => hown h.1, if_neg fun h => hown h.1]
        rfl
    | some row =>
      rw [@if_neg (customer.phone = phone ∧ some row = none) _ fun h => nomatch h.2]
      by_cases hcancelled : row.data.status ≠ .cancelled ∧ incoming.status = .cancelled
      · have hcall : (env.customerCall db incoming (some row) (some customer)).statements =
            SyncEnvironment.cancellationStatements db.cancelledDuplicates customer row.id :=
          if_pos hcancelled
        have hcounts : (some row).any (StoredOrder.countsCancellation db.cancelledDuplicates) ↔
            row.id ∉ db.cancelledDuplicates := by
          simp [StoredOrder.countsCancellation, hcancelled.1]
        rw [hcall, tally_cancellation]
        by_cases hcount : row.id ∉ db.cancelledDuplicates ∧ customer.phone = phone
        · rw [if_pos hcount, if_pos ⟨hcount.2, hcancelled.2, hcounts.2 hcount.1⟩]
        · rw [if_neg hcount, if_neg fun h => hcount ⟨hcounts.1 h.2.2, h.1⟩]
          rfl
      · have hcall :
            (env.customerCall db incoming (some row) (some customer)).statements = [] :=
          if_neg hcancelled
        have hnot : ¬(incoming.status = .cancelled ∧
            (some row).any (StoredOrder.countsCancellation db.cancelledDuplicates)) := by
          rintro ⟨hstatus, hcounts⟩
          rw [Option.any_some, StoredOrder.countsCancellation, Bool.and_eq_true] at hcounts
          exact hcancelled ⟨of_decide_eq_true hcounts.1, hstatus⟩
        rw [hcall, if_neg fun h => hnot h.2]
        rfl

theorem countsFor_customerCall {incoming : NormalizedEcommerceOrder} {read : Option StoredOrder}
    {customer : Option OrderCustomer} {statement : LateStatement}
    (h : statement ∈ (env.customerCall db incoming read customer).statements) {counted : String}
    (hcounted : statement.countsFor = some counted) :
    ∃ known, customer = some known ∧ known.phone = counted := by
  cases customer with
  | none => simp [SyncEnvironment.customerCall] at h
  | some customer =>
    refine ⟨customer, rfl, ?_⟩
    cases read with
    | none =>
      simp only [SyncEnvironment.customerCall, SyncEnvironment.newOrderStatements,
        List.mem_cons] at h
      rcases h with rfl | h
      · exact Option.some.inj hcounted
      · split at h
        · obtain rfl := List.mem_singleton.1 h
          cases hcounted
        · cases h
    | some row =>
      simp only [SyncEnvironment.customerCall, SyncEnvironment.cancellationStatements] at h
      split at h
      · split at h
        · cases h
        · rcases List.mem_cons.1 h with rfl | h
          · exact Option.some.inj hcounted
          · obtain rfl := List.mem_singleton.1 h
            cases hcounted
      · cases h

theorem countsFor_otherCalls (page : SyncPage) (incoming : NormalizedEcommerceOrder)
    (read : Option StoredOrder) {statement : LateStatement}
    (h : statement ∈ (env.lineCall page incoming).statements ∨
      statement ∈ (env.timelineCall page incoming read).statements ∨
      statement ∈ (SyncEnvironment.codCall incoming read).statements) :
    statement.countsFor = none := by
  rcases h with h | h | h
  · rw [SyncEnvironment.lineCall] at h
    dsimp only at h
    split at h
    · cases h
    · obtain ⟨write, -, rfl⟩ := List.mem_map.1 h
      rfl
  · unfold SyncEnvironment.timelineCall at h
    dsimp only at h
    split at h
    · split at h
      · cases h
      · obtain rfl := List.mem_singleton.1 h
        rfl
    · cases h
  · unfold SyncEnvironment.codCall at h
    dsimp only at h
    split at h
    · cases h
    · split at h
      · cases h
      · obtain rfl := List.mem_singleton.1 h
        rfl

theorem tally_of_countsFor_none {statement : LateStatement} (h : statement.countsFor = none) :
    statement.tally phone = 0 := by
  cases statement with
  | countOrder | countCancellation => cases h
  | writeLines | storeEvents | refreshCodStatus | blacklist => rfl

theorem tally_flatMap (calls : List LateCall) :
    ((calls.flatMap LateCall.statements).map (LateStatement.tally phone)).sum =
      (calls.map fun call => (call.statements.map (LateStatement.tally phone)).sum).sum := by
  induction calls with
  | nil => rfl
  | cons call calls ih =>
    rw [List.flatMap_cons, List.map_append, List.sum_append, ih, List.map_cons, List.sum_cons]

theorem tally_pageStatements (page : SyncPage) (customers : List (String × Option OrderCustomer)) :
    ((pageStatements env page db customers).map (LateStatement.tally phone)).sum =
      (page.orders.map fun incoming =>
        ((env.customerCall db incoming (db.order incoming.externalOrderId)
          (customerByOrder customers incoming.externalOrderId)).statements.map
            (LateStatement.tally phone)).sum).sum := by
  have hnothing : ∀ call : NormalizedEcommerceOrder → LateCall,
      (∀ incoming, ∀ statement ∈ (call incoming).statements, statement.countsFor = none) →
      ((page.orders.map call).map fun call =>
        (call.statements.map (LateStatement.tally phone)).sum).sum = 0 := by
    intro call hnone
    refine List.sum_eq_zero fun amount hamount => ?_
    obtain ⟨own, hown, rfl⟩ := List.mem_map.1 hamount
    obtain ⟨incoming, -, rfl⟩ := List.mem_map.1 hown
    refine List.sum_eq_zero fun counted hcounted => ?_
    obtain ⟨statement, hstatement, rfl⟩ := List.mem_map.1 hcounted
    exact tally_of_countsFor_none (hnone incoming statement hstatement)
  rw [pageStatements, tally_flatMap, SyncEnvironment.lateCalls, List.map_append, List.map_append,
    List.map_append, List.sum_append, List.sum_append, List.sum_append,
    hnothing _ fun incoming _ h => countsFor_otherCalls page incoming none (Or.inl h),
    hnothing _ fun incoming _ h => countsFor_otherCalls page incoming _ (Or.inr (Or.inl h)),
    hnothing _ fun incoming _ h =>
      @countsFor_otherCalls env page incoming _ _ (Or.inr (Or.inr h)),
    zero_add, zero_add, zero_add, List.map_map]
  rfl

theorem countsFor_pageStatements {page : SyncPage}
    {customers : List (String × Option OrderCustomer)} {statement : LateStatement}
    (h : statement ∈ pageStatements env page db customers) {counted : String}
    (hcounted : statement.countsFor = some counted) :
    ∃ externalOrderId known, customerByOrder customers externalOrderId = some known ∧
      known.phone = counted := by
  have hother : statement.countsFor ≠ none := fun hnone => nomatch hcounted.symm.trans hnone
  rw [pageStatements, SyncEnvironment.lateCalls, List.flatMap_append, List.flatMap_append,
    List.flatMap_append, List.mem_append, List.mem_append, List.mem_append] at h
  rcases h with ((h | h) | h) | h
  all_goals
    obtain ⟨call, hcall, hstatement⟩ := List.mem_flatMap.1 h
    obtain ⟨incoming, hincoming, rfl⟩ := List.mem_map.1 hcall
  · exact absurd (countsFor_otherCalls page incoming none (Or.inl hstatement)) hother
  · exact absurd (countsFor_otherCalls page incoming _ (Or.inr (Or.inl hstatement))) hother
  · exact absurd (@countsFor_otherCalls env page incoming _ _ (Or.inr (Or.inr hstatement)))
      hother
  · obtain ⟨known, hknown, hphone⟩ := countsFor_customerCall hstatement hcounted
    exact ⟨incoming.externalOrderId, known, hknown, hphone⟩

theorem tally_webhookStatements (customer : Option OrderCustomer) :
    ((env.webhookStatements db incoming customer).map (LateStatement.tally phone)).sum =
      ((env.customerCall db incoming (db.order incoming.externalOrderId) customer).statements.map
        (LateStatement.tally phone)).sum := by
  rw [SyncEnvironment.webhookStatements, List.map_cons, List.sum_cons, List.map_append,
    List.sum_append]
  split <;> exact (zero_add _).trans (zero_add _)

theorem countsFor_webhookStatements {incoming : NormalizedEcommerceOrder}
    {customer : Option OrderCustomer} {statement : LateStatement}
    (h : statement ∈ env.webhookStatements db incoming customer) {counted : String}
    (hcounted : statement.countsFor = some counted) :
    ∃ known, customer = some known ∧ known.phone = counted := by
  rw [SyncEnvironment.webhookStatements] at h
  rcases List.mem_cons.1 h with rfl | h
  · cases hcounted
  · rcases List.mem_append.1 h with h | h
    · split at h
      · obtain rfl := List.mem_singleton.1 h
        cases hcounted
      · cases h
    · exact countsFor_customerCall h hcounted

end Calls

/-! ### Pages and webhooks -/

section Steps

variable {env : SyncEnvironment} {db : SyncDb} {phone : String}

theorem tally_timely {writes : List OrderWrite} {connection : String}
    {incoming : NormalizedEcommerceOrder} {read stored : Option StoredOrder}
    {customer : Option OrderCustomer}
    (h : customer.isSome →
      OrderTimely db.cancelledDuplicates writes connection incoming read stored) :
    writtenCounts (writes ++ [incoming.written connection db.cancelledDuplicates stored customer])
        phone =
      writtenCounts writes phone +
        ((env.customerCall db incoming read customer).statements.map
          (LateStatement.tally phone)).sum := by
  rw [writtenCounts_append, tally_customerCall]
  congr 1
  cases customer with
  | none =>
    simp [NormalizedEcommerceOrder.written, OrderWrite.cancels]
  | some customer =>
    obtain ⟨hnew, hcancelled⟩ := h rfl
    have hcancels : (incoming.written connection db.cancelledDuplicates stored
        (some customer)).cancels phone ↔
          (some customer).map OrderCustomer.phone = some phone ∧ incoming.status = .cancelled ∧
            stored.any (StoredOrder.countsCancellation db.cancelledDuplicates) := by
      rw [OrderWrite.cancels_iff]
      cases stored with
      | none => simp [NormalizedEcommerceOrder.written]
      | some row =>
        have hcounts : row.countsCancellation db.cancelledDuplicates ↔
            row.data.status ≠ .cancelled ∧ row.id ∉ db.cancelledDuplicates := by
          rw [StoredOrder.countsCancellation, Bool.and_eq_true, decide_eq_true_eq,
            decide_eq_true_eq]
        rw [Option.any_some, hcounts]
        simp only [NormalizedEcommerceOrder.written, Option.map_some, Option.any_some,
          decide_eq_true_eq, decide_eq_false_iff_not]
        tauto
    refine Prod.ext ?_ ?_
    · refine if_congr ?_ rfl rfl
      exact ⟨fun hboth => ⟨hboth.2, hnew.2 hboth.1⟩, fun hboth => ⟨hnew.1 hboth.2, hboth.1⟩⟩
    · refine if_congr (hcancels.trans ?_) rfl rfl
      constructor
      · rintro ⟨hphone, hstatus, hcounts⟩
        exact ⟨hphone, hstatus, (hcancelled hstatus).trans hcounts⟩
      · rintro ⟨hphone, hstatus, hcounts⟩
        exact ⟨hphone, hstatus, (hcancelled hstatus).symm.trans hcounts⟩

theorem tally_pageTimely {connection : String} {customers : List (String × Option OrderCustomer)}
    {incomings : List NormalizedEcommerceOrder} {writes : List OrderWrite}
    {orders : List StoredOrder}
    (h : PageTimely env connection db.cancelledDuplicates customers db.order writes orders
      incomings) :
    writtenCounts (writes ++ pageWrites env connection db.cancelledDuplicates customers orders
        incomings) phone =
      writtenCounts writes phone + (incomings.map fun incoming =>
        ((env.customerCall db incoming (db.order incoming.externalOrderId)
          (customerByOrder customers incoming.externalOrderId)).statements.map
            (LateStatement.tally phone)).sum).sum := by
  induction incomings generalizing writes orders with
  | nil => simp [pageWrites]
  | cons incoming rest ih =>
    obtain ⟨htimely, hrest⟩ := h
    rw [pageWrites, ← List.singleton_append, ← List.append_assoc, ih hrest,
      tally_timely htimely, List.map_cons, List.sum_cons, add_assoc]

end Steps

namespace CountedDb

variable {env : StoreEnvironment} {s : CountedDb}

/-- The invariant: the numbers are normalised, and the counters exact. -/
structure Inv (env : StoreEnvironment) (s : CountedDb) : Prop where
  normalised : s.book.Normalised env.directory
  exact : s.Exact env

theorem normalised_writes {env : SyncEnvironment} {db : SyncDb}
    (h : db.book.Normalised env.directory) (statements : List LateStatement) :
    (statements.foldl (SyncDb.write env) db).book.Normalised env.directory := by
  induction statements generalizing db with
  | nil => exact h
  | cons statement statements ih =>
    refine ih ?_
    cases statement with
    | countOrder counted => exact h.updateCustomer _ _ fun _ => rfl
    | countCancellation counted => exact h.updateCustomer _ _ fun _ => rfl
    | blacklist blacklisted =>
      refine h.updateCustomer _ _ fun row => ?_
      split
      · rfl
      · split <;> rfl
    | writeLines | storeEvents | refreshCodStatus => exact h

theorem Inv.page (hlawful : env.directory.Lawful) (h : s.Inv env) (connection : String)
    (page : SyncPage) (htimely : s.Timely env (.page connection page)) :
    (s.step env (.page connection page)).Inv env := by
  obtain ⟨customers, book, hresolved, hfrom, hknown⟩ :=
    resolveCustomers_total (env.connection connection) hlawful h.normalised page.orders
  have hwrites : s.writesOfPage env connection page =
      pageWrites (env.connection connection) connection s.cancelledDuplicates customers
        (s.orders connection) page.orders := by
    have hresolved' : env.resolveCustomers page.orders s.book = (.ok customers, book) := hresolved
    rw [writesOfPage, hresolved']
  have htimely := htimely customers (congrArg Prod.fst hresolved)
  cases hpage : page.orders.isEmpty with
  | true =>
    have hnil : page.orders = [] := List.isEmpty_iff.1 hpage
    have hdb : persistOrders (env.connection connection) page {} (s.rows connection) =
        (.ok (), s.rows connection) := by
      rw [persistOrders, if_pos hpage]
    rw [step, hdb, hwrites, hnil]
    refine ⟨h.normalised, fun phone => ?_⟩
    rw [put, pageWrites, List.append_nil]
    exact h.exact phone
  | false =>
    have hdb : (persistOrders (env.connection connection) page {} (s.rows connection)).2 =
        (pageStatements (env.connection connection) page (s.rows connection) customers).foldl
          (SyncDb.write (env.connection connection))
          ((s.rows connection).started (env.connection connection) page book) := by
      have hrows : (env.connection connection).resolveCustomers page.orders
          (s.rows connection).book = (.ok customers, book) := hresolved
      rw [persistOrders, hpage, if_neg Bool.false_ne_true]
      dsimp only
      rw [hrows]
      dsimp only
      rw [finishPage_nil]
      rfl
    have hfound : ∀ statement ∈ pageStatements (env.connection connection) page
        (s.rows connection) customers, ∀ counted ∈ statement.countsFor,
          (env.storeId, counted) ∈ book.keys :=
      fun statement hstatement counted hcounted => by
        obtain ⟨externalOrderId, known, hcustomer, rfl⟩ :=
          countsFor_pageStatements hstatement hcounted
        obtain ⟨entry, hentry, hread⟩ := customerByOrder_mem hcustomer
        exact hknown entry hentry known hread
    rw [step, hdb, hwrites]
    refine ⟨normalised_writes hfrom.normalised _, fun phone => ?_⟩
    refine (counted_writes hfound).trans ?_
    rw [tally_pageStatements, put]
    refine Eq.trans ?_ (@tally_pageTimely _ (s.rows connection) phone _ _ _ _ _ htimely).symm
    congr 1
    exact (hfrom.counted phone).trans (h.exact phone)

theorem Inv.webhook (hlawful : env.directory.Lawful) (h : s.Inv env) (connection : String)
    (incoming : NormalizedEcommerceOrder)
    (htimely : s.Timely env (.webhook connection incoming)) :
    (s.step env (.webhook connection incoming)).Inv env := by
  obtain ⟨book, hresolved, hfrom⟩ :=
    resolveCustomer_total (env.connection connection) hlawful h.normalised incoming
  generalize hcustomer : ((env.connection connection).customerRead incoming book).2 = customer
  have hresolved : (env.connection connection).resolveCustomer incoming (s.rows connection).book =
      (.ok (incoming.externalOrderId, customer), book) := by
    rw [← hcustomer]
    exact hresolved
  have hidentified : customer.isSome → (env.identify incoming).isSome := by
    intro hsome
    obtain ⟨known, hknown⟩ := Option.isSome_iff_exists.1 hsome
    obtain ⟨identity, hidentity, -⟩ := Option.bind_eq_some_iff.1 (hcustomer.trans hknown)
    exact Option.isSome_iff_exists.2 ⟨identity, hidentity⟩
  have hcounted : ∀ phone, book.counted env.storeId phone = writtenCounts s.writes phone :=
    fun phone => (hfrom.counted phone).trans (h.exact phone)
  rw [step, upsertCurrentOrder, webhookWrites, hresolved]
  dsimp only
  by_cases haccepts : (s.rows connection).accepts incoming
  · rw [if_pos haccepts, if_pos haccepts]
    refine ⟨normalised_writes hfrom.normalised _, fun phone => ?_⟩
    have hfound : ∀ statement ∈ (env.connection connection).webhookStatements (s.rows connection)
        incoming customer, ∀ counted ∈ statement.countsFor, (env.storeId, counted) ∈ book.keys :=
      fun statement hstatement counted hcounts => by
        obtain ⟨known, rfl, rfl⟩ := countsFor_webhookStatements hstatement hcounts
        exact customerRead_known hcustomer
    refine (counted_writes hfound).trans ?_
    rw [tally_webhookStatements, put]
    refine Eq.trans ?_ (@tally_timely (env.connection connection) (s.rows connection) phone
      _ _ _ _ _ _ fun hsome => htimely (hidentified hsome) haccepts).symm
    congr 1
    exact hcounted phone
  · rw [if_neg haccepts, if_neg haccepts]
    refine ⟨hfrom.normalised, fun phone => ?_⟩
    rw [put, List.append_nil]
    exact hcounted phone

theorem Inv.step (hlawful : env.directory.Lawful) (h : s.Inv env) (action : CounterAction)
    (htimely : s.Timely env action) : (s.step env action).Inv env := by
  cases action with
  | page connection page => exact h.page hlawful connection page htimely
  | webhook connection incoming => exact h.webhook hlawful connection incoming htimely
  | delete connection externalOrderId => exact ⟨h.normalised, h.exact⟩
  | cancelDuplicate orderId => exact ⟨h.normalised, h.exact⟩

theorem Start.inv (h : s.Start env) : s.Inv env where
  normalised := h.normalised
  exact phone := by
    rw [h.counted phone, h.writes]
    rfl

end CountedDb

/-- **When the counters of the customers are exact.** -/
theorem customerCounters (env : StoreEnvironment) (hlawful : env.directory.Lawful) {s : CountedDb}
    (hstart : s.Start env) {actions : List CounterAction}
    (h : Machine.Along (CountedDb.step env) (CountedDb.Timely env) s actions) :
    Machine.Along (CountedDb.step env)
      (fun s action => (s.step env action).Exact env) s actions :=
  h.of_keeps (I := CountedDb.Inv env)
    (fun _ action hs htimely => hs.step hlawful action htimely)
    (fun _ action hs htimely => (hs.step hlawful action htimely).exact) hstart.inv

def sookStore : StoreEnvironment where
  toSyncEnvironment := sook
  rowId := fun connection externalOrderId => connection ++ externalOrderId

def phonedOrder : NormalizedEcommerceOrder :=
  { externalOrderId := "1001", providerUpdatedAt := 1, customerPhone := some "0612345678" }

theorem emptyStart : ({} : CountedDb).Start sookStore where
  writes := rfl
  normalised := ⟨List.nodup_nil, fun _ hmem => nomatch hmem⟩
  counted _ := rfl

theorem customerCounters_listed_twice :
    ({} : CountedDb).Start sookStore ∧
      ¬ Machine.Along (CountedDb.step sookStore)
        (fun s action => (s.step sookStore action).Exact sookStore) {}
        [.page "shop" { platform := .shopify, orders := [phonedOrder, phonedOrder] }] := by
  refine ⟨emptyStart, fun hexact => ?_⟩
  have hcounted := hexact.1 "0612345678"
  revert hcounted
  decide +kernel

/-- An order comes by a webhook, and a page tells that it was cancelled. -/
theorem customerCounters_cancelled :
    Machine.Along (CountedDb.step sookStore)
      (fun s action => (s.step sookStore action).Exact sookStore) {}
      [.webhook "shop" phonedOrder,
        .page "shop"
          { platform := .shopify
            orders := [{ phonedOrder with status := .cancelled, providerUpdatedAt := 2 }] }] := by
  have hlawful : sookStore.directory.Lawful :=
    ⟨fun _ _ _ _ => rfl, fun _ raw _ h => by
      obtain rfl := Option.some.inj h
      exact ⟨_, rfl, rfl⟩⟩
  refine customerCounters sookStore hlawful emptyStart ⟨?_, ?_, trivial⟩
  · exact fun _ _ => ⟨by decide +kernel, fun _ => rfl⟩
  · intro customers hcustomers
    obtain rfl := Except.ok.inj hcustomers
    exact ⟨fun _ => ⟨by decide +kernel, fun _ => rfl⟩, trivial⟩

end Zomaal
