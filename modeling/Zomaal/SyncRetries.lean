/-
**Retrying a page.**

What the first commit of an attempt overwrites is what the rest of it compares with, so an attempt
that stops between the two leaves orders that look unchanged.

Main results:

* `finishPage_core` — leaving out what records nothing changes nothing;
* `pageRetry` — **when failed attempts before a successful one lose nothing**.
-/

import Zomaal.SyncCustomers

set_option autoImplicit false

namespace Zomaal

/-! ### What a sync records -/

structure OrderView where
  externalOrderId : String
  events : List OrderEventRow
  codStatus : Option CodStatus
  deriving DecidableEq

structure CustomerCounts where
  storeId : String
  phone : String
  totalOrders : ℕ
  cancellationsCount : ℕ
  deriving DecidableEq

def CustomerCounts.key (counts : CustomerCounts) : String × String := (counts.storeId, counts.phone)

structure SyncView where
  orders : List OrderView
  customers : List CustomerCounts
  deriving DecidableEq

def StoredOrder.view (order : StoredOrder) : OrderView where
  externalOrderId := order.externalOrderId
  events := order.events
  codStatus := order.codStatus

def Customer.counts (customer : Customer) : CustomerCounts where
  storeId := customer.storeId
  phone := customer.phone
  totalOrders := customer.totalOrders
  cancellationsCount := customer.cancellationsCount

/-- **What a sync records**: the events of the orders, their cash-on-delivery statuses, and the
counters of the customers. -/
def SyncDb.view (db : SyncDb) : SyncView where
  orders := db.orders.map StoredOrder.view
  customers := db.book.customers.map Customer.counts

/-! ### Statements that record nothing -/

/-- **A statement records nothing**: it writes order lines or blacklists, all its events are stored,
or the cash-on-delivery status is up to date. -/
def LateStatement.Idle (env : SyncEnvironment) (orders : List StoredOrder) : LateStatement → Prop
  | .writeLines _ _ => True
  | .storeEvents externalOrderId events => ∀ order ∈ orders,
      order.externalOrderId = externalOrderId →
        ∀ event ∈ events, event.providerEventId ∈ eventKeys order.events
  | .refreshCodStatus externalOrderId => ∀ order ∈ orders,
      order.externalOrderId = externalOrderId →
        (order.refreshCodStatus env).codStatus = order.codStatus
  | .countOrder _ => False
  | .countCancellation _ => False
  | .blacklist _ => True

def undone : List CallFault → List LateCall → List LateStatement
  | _, [] => []
  | faults, call :: calls =>
    call.missed (nextFault faults) ++
      if call.stops (nextFault faults) then calls.flatMap LateCall.statements
      else undone faults.tail calls

/-- The orders that a page lists more than once have one status there. -/
def SyncPage.Agrees (page : SyncPage) : Prop :=
  ∀ one ∈ page.orders, ∀ other ∈ page.orders, one.externalOrderId = other.externalOrderId →
    one.status = other.status ∧ one.financialStatus = other.financialStatus ∧
      one.fulfillmentStatus = other.fulfillmentStatus

/-- **An attempt that a retry makes good**: it stops before the orders are upserted, or it leaves
undone only statements that record nothing. -/
def Recoverable (env : SyncEnvironment) (page : SyncPage) (db : SyncDb) (faults : SyncFaults) :
    Prop :=
  faults.early = none →
    ∀ customers, (env.resolveCustomers page.orders db.book).1 = .ok customers →
      page.Agrees ∧ ∀ statement ∈ undone faults.late (env.lateCalls page db customers),
        statement.Idle env (env.upsertOrders page db.orders)

def attemptPage (env : SyncEnvironment) (page : SyncPage) (db : SyncDb) (faults : SyncFaults) :
    SyncDb :=
  (persistOrders env page faults db).2

/-- **Retrying loses nothing**: when the page succeeds after some attempts, it would have without
them, and what is recorded is the same. -/
def RetryLosesNothing (env : SyncEnvironment) (page : SyncPage) (db : SyncDb)
    (attempts : List SyncFaults) : Prop :=
  ∀ retried, persistOrders env page {} (Machine.run (attemptPage env page) db attempts) =
      (.ok (), retried) →
    ∃ single, persistOrders env page {} db = (.ok (), single) ∧ retried.view = single.view

/-! ### What the late statements change -/

def StoredOrder.unlined (order : StoredOrder) : StoredOrder := { order with lines := [] }

def SyncDb.core (db : SyncDb) : List StoredOrder × List CustomerCounts :=
  (db.orders.map StoredOrder.unlined, db.book.customers.map Customer.counts)

section Core

variable {env : SyncEnvironment} {db db' : SyncDb}

theorem view_of_core (h : db.core = db'.core) : db.view = db'.view := by
  obtain ⟨horders, hcustomers⟩ := Prod.mk.inj h
  have hview : ∀ orders : List StoredOrder,
      (orders.map StoredOrder.unlined).map StoredOrder.view = orders.map StoredOrder.view := by
    intro orders
    rw [List.map_map]
    rfl
  rw [SyncDb.view, SyncDb.view, ← hview, horders, hview, hcustomers]

theorem core_changeOrder (h : db.core = db'.core) (externalOrderId : String)
    {change : StoredOrder → StoredOrder} (change' : StoredOrder → StoredOrder)
    (hchange : ∀ order : StoredOrder, (change order).unlined = change' order.unlined) :
    (db.changeOrder externalOrderId change).core =
      (db'.changeOrder externalOrderId change).core := by
  obtain ⟨horders, hcustomers⟩ := Prod.mk.inj h
  have hmap : ∀ orders : List StoredOrder,
      (KeyedRows.change StoredOrder.externalOrderId externalOrderId change orders).map
          StoredOrder.unlined =
        KeyedRows.change StoredOrder.externalOrderId externalOrderId change'
          (orders.map StoredOrder.unlined) :=
    fun orders => KeyedRows.map_change StoredOrder.externalOrderId (fun _ => rfl) _ hchange orders
  refine Prod.ext ?_ hcustomers
  exact (hmap db.orders).trans ((congrArg _ horders).trans (hmap db'.orders).symm)

theorem core_updateCustomer (h : db.core = db'.core) (phone : String)
    {change : Customer → Customer} (change' : CustomerCounts → CustomerCounts)
    (hchange : ∀ customer, (change customer).counts = change' customer.counts) :
    ({ db with book := db.book.updateCustomer env.storeId phone change } : SyncDb).core =
      ({ db' with book := db'.book.updateCustomer env.storeId phone change } : SyncDb).core := by
  obtain ⟨horders, hcustomers⟩ := Prod.mk.inj h
  have hmap : ∀ customers : List Customer,
      (KeyedRows.change Customer.key (env.storeId, phone) change customers).map Customer.counts =
        KeyedRows.change CustomerCounts.key (env.storeId, phone) change'
          (customers.map Customer.counts) :=
    fun customers => KeyedRows.map_change CustomerCounts.key (fun _ => rfl) _ hchange customers
  refine Prod.ext horders ?_
  exact (hmap db.book.customers).trans
    ((congrArg _ hcustomers).trans (hmap db'.book.customers).symm)

theorem counts_autoBlacklist (book : CustomerBook) (storeId phone : String) :
    (book.autoBlacklist storeId phone).customers.map Customer.counts =
      book.customers.map Customer.counts := by
  refine KeyedRows.map_change_hidden _ (fun customer _ => ?_) book.customers
  split
  · rfl
  · split <;> rfl

theorem core_write (h : db.core = db'.core) (statement : LateStatement) :
    (db.write env statement).core = (db'.write env statement).core := by
  cases statement with
  | writeLines externalOrderId write =>
    exact core_changeOrder h externalOrderId id fun _ => rfl
  | storeEvents externalOrderId events =>
    exact core_changeOrder h externalOrderId
      (fun order => { order with events := upsertEvents order.events events }) fun _ => rfl
  | refreshCodStatus externalOrderId =>
    exact core_changeOrder h externalOrderId (StoredOrder.refreshCodStatus env) fun _ => rfl
  | countOrder phone =>
    exact core_updateCustomer h phone
      (fun counts => { counts with totalOrders := counts.totalOrders + 1 }) fun _ => rfl
  | countCancellation phone =>
    exact core_updateCustomer h phone
      (fun counts => { counts with cancellationsCount := counts.cancellationsCount + 1 })
      fun _ => rfl
  | blacklist phone =>
    obtain ⟨horders, hcustomers⟩ := Prod.mk.inj h
    refine Prod.ext horders ?_
    exact (counts_autoBlacklist _ _ _).trans (hcustomers.trans (counts_autoBlacklist _ _ _).symm)

/-! ### Leaving out what records nothing -/

/-- What a statement may do to the row of an order: store events, and bring its cash-on-delivery
status up to date. -/
structure Grown (env : SyncEnvironment) (old new : StoredOrder) : Prop where
  data : new.data = old.data
  shipment : new.shipment = old.shipment
  events : eventKeys old.events ⊆ eventKeys new.events
  codStatus : new.codStatus = old.codStatus ∨
    new.codStatus = (old.refreshCodStatus env).codStatus

theorem Grown.refl (order : StoredOrder) : Grown env order order :=
  ⟨rfl, rfl, fun _ h => h, Or.inl rfl⟩

theorem write_orders (env : SyncEnvironment) (db : SyncDb) (statement : LateStatement) :
    ∃ grow : StoredOrder → StoredOrder, (db.write env statement).orders = db.orders.map grow ∧
      ∀ order, Grown env order (grow order) := by
  have hchange : ∀ (externalOrderId : String) (change : StoredOrder → StoredOrder),
      (∀ order, Grown env order (change order)) →
      ∃ grow : StoredOrder → StoredOrder,
        (db.changeOrder externalOrderId change).orders = db.orders.map grow ∧
          ∀ order, Grown env order (grow order) := by
    intro externalOrderId change hgrown
    refine ⟨_, rfl, fun order => ?_⟩
    split
    · exact hgrown order
    · exact Grown.refl order
  have hsame : ∃ grow : StoredOrder → StoredOrder, db.orders = db.orders.map grow ∧
      ∀ order, Grown env order (grow order) := ⟨id, (List.map_id _).symm, Grown.refl⟩
  cases statement with
  | writeLines externalOrderId write =>
    exact hchange _ _ fun order => ⟨rfl, rfl, fun _ h => h, Or.inl rfl⟩
  | storeEvents externalOrderId events =>
    exact hchange _ _ fun order =>
      ⟨rfl, rfl, fun _ h => mem_eventKeys_upsertEvents.2 (Or.inl h), Or.inl rfl⟩
  | refreshCodStatus externalOrderId =>
    exact hchange _ _ fun order => ⟨rfl, rfl, fun _ h => h, Or.inr rfl⟩
  | countOrder phone => exact hsame
  | countCancellation phone => exact hsame
  | blacklist phone => exact hsame

variable {statement : LateStatement}

theorem idle_write (hidle : statement.Idle env db.orders) (other : LateStatement) :
    statement.Idle env (db.write env other).orders := by
  obtain ⟨grow, horders, hgrown⟩ := write_orders env db other
  rw [horders]
  have hkey : ∀ order, (grow order).externalOrderId = order.externalOrderId := fun order =>
    congrArg OrderData.externalOrderId (hgrown order).data
  cases statement with
  | writeLines externalOrderId write => exact trivial
  | storeEvents externalOrderId events =>
    intro row hrow hid event hevent
    obtain ⟨order, horder, rfl⟩ := List.mem_map.1 hrow
    exact (hgrown order).events (hidle order horder (hkey order ▸ hid) event hevent)
  | refreshCodStatus externalOrderId =>
    intro row hrow hid
    obtain ⟨order, horder, rfl⟩ := List.mem_map.1 hrow
    have hup := hidle order horder (hkey order ▸ hid)
    have hcod : (grow order).codStatus = order.codStatus := by
      rcases (hgrown order).codStatus with h | h
      · exact h
      · exact h.trans hup
    rw [StoredOrder.refreshCodStatus, hcod, (hgrown order).data, (hgrown order).shipment]
    exact hup
  | countOrder phone => exact hidle
  | countCancellation phone => exact hidle
  | blacklist phone => exact trivial

theorem core_write_idle (hidle : statement.Idle env db.orders) :
    (db.write env statement).core = db.core := by
  have hchange : ∀ (externalOrderId : String) (change : StoredOrder → StoredOrder),
      (∀ order ∈ db.orders, order.externalOrderId = externalOrderId →
        (change order).unlined = order.unlined) →
      (db.changeOrder externalOrderId change).core = db.core := by
    intro externalOrderId change hsame
    refine Prod.ext ?_ rfl
    change (KeyedRows.change _ _ _ db.orders).map StoredOrder.unlined = _
    rw [KeyedRows.change, List.map_map]
    refine List.map_congr_left fun order horder => ?_
    rw [Function.comp_apply]
    split
    · exact hsame order horder ‹_›
    · rfl
  cases statement with
  | writeLines externalOrderId write => exact hchange _ _ fun _ _ _ => rfl
  | storeEvents externalOrderId events =>
    refine hchange _ _ fun order horder hid => ?_
    rw [StoredOrder.unlined, upsertEvents_of_all_stored (hidle order horder hid)]
    rfl
  | refreshCodStatus externalOrderId =>
    refine hchange _ _ fun order horder hid => ?_
    have hup := hidle order horder hid
    rw [StoredOrder.unlined, hup]
    rfl
  | countOrder phone => exact hidle.elim
  | countCancellation phone => exact hidle.elim
  | blacklist phone => exact Prod.ext rfl (counts_autoBlacklist _ _ _)

theorem core_writes_idle {statements : List LateStatement}
    (hidle : ∀ statement ∈ statements, statement.Idle env db.orders) :
    (statements.foldl (SyncDb.write env) db).core = db.core := by
  induction statements generalizing db with
  | nil => rfl
  | cons statement statements ih =>
    rw [List.foldl_cons, ih, core_write_idle (hidle statement (List.mem_cons_self ..))]
    exact fun other hother => idle_write (hidle other (List.mem_cons_of_mem _ hother)) statement

theorem core_writes (h : db.core = db'.core) (statements : List LateStatement) :
    (statements.foldl (SyncDb.write env) db).core =
      (statements.foldl (SyncDb.write env) db').core := by
  induction statements generalizing db db' with
  | nil => exact h
  | cons statement statements ih => exact ih (core_write h statement)

theorem idle_writes (hidle : statement.Idle env db.orders) (statements : List LateStatement) :
    statement.Idle env (statements.foldl (SyncDb.write env) db).orders := by
  induction statements generalizing db with
  | nil => exact hidle
  | cons other statements ih => exact ih (idle_write hidle other)

theorem finishPage_nil (env : SyncEnvironment) (calls : List LateCall) (db : SyncDb) :
    finishPage env [] calls db =
      (.ok (), (calls.flatMap LateCall.statements).foldl (SyncDb.write env) db) := by
  induction calls generalizing db with
  | nil => rfl
  | cons call calls ih =>
    rw [List.flatMap_cons, List.foldl_append, ← ih]
    rfl

theorem finishPage_writes (env : SyncEnvironment) (calls : List LateCall) (faults : List CallFault)
    (db : SyncDb) : ∃ statements : List LateStatement,
      (finishPage env faults calls db).2 = statements.foldl (SyncDb.write env) db := by
  induction calls generalizing faults db with
  | nil => exact ⟨[], rfl⟩
  | cons call calls ih =>
    rw [finishPage]
    split
    · exact ⟨call.done (nextFault faults), rfl⟩
    · obtain ⟨statements, hrest⟩ :=
        ih faults.tail ((call.done (nextFault faults)).foldl (SyncDb.write env) db)
      exact ⟨call.done (nextFault faults) ++ statements, by rw [List.foldl_append, hrest]⟩

theorem LateCall.done_missed (call : LateCall) (fault : CallFault) :
    call.done fault ++ call.missed fault = call.statements := by
  cases fault with
  | none => exact List.append_nil _
  | fails after => exact List.take_append_drop _ _
  | dies after => exact List.take_append_drop _ _

/-- **Leaving out what records nothing changes nothing.** -/
theorem finishPage_core {calls : List LateCall} {faults : List CallFault}
    (h : db.core = db'.core)
    (hidle : ∀ statement ∈ undone faults calls, statement.Idle env db'.orders) :
    (finishPage env faults calls db).2.core =
      ((calls.flatMap LateCall.statements).foldl (SyncDb.write env) db').core := by
  induction calls generalizing faults db db' with
  | nil => exact h
  | cons call calls ih =>
    have hmissed : ∀ statement ∈ call.missed (nextFault faults),
        statement.Idle env ((call.done (nextFault faults)).foldl (SyncDb.write env) db').orders :=
      fun statement hstatement =>
        idle_writes (hidle statement (List.mem_append_left _ hstatement)) _
    have hcall : ((call.done (nextFault faults)).foldl (SyncDb.write env) db).core =
        (call.statements.foldl (SyncDb.write env) db').core := by
      rw [← call.done_missed (nextFault faults), List.foldl_append, core_writes_idle hmissed]
      exact core_writes h _
    have hlater : ∀ statement ∈ (if call.stops (nextFault faults) then
        calls.flatMap LateCall.statements else undone faults.tail calls),
        statement.Idle env (call.statements.foldl (SyncDb.write env) db').orders :=
      fun statement hstatement =>
        idle_writes (hidle statement (List.mem_append_right _ hstatement)) _
    rw [finishPage, List.flatMap_cons, List.foldl_append]
    cases hstops : call.stops (nextFault faults) with
    | true =>
      rw [hstops, if_pos rfl] at hlater
      rw [if_pos rfl, core_writes_idle hlater]
      exact hcall
    | false =>
      rw [hstops] at hlater
      exact ih hcall hlater

end Core

/-! ### The rows of a page -/

section Rows

variable {env : SyncEnvironment} {page : SyncPage}

def SyncPage.Stored (page : SyncPage) (externalOrderId : String) (orders : List StoredOrder) :
    Prop :=
  ∃ incoming ∈ page.orders, incoming.externalOrderId = externalOrderId ∧
    ∃ order, KeyedRows.lookup StoredOrder.externalOrderId externalOrderId orders = some order ∧
      order.data = incoming.toOrderData

theorem lookup_upsertOrder (env : SyncEnvironment) (orders : List StoredOrder)
    (incoming : NormalizedEcommerceOrder) :
    ∃ row : StoredOrder, row.data = incoming.toOrderData ∧
      row.lines = ((KeyedRows.lookup StoredOrder.externalOrderId incoming.externalOrderId
        orders).map StoredOrder.lines).getD [] ∧ ∀ externalOrderId,
      KeyedRows.lookup StoredOrder.externalOrderId externalOrderId
          (env.upsertOrder orders incoming) =
        if externalOrderId = incoming.externalOrderId then some row
        else KeyedRows.lookup StoredOrder.externalOrderId externalOrderId orders := by
  rw [SyncEnvironment.upsertOrder]
  cases hfound : KeyedRows.lookup StoredOrder.externalOrderId incoming.externalOrderId orders with
  | some old =>
    refine ⟨{ old with data := incoming.toOrderData }, rfl, rfl, fun externalOrderId => ?_⟩
    have hkey : ∀ row : StoredOrder, row.externalOrderId = incoming.externalOrderId →
        ({ row with data := incoming.toOrderData } : StoredOrder).externalOrderId =
          row.externalOrderId := fun row hrow => hrow.symm
    rw [Option.isSome_some, if_pos rfl]
    refine (KeyedRows.lookup_change_of_key StoredOrder.externalOrderId hkey orders).trans ?_
    by_cases heq : externalOrderId = incoming.externalOrderId
    · rw [heq, hfound, if_pos rfl, Option.map_some, if_pos rfl]
    · simp only [if_neg heq, Option.map_id']
  | none =>
    let row : StoredOrder :=
      { id := env.newOrderId incoming.externalOrderId, data := incoming.toOrderData }
    have hfree : KeyedRows.lookup StoredOrder.externalOrderId row.externalOrderId orders = none :=
      hfound
    refine ⟨row, rfl, rfl, fun externalOrderId => ?_⟩
    rw [Option.isSome_none, if_neg Bool.false_ne_true]
    exact KeyedRows.lookup_append_fresh StoredOrder.externalOrderId hfree externalOrderId

theorem stored_upsertOrders (env : SyncEnvironment) (page : SyncPage) (orders : List StoredOrder)
    {incoming : NormalizedEcommerceOrder} (hincoming : incoming ∈ page.orders) :
    page.Stored incoming.externalOrderId (env.upsertOrders page orders) := by
  have hone : ∀ (orders : List StoredOrder) (other : NormalizedEcommerceOrder),
      other ∈ page.orders → ∀ externalOrderId,
        page.Stored externalOrderId orders ∨ externalOrderId = other.externalOrderId →
          page.Stored externalOrderId (env.upsertOrder orders other) := by
    intro orders other hother externalOrderId h
    obtain ⟨row, hdata, -, hlookup⟩ := lookup_upsertOrder env orders other
    by_cases heq : externalOrderId = other.externalOrderId
    · exact ⟨other, hother, heq.symm, row, (hlookup _).trans (if_pos heq), hdata⟩
    · obtain ⟨own, hown, hid, order, hfound, hsame⟩ := h.resolve_right heq
      exact ⟨own, hown, hid, order, ((hlookup _).trans (if_neg heq)).trans hfound, hsame⟩
  have hall : ∀ (rest : List NormalizedEcommerceOrder), (∀ other ∈ rest, other ∈ page.orders) →
      ∀ orders : List StoredOrder,
        page.Stored incoming.externalOrderId orders ∨ incoming ∈ rest →
          page.Stored incoming.externalOrderId (rest.foldl env.upsertOrder orders) := by
    intro rest hrest
    induction rest with
    | nil => exact fun orders h => h.resolve_right List.not_mem_nil
    | cons other rest ih =>
      intro orders h
      refine ih (fun own hown => hrest own (List.mem_cons_of_mem _ hown)) _ ?_
      have hother := hrest other (List.mem_cons_self ..)
      rcases h with h | h
      · exact Or.inl (hone orders other hother _ (Or.inl h))
      · rcases List.mem_cons.1 h with rfl | h
        · exact Or.inl (hone orders incoming hother _ (Or.inr rfl))
        · exact Or.inr h
  exact hall page.orders (fun _ h => h) orders (Or.inr hincoming)

theorem stored_writes {externalOrderId : String} {db : SyncDb}
    (h : page.Stored externalOrderId db.orders) (statements : List LateStatement) :
    page.Stored externalOrderId (statements.foldl (SyncDb.write env) db).orders := by
  induction statements generalizing db with
  | nil => exact h
  | cons statement statements ih =>
    refine ih ?_
    obtain ⟨grow, horders, hgrown⟩ := write_orders env db statement
    obtain ⟨incoming, hincoming, hid, order, hfound, hdata⟩ := h
    have hlookup : KeyedRows.lookup StoredOrder.externalOrderId externalOrderId
        (db.orders.map grow) = (KeyedRows.lookup StoredOrder.externalOrderId externalOrderId
          db.orders).map grow :=
      KeyedRows.lookup_map StoredOrder.externalOrderId
        (fun row => congrArg OrderData.externalOrderId (hgrown row).data) _ _
    rw [horders]
    exact ⟨incoming, hincoming, hid, grow order, by rw [hlookup, hfound, Option.map_some],
      (hgrown order).data.trans hdata⟩

theorem view_upsertOrders {orders : List StoredOrder}
    (h : ∀ incoming ∈ page.orders, page.Stored incoming.externalOrderId orders) :
    (env.upsertOrders page orders).map StoredOrder.view = orders.map StoredOrder.view := by
  have hall : ∀ (rest : List NormalizedEcommerceOrder) (orders : List StoredOrder),
      (∀ other ∈ rest, (KeyedRows.lookup StoredOrder.externalOrderId other.externalOrderId
        orders).isSome) →
      (rest.foldl env.upsertOrder orders).map StoredOrder.view = orders.map StoredOrder.view := by
    intro rest
    induction rest with
    | nil => exact fun _ _ => rfl
    | cons other rest ih =>
      intro orders hfound
      have hone := hfound other (List.mem_cons_self ..)
      obtain ⟨row, hdata, -, hlookup⟩ := lookup_upsertOrder env orders other
      rw [List.foldl_cons, ih _ fun own hown => ?_, SyncEnvironment.upsertOrder]
      · rw [if_pos hone]
        refine KeyedRows.map_change_hidden _ (fun order horder => ?_) orders
        rw [StoredOrder.view, StoredOrder.view, horder]
        rfl
      · rw [hlookup]
        split
        · rfl
        · exact hfound own (List.mem_cons_of_mem _ hown)
  refine hall page.orders orders fun other hother => ?_
  obtain ⟨-, -, -, order, hfound, -⟩ := h other hother
  rw [hfound]
  rfl

def StoredOrder.SameStatus (previous : StoredOrder) (incoming : NormalizedEcommerceOrder) : Prop :=
  previous.data.status = incoming.status ∧
    previous.data.financialStatus = incoming.financialStatus ∧
    previous.data.fulfillmentStatus = incoming.fulfillmentStatus

section Unchanged

variable {incoming : NormalizedEcommerceOrder} {previous : StoredOrder}

theorem timelineCall_unchanged (h : previous.SameStatus incoming) :
    (env.timelineCall page incoming (some previous)).statements = [] := by
  obtain ⟨-, hfinancial, hfulfillment⟩ := h
  cases hplatform : page.platform.diffed with
  | none => simp only [SyncEnvironment.timelineCall, hplatform]
  | some platform =>
    have hnothing : detectChanges env.toLowerCase platform previous.id previous.data
        incoming.toOrderData = [] := by
      rw [detectChanges, financialChange, fulfillmentChange, if_pos hfinancial,
        if_pos hfulfillment, List.append_nil]
    simp only [SyncEnvironment.timelineCall, hplatform, hnothing, List.isEmpty_nil, if_true]

theorem codCall_unchanged (h : previous.SameStatus incoming) :
    (SyncEnvironment.codCall incoming (some previous)).statements = [] := if_pos h.2.1

theorem customerCall_unchanged (h : previous.SameStatus incoming) (db : SyncDb)
    (customer : Option OrderCustomer) :
    (env.customerCall db incoming (some previous) customer).statements = [] := by
  cases customer with
  | none => rfl
  | some customer => exact if_neg fun hcancelled => hcancelled.1 (h.1.trans hcancelled.2)

end Unchanged

theorem lateCalls_idle {db : SyncDb} (hagrees : page.Agrees)
    (hstored : ∀ incoming ∈ page.orders, page.Stored incoming.externalOrderId db.orders)
    (customers : List (String × Option OrderCustomer)) (orders : List StoredOrder)
    {statement : LateStatement}
    (h : statement ∈ (env.lateCalls page db customers).flatMap LateCall.statements) :
    statement.Idle env orders := by
  -- the row of an order has the status that the page gives it
  have hprevious : ∀ incoming ∈ page.orders, ∃ previous,
      db.order incoming.externalOrderId = some previous ∧ previous.SameStatus incoming := by
    intro incoming hincoming
    obtain ⟨own, hown, hid, previous, hfound, hdata⟩ := hstored incoming hincoming
    refine ⟨previous, hfound, ?_⟩
    rw [StoredOrder.SameStatus, hdata]
    exact hagrees own hown incoming hincoming hid
  rw [SyncEnvironment.lateCalls, List.flatMap_append, List.flatMap_append,
    List.flatMap_append, List.mem_append, List.mem_append, List.mem_append] at h
  rcases h with ((h | h) | h) | h
  all_goals
    obtain ⟨call, hcall, hstatement⟩ := List.mem_flatMap.1 h
    obtain ⟨incoming, hincoming, rfl⟩ := List.mem_map.1 hcall
    obtain ⟨previous, hfound, hsame⟩ := hprevious incoming hincoming
  · rw [SyncEnvironment.lineCall] at hstatement
    dsimp only at hstatement
    split at hstatement
    · cases hstatement
    · obtain ⟨write, -, rfl⟩ := List.mem_map.1 hstatement
      exact trivial
  · rw [hfound, timelineCall_unchanged hsame] at hstatement
    cases hstatement
  · rw [hfound, codCall_unchanged hsame] at hstatement
    cases hstatement
  · rw [hfound, customerCall_unchanged hsame] at hstatement
    cases hstatement

end Rows

/-! ### Retrying -/

section Retry

variable {env : SyncEnvironment} {page : SyncPage} {db : SyncDb}

theorem keys_write (env : SyncEnvironment) (db : SyncDb) (statement : LateStatement) :
    (db.write env statement).book.keys = db.book.keys := by
  cases statement with
  | writeLines externalOrderId write => rfl
  | storeEvents externalOrderId events => rfl
  | refreshCodStatus externalOrderId => rfl
  | countOrder phone => exact db.book.keys_updateCustomer phone fun _ => rfl
  | countCancellation phone => exact db.book.keys_updateCustomer phone fun _ => rfl
  | blacklist phone =>
    refine db.book.keys_updateCustomer phone fun row => ?_
    split
    · rfl
    · split <;> rfl

theorem keys_writes (env : SyncEnvironment) (statements : List LateStatement) (db : SyncDb) :
    (statements.foldl (SyncDb.write env) db).book.keys = db.book.keys := by
  induction statements generalizing db with
  | nil => rfl
  | cons statement statements ih => rw [List.foldl_cons, ih, keys_write]

def singleOutcome (env : SyncEnvironment) (page : SyncPage) (db : SyncDb) : Option SyncView :=
  match persistOrders env page {} db with
  | (.ok (), single) => some single.view
  | (.error _, _) => none

def SyncDb.started (env : SyncEnvironment) (page : SyncPage) (db : SyncDb) (book : CustomerBook) :
    SyncDb :=
  { db with book, orders := env.upsertOrders page db.orders }

def pageStatements (env : SyncEnvironment) (page : SyncPage) (db : SyncDb)
    (customers : List (String × Option OrderCustomer)) : List LateStatement :=
  (env.lateCalls page db customers).flatMap LateCall.statements

theorem singleOutcome_eq (hpage : page.orders.isEmpty = false) :
    singleOutcome env page db =
      match env.resolveCustomers page.orders db.book with
      | (.error _, _) => none
      | (.ok customers, book) =>
        some ((pageStatements env page db customers).foldl (SyncDb.write env)
          (db.started env page book)).view := by
  rw [singleOutcome, persistOrders, hpage]
  dsimp only
  rw [if_neg Bool.false_ne_true]
  rcases env.resolveCustomers page.orders db.book with ⟨error | customers, book⟩
  · rfl
  · dsimp only
    rw [finishPage_nil]
    rfl

theorem singleOutcome_alike (hpage : page.orders.isEmpty = false) {book : CustomerBook}
    (h : Alike (env.resolveCustomers page.orders book)
      (env.resolveCustomers page.orders db.book)) :
    singleOutcome env page { db with book } = singleOutcome env page db := by
  rw [singleOutcome_eq hpage, singleOutcome_eq hpage]
  dsimp only
  rcases hone : env.resolveCustomers page.orders book with ⟨error | customers, left⟩
  · rcases hother : env.resolveCustomers page.orders db.book with ⟨error' | customers', left'⟩
    · rfl
    · rw [hone, hother] at h
      cases h.1
  · rcases hother : env.resolveCustomers page.orders db.book with ⟨error' | customers', left'⟩
    · rw [hone, hother] at h
      cases h.1
    · rw [hone, hother] at h
      obtain ⟨hcustomers, hbare⟩ := h
      obtain rfl : customers = customers' := Except.ok.inj hcustomers
      have hcounts : ∀ book : CustomerBook, book.bare.customers.map Customer.counts =
          book.customers.map Customer.counts := fun book => by
        rw [CustomerBook.bare, List.map_map]
        rfl
      have hbare' : left.bare = left'.bare := hbare
      have hcore : (SyncDb.started env page { db with book } left).core =
          (db.started env page left').core :=
        Prod.ext rfl ((hcounts left).symm.trans (hbare' ▸ hcounts left'))
      exact congrArg some (view_of_core (core_writes hcore _))

/-- **A retry finds what the attempt recorded**: once the page was persisted, persisting it again
records nothing more. -/
theorem singleOutcome_again (hpage : page.orders.isEmpty = false) (hagrees : page.Agrees)
    (hknown : ∀ incoming ∈ page.orders, env.Known incoming db.book)
    (hstored : ∀ incoming ∈ page.orders, page.Stored incoming.externalOrderId db.orders) :
    singleOutcome env page db = some db.view := by
  obtain ⟨customers, book, hresolved, hbare⟩ := resolveCustomers_known hknown
  have hcounts : book.customers.map Customer.counts = db.book.customers.map Customer.counts := by
    have hmap : ∀ book : CustomerBook, book.bare.customers.map Customer.counts =
        book.customers.map Customer.counts := fun book => by
      rw [CustomerBook.bare, List.map_map]
      rfl
    rw [← hmap, hbare, hmap]
  rw [singleOutcome_eq hpage, hresolved]
  dsimp only
  rw [pageStatements, view_of_core (core_writes_idle fun statement hstatement =>
    lateCalls_idle hagrees hstored customers _ hstatement), SyncDb.started, SyncDb.view,
    SyncDb.view, view_upsertOrders hstored, hcounts]

/-- **An attempt that can be made good** changes nothing of what a successful one records. -/
theorem singleOutcome_attempt (hlawful : env.directory.Lawful) {faults : SyncFaults}
    (h : Recoverable env page db faults) :
    singleOutcome env page (attemptPage env page db faults) = singleOutcome env page db := by
  cases hpage : page.orders.isEmpty with
  | true => rw [attemptPage, persistOrders, hpage, if_pos rfl]
  | false =>
    rw [attemptPage, persistOrders, hpage, if_neg Bool.false_ne_true]
    cases hearly : faults.early with
    | some resolved =>
      exact singleOutcome_alike hpage
        (resolveCustomers_again hlawful page.orders resolved db.book)
    | none =>
      dsimp only
      rcases hresolved : env.resolveCustomers page.orders db.book with
        ⟨error | customers, book⟩
      · have hagain := resolveCustomers_again hlawful page.orders page.orders.length db.book
        rw [List.take_length, Command.final, hresolved] at hagain
        exact singleOutcome_alike hpage (by rw [hresolved]; exact hagain)
      · obtain ⟨hagrees, hidle⟩ := h hearly customers (by rw [hresolved])
        obtain ⟨statements, hleft⟩ := finishPage_writes env
          (env.lateCalls page db customers) faults.late (db.started env page book)
        have hcore : (finishPage env faults.late (env.lateCalls page db customers)
            (db.started env page book)).2.core =
              ((pageStatements env page db customers).foldl (SyncDb.write env)
                (db.started env page book)).core := finishPage_core rfl hidle
        have hknown : ∀ incoming ∈ page.orders, env.Known incoming
            (statements.foldl (SyncDb.write env) (db.started env page book)).book :=
          fun incoming hincoming => by
            rw [SyncEnvironment.Known, keys_writes]
            exact known_of_resolved hlawful hresolved hincoming
        have hstored : ∀ incoming ∈ page.orders, page.Stored incoming.externalOrderId
            (statements.foldl (SyncDb.write env) (db.started env page book)).orders :=
          fun incoming hincoming =>
            stored_writes (stored_upsertOrders env page db.orders hincoming) statements
        have hagain := singleOutcome_again hpage hagrees hknown hstored
        rw [← hleft] at hagain
        have hsingle := @singleOutcome_eq env page db hpage
        rw [hresolved] at hsingle
        exact (hagain.trans (congrArg some (view_of_core hcore))).trans hsingle.symm

/-- **When failed attempts before a successful one lose nothing.** -/
theorem pageRetry (hlawful : env.directory.Lawful) {attempts : List SyncFaults}
    (h : Machine.Along (attemptPage env page) (Recoverable env page) db attempts) :
    RetryLosesNothing env page db attempts := by
  have hsame : singleOutcome env page (Machine.run (attemptPage env page) db attempts) =
      singleOutcome env page db :=
    Machine.run_keeps_along (I := fun rows => singleOutcome env page rows =
        singleOutcome env page db)
      (fun rows faults hrows hfaults => (singleOutcome_attempt hlawful hfaults).trans hrows) rfl h
  intro retried hretried
  rw [singleOutcome, hretried, singleOutcome] at hsame
  rcases hsingle : persistOrders env page {} db with ⟨error | done, single⟩
  · rw [hsingle] at hsame
    cases hsame
  · rw [hsingle] at hsame
    exact ⟨single, rfl, Option.some.inj hsame⟩

end Retry

def sookDirectory : CustomerDirectory where
  requireStore := fun _ => none
  customerPhoneIdentity := fun _ raw => some { phone := raw, digitAliases := [digitsOf raw] }

def sook : SyncEnvironment where
  storeId := "store"
  directory := sookDirectory
  toLowerCase := lowerAscii
  normalizeSituation := lowerAscii
  newOrderId := fun externalOrderId => "order-" ++ externalOrderId
  created := fun externalOrderId => { id := fun line => externalOrderId ++ line, createdAt := 0 }
  catalogue := []

def sookDb : SyncDb where
  orders :=
    [{ id := "order-1001"
       data :=
        { externalOrderId := "1001", fulfillmentStatus := some "shipped"
          providerUpdatedAt := 1 } }]

def sookPage : SyncPage where
  platform := .youcan
  orders :=
    [{ externalOrderId := "1001", fulfillmentStatus := some "delivered", providerUpdatedAt := 2 },
      { externalOrderId := "1002", providerUpdatedAt := 2, customerPhone := some "0612345678" }]

def diedAfterUpsert : SyncFaults := { late := [.dies 0] }

/-- The delivery has no event, and the new order is not counted. -/
theorem pageRetry_died : ¬ RetryLosesNothing sook sookPage sookDb [diedAfterUpsert] := by
  intro h
  obtain ⟨single, hsingle, hview⟩ := h _ rfl
  obtain rfl := congrArg Prod.snd hsingle
  revert hview
  decide +kernel

/-- An attempt that stops when the first customer is resolved. -/
theorem pageRetry_early :
    RetryLosesNothing sook sookPage sookDb [{ early := some 1 }] :=
  pageRetry ⟨fun _ _ _ _ => rfl, fun _ raw _ h => by
    obtain rfl := Option.some.inj h
    exact ⟨_, rfl, rfl⟩⟩ ⟨(fun hearly => nomatch hearly), trivial⟩

end Zomaal
