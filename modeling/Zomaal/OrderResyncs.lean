/-
**Syncing again an order that does not change.**

Three things can change what is understood of an order that does not change: the clock, for a date
that is told by its age; the other orders of the page, by whose SKUs the catalogue is read; and,
when two line items have one identifier, whether the row of the line is new.  This module embeds a
fetch of a page, with the order among others, and the customer that `persistOrders` links an order
to.

Main results:

* `synced_persistLinked` — what persisting a page leaves of an order in it;
* `orderResyncs` — **when no later sync moves an order**.
-/

import Zomaal.FetchedOrders
import Zomaal.SyncRetries

set_option autoImplicit false

namespace Zomaal

open JsText

/-! ### Orders and their customers -/

/-- The rows of a connection, and the place of the customer that an order is linked to. -/
structure LinkedDb where
  db : SyncDb := {}
  customerLinks : String → Option ℕ := fun _ => none

def SyncEnvironment.place (env : SyncEnvironment) (book : CustomerBook) (phone : String) : ℕ :=
  book.keys.idxOf (env.storeId, phone)

def SyncEnvironment.creating (env : SyncEnvironment) (now : ℤ) : SyncEnvironment :=
  { env with created := fun id => { env.created id with createdAt := now } }

/-- `persistOrders`; the upsert of an order also links it to its customer. -/
def persistLinked (env : SyncEnvironment) (page : SyncPage) (s : LinkedDb) : LinkedDb where
  db := (persistOrders env page {} s.db).2
  customerLinks :=
    match env.resolveCustomers page.orders s.db.book with
    | (.error _, _) => s.customerLinks
    | (.ok customers, book) => fun id =>
      if id ∈ page.orders.map (fun order => order.externalOrderId) then
        (customerByOrder customers id).map fun customer => env.place book customer.phone
      else s.customerLinks id

/-- What is stored of an order: its row, but for the time of the last update, with its customer and
its lines. -/
structure ResyncSnapshot where
  data : OrderData
  customer : Option ℕ
  lines : List OrderLineRow
  deriving DecidableEq

def LinkedDb.synced (s : LinkedDb) (id : String) : Option ResyncSnapshot :=
  (s.db.order id).map fun order =>
    { data := order.data.undated, customer := s.customerLinks id, lines := order.lines }

/-! ### Fetching again -/

inductive Fetch
  | own (now : ℤ) (before after : List NormalizedEcommerceOrder)
  | others (now : ℤ) (orders : List NormalizedEcommerceOrder)

def Fetch.Apart (id : String) : Fetch → Prop
  | .own _ before after => ∀ other ∈ before ++ after, other.externalOrderId ≠ id
  | .others _ orders => ∀ other ∈ orders, other.externalOrderId ≠ id

section Fetches

variable (env : SyncEnvironment) {reader : PayloadReader} (texts : AgeTexts reader)
  (order : PlatformOrder reader)

/-- **A page is fetched and persisted**; an order that the adapter does not accept stops the sync
before the page is persisted. -/
def fetchStep (s : LinkedDb) : Fetch → LinkedDb
  | .own now before after =>
    match order.normalizeAt texts now with
    | .error _ => s
    | .ok incoming => persistLinked (env.creating now)
        { platform := order.platform, orders := before ++ incoming :: after } s
  | .others now orders =>
    persistLinked (env.creating now) { platform := order.platform, orders } s

def SyncEnvironment.matched (page : List NormalizedEcommerceOrder) (line : NormalizedOrderLine) :
    Option WarehouseVariant :=
  (truthy line.sku).bind (variantBySku env.toLowerCase
    (syncVariants env.catalogue (page.map NormalizedEcommerceOrder.lines)))

/-- **A fetch is understood as the first one was**: the dates say the same instants, and the page
matches the line items of the order with the same variants. -/
def Fetch.Steady (first : NormalizedEcommerceOrder) (now : ℤ)
    (page : List NormalizedEcommerceOrder) : Fetch → Prop
  | .own later before after => order.Keeps texts now later ∧ ∀ line ∈ first.lines,
      env.matched (before ++ first :: after) line = env.matched page line
  | .others _ _ => True

/-- Of the line items that have one identifier, the last is as the first. -/
def LastAsFirst (lines : List NormalizedOrderLine) : Prop :=
  ∀ id, lines.findRev? (fun line => line.externalLineId = id) =
    lines.find? (fun line => line.externalLineId = id)

def Unmoved (id : String) (s : LinkedDb) (first : Fetch) (fetches : List Fetch) : Prop :=
  Machine.Along (fetchStep env texts order)
    (fun rows fetch => (fetchStep env texts order rows fetch).synced id =
      (fetchStep env texts order s first).synced id)
    (fetchStep env texts order s first) fetches

end Fetches

/-! ### Lines that are applied again -/

section Lines

theorem OrderLineRow.apply_eq (lines : List OrderLineWrite) (row : OrderLineRow) :
    row.apply lines =
      ((lines.findRev? fun line => line.externalLineId = row.externalLineId).map row.update).getD
        row := by
  induction lines generalizing row with
  | nil => rfl
  | cons line lines ih =>
    have hfold : row.apply (line :: lines) = (if row.externalLineId = line.externalLineId then
        row.update line else row).apply lines := rfl
    rw [hfold, List.findRev?]
    by_cases hid : row.externalLineId = line.externalLineId
    · have hupdated : (row.update line).externalLineId = row.externalLineId := rfl
      rw [if_pos hid, ih, hupdated, decide_eq_true hid.symm]
      cases lines.findRev? fun line => line.externalLineId = row.externalLineId with
      | none => rfl
      | some last =>
        rw [Option.map_some, Option.map_some, Option.getD_some, Option.getD_some,
          OrderLineRow.update, OrderLineRow.update, OrderLineRow.update]
        dsimp only
        by_cases hnone : row.stockStatus = none
        · simp only [if_pos hnone]
        · simp only [if_neg hnone]
    · rw [if_neg hid, ih, decide_eq_false fun h => hid h.symm]
      cases lines.findRev? fun line => line.externalLineId = row.externalLineId <;> rfl

theorem createMany_first (created : CreatedRows) (lines : List OrderLineWrite) :
    (∀ row ∈ createMany created lines, ∃ line,
      lines.find? (fun line => line.externalLineId = row.externalLineId) = some line ∧
        row = line.row created) ∧
      ∀ line ∈ lines,
        line.externalLineId ∈ (createMany created lines).map OrderLineRow.externalLineId := by
  induction lines using List.reverseRecOn with
  | nil => exact ⟨fun row hrow => absurd hrow List.not_mem_nil, fun _ h => nomatch h⟩
  | append_singleton lines line ih =>
    obtain ⟨hfirst, hall⟩ := ih
    have hfold : createMany created (lines ++ [line]) =
        if line.externalLineId ∈ (createMany created lines).map OrderLineRow.externalLineId then
          createMany created lines
        else createMany created lines ++ [line.row created] := by
      rw [createMany, List.foldl_append]
      rfl
    have hearlier : ∀ row ∈ createMany created lines, ∃ line',
        (lines ++ [line]).find? (fun line => line.externalLineId = row.externalLineId) =
          some line' ∧ row = line'.row created := by
      intro row hrow
      obtain ⟨line', hline', hsame⟩ := hfirst row hrow
      exact ⟨line', by rw [List.find?_append, hline', Option.some_or], hsame⟩
    rw [hfold]
    split
    · rename_i hknown
      refine ⟨hearlier, fun other hother => ?_⟩
      rcases Ledger.mem_concat.1 hother with hother | hother
      · exact hall other hother
      · exact hother ▸ hknown
    · rename_i hnew
      refine ⟨fun row hrow => ?_, fun other hother => ?_⟩
      · rcases Ledger.mem_concat.1 hrow with hrow | rfl
        · exact hearlier row hrow
        · have hnone : lines.find? (fun other =>
              other.externalLineId = (line.row created).externalLineId) = none := by
            refine List.find?_eq_none.2 fun other hother hid => hnew ?_
            have hsame : other.externalLineId = line.externalLineId := of_decide_eq_true hid
            exact hsame ▸ hall other hother
          refine ⟨line, ?_, rfl⟩
          rw [List.find?_append, hnone, Option.none_or, List.find?_cons_of_pos]
          exact decide_eq_true rfl
      · rw [List.map_append]
        rcases Ledger.mem_concat.1 hother with hother | hother
        · exact List.mem_append_left _ (hall other hother)
        · exact List.mem_append_right _ (hother ▸ List.mem_singleton_self _)

theorem replaceOrderLines_nil (created : CreatedRows) (lines : List OrderLineWrite) :
    replaceOrderLines created [] lines = createMany created lines := by
  rw [replaceOrderLines_eq]
  have hall : newLines [] lines = lines := List.filter_eq_self.2 fun _ _ => rfl
  rw [hall]
  rfl

theorem replaceOrderLines_again {created created' : CreatedRows}
    {lines lines' : List OrderLineWrite}
    (h : ∀ id, lines'.findRev? (fun line => line.externalLineId = id) =
      lines.find? (fun line => line.externalLineId = id)) :
    replaceOrderLines created' (createMany created lines) lines' = createMany created lines := by
  obtain ⟨hfirst, hall⟩ := createMany_first created lines
  have hlast : ∀ row ∈ createMany created lines, ∃ line,
      lines'.findRev? (fun line => line.externalLineId = row.externalLineId) = some line ∧
        row = line.row created := by
    intro row hrow
    obtain ⟨line, hline, hsame⟩ := hfirst row hrow
    exact ⟨line, (h _).trans hline, hsame⟩
  have hkept : keptRows (createMany created lines) lines' = createMany created lines := by
    refine List.filter_eq_self.2 fun row hrow => ?_
    obtain ⟨line, hline, -⟩ := hlast row hrow
    rw [List.findRev?_eq_find?_reverse] at hline
    have hid : line.externalLineId = row.externalLineId := by simpa using List.find?_some hline
    have hmem : row.externalLineId ∈ lines'.map fun line => line.externalLineId :=
      List.mem_map.2 ⟨line, List.mem_reverse.1 (List.mem_of_find?_eq_some hline), hid⟩
    rw [decide_eq_true hmem, Bool.true_or]
  have hnew : newLines (createMany created lines) lines' = [] := by
    refine List.filter_eq_nil_iff.2 fun line hline hfresh => ?_
    have hsome : (lines'.findRev? fun other =>
        other.externalLineId = line.externalLineId).isSome = true := by
      rw [List.findRev?_eq_find?_reverse, List.find?_isSome]
      exact ⟨line, List.mem_reverse.2 hline, decide_eq_true rfl⟩
    rw [h, List.find?_isSome] at hsome
    obtain ⟨own, hown, hid⟩ := hsome
    have hsame : own.externalLineId = line.externalLineId := of_decide_eq_true hid
    exact of_decide_eq_true hfresh (hsame ▸ hall own hown)
  have happly : (createMany created lines).map (OrderLineRow.apply lines') =
      createMany created lines := by
    refine (List.map_congr_left fun row hrow => ?_).trans (List.map_id _)
    obtain ⟨line, hline, rfl⟩ := hlast row hrow
    rw [OrderLineRow.apply_eq, hline]
    rfl
  rw [replaceOrderLines_eq, hkept, hnew, happly]
  exact List.append_nil _

end Lines

/-! ### Customers that are resolved again -/

section Customers

theorem idxOf_map {α : Type} [BEq α] [LawfulBEq α] {f : α → α} {a : α} {xs : List α}
    (h : ∀ x ∈ xs, f x = a ↔ x = a) : (xs.map f).idxOf a = xs.idxOf a := by
  induction xs with
  | nil => rfl
  | cons x xs ih =>
    have hrest := ih fun y hy => h y (List.mem_cons_of_mem _ hy)
    have hone := h x (List.mem_cons_self ..)
    rw [List.map_cons, List.idxOf_cons, List.idxOf_cons, hrest]
    by_cases hx : x = a
    · rw [beq_iff_eq.2 hx, beq_iff_eq.2 (hone.2 hx)]
    · rw [beq_false_of_ne hx, beq_false_of_ne (mt hone.1 hx)]

variable {directory : CustomerDirectory} {storeId : String} {identity : PhoneIdentity}

theorem Settled.idxOf (hlawful : directory.Lawful) {book book' : CustomerBook}
    {mine : Option String} (hmine : directory.identify storeId mine = some identity)
    (h : Settled directory storeId identity book.keys) {params : CustomerParams} {phone : String}
    (hok : book.upsertCustomer directory storeId params = .ok (some (phone, book'))) :
    book'.keys.idxOf (storeId, identity.phone) = book.keys.idxOf (storeId, identity.phone) := by
  obtain ⟨other, -, rfl, hcases⟩ := CustomerBook.upsertCustomer_cases hok
  rcases hcases with ⟨-, rfl⟩ | ⟨-, hfresh, rfl⟩ | ⟨old, hone, hfresh, rfl⟩
  · rw [book.keys_updateCustomer _ params.metadata_key]
  · have hkeys : (({ book with customers := book.customers ++
        [params.metadata { storeId, phone := other.phone }] } : CustomerBook)).keys =
          book.keys ++ [(storeId, other.phone)] := List.map_append
    rw [hkeys, List.idxOf_append_of_mem h.known]
  · have hne : identity.phone ≠ other.phone := fun heq => hfresh (heq ▸ h.known)
    -- the number that is put into another form is no settled one
    have hold : old ≠ identity.phone := by
      rintro rfl
      have hstands : directory.standsFor storeId other (storeId, identity.phone) = true :=
        (List.mem_filter.1 (hone ▸ List.mem_singleton_self (storeId, identity.phone))).2
      rw [hlawful.standsFor_ne hmine hne] at hstands
      cases hstands
    rw [book.keys_rename]
    refine idxOf_map fun key _ => ?_
    rw [renamed]
    split
    · rename_i hkey
      rw [hkey]
      exact iff_of_false (fun heq => hne (Prod.mk.inj heq).2.symm)
        fun heq => hold (Prod.mk.inj heq).2
    · exact Iff.rfl

variable {env : SyncEnvironment} {own : NormalizedEcommerceOrder} {book book' : CustomerBook}

def SyncEnvironment.CustomerAt (env : SyncEnvironment) (own : NormalizedEcommerceOrder)
    (link : Option ℕ) (book : CustomerBook) : Prop :=
  env.Known own book ∧
    (env.identify own).map (fun identity => env.place book identity.phone) = link

theorem customerAt_keeps (hlawful : env.directory.Lawful) {link : Option ℕ}
    (orders : List NormalizedEcommerceOrder) :
    Command.Keeps (env.CustomerAt own link) (env.resolveCustomers orders) := by
  refine Command.Keeps.mapEach fun other _ book h => ?_
  obtain ⟨hknown, hplace⟩ := h
  rw [Command.final, resolveCustomer_eq]
  cases hupsert : book.upsertCustomer env.directory env.storeId other.customerParams with
  | error error => exact ⟨hknown, hplace⟩
  | ok answer =>
    cases answer with
    | none => exact ⟨hknown, hplace⟩
    | some answer =>
      obtain ⟨phone, resolved⟩ := answer
      refine ⟨fun identity hidentity =>
        ((hknown identity hidentity).keeps hlawful hidentity hupsert).1, ?_⟩
      rw [← hplace]
      cases hidentity : env.identify own with
      | none => rfl
      | some identity =>
        exact congrArg some ((hknown identity hidentity).idxOf hlawful hidentity hupsert)

theorem resolveCustomers_entries (hlawful : env.directory.Lawful)
    {orders : List NormalizedEcommerceOrder} {entries : List (String × Option OrderCustomer)}
    (h : env.resolveCustomers orders book = (.ok entries, book')) :
    entries = orders.map fun incoming => env.customerRead incoming book' := by
  induction orders generalizing book entries with
  | nil => exact (Except.ok.inj (Prod.mk.inj h).1).symm
  | cons incoming orders ih =>
    rcases hone : env.resolveCustomer incoming book with ⟨error | entry, next⟩
    · rw [resolveCustomers_cons_error hone] at h
      cases h
    · rw [resolveCustomers_cons_ok hone] at h
      rcases hrest : env.resolveCustomers orders next with ⟨error | later, last⟩
      · rw [hrest] at h
        cases h
      · rw [hrest] at h
        obtain ⟨hentries, rfl⟩ := Prod.mk.inj h
        obtain rfl := Except.ok.inj hentries
        have hkeeps : Command.Keeps (env.Resolved incoming entry)
            (env.resolveCustomers orders) :=
          Command.Keeps.mapEach fun other _ => resolved_keeps hlawful other
        have hlast := hkeeps next (resolveCustomer_resolved hone)
        rw [Command.final, hrest] at hlast
        rw [List.map_cons, hlast.2, ← ih hrest]

theorem customerByOrder_own (hlawful : env.directory.Lawful)
    {orders : List NormalizedEcommerceOrder} {customers : List (String × Option OrderCustomer)}
    (h : env.resolveCustomers orders book = (.ok customers, book')) (hown : own ∈ orders)
    (hapart : ∀ other ∈ orders, other.externalOrderId = own.externalOrderId → other = own) :
    env.CustomerAt own ((customerByOrder customers own.externalOrderId).map fun customer =>
      env.place book' customer.phone) book' := by
  have hknown : env.Known own book' := known_of_resolved hlawful h hown
  have hread : customerByOrder customers own.externalOrderId = (env.customerRead own book').2 := by
    rw [customerByOrder, resolveCustomers_entries hlawful h, List.findRev?_eq_find?_reverse,
      ← List.map_reverse, List.find?_map]
    cases hfound : orders.reverse.find? ((fun entry : String × Option OrderCustomer =>
        decide (entry.1 = own.externalOrderId)) ∘ fun incoming =>
          env.customerRead incoming book') with
    | none =>
      have hmiss := List.find?_eq_none.1 hfound own (List.mem_reverse.2 hown)
      exact absurd (decide_eq_true rfl) hmiss
    | some other =>
      have hid := List.find?_some hfound
      have hother := List.mem_reverse.1 (List.mem_of_find?_eq_some hfound)
      rw [hapart other hother (of_decide_eq_true hid)]
      rfl
  refine ⟨hknown, ?_⟩
  rw [hread, SyncEnvironment.customerRead]
  cases hidentity : env.identify own with
  | none => rfl
  | some identity =>
    obtain ⟨row, hrow⟩ := Option.isSome_iff_exists.1
      (CustomerBook.lookup_isSome_iff.2 (hknown identity hidentity).known)
    rw [Option.bind_some, SyncEnvironment.flag, hrow]
    rfl

end Customers

/-! ### What persisting a page leaves of an order -/

def LateStatement.linesOf (id : String) : LateStatement → List OrderLineRow → List OrderLineRow
  | .writeLines own write, rows => if own = id then write rows else rows
  | _, rows => rows

section Rows

variable {env : SyncEnvironment} {page : SyncPage} {db : SyncDb} {id : String} {row : StoredOrder}

theorem order_write (env : SyncEnvironment) (h : db.order id = some row)
    (statement : LateStatement) :
    ∃ row', (db.write env statement).order id = some row' ∧ row'.data = row.data ∧
      row'.lines = statement.linesOf id row.lines := by
  have hchange : ∀ (own : String) (change : StoredOrder → StoredOrder),
      (∀ order, (change order).data = order.data) →
      (db.changeOrder own change).order id = some (if id = own then change row else row) := by
    intro own change hdata
    refine (KeyedRows.lookup_change StoredOrder.externalOrderId
      (fun order => congrArg OrderData.externalOrderId (hdata order)) db.orders).trans ?_
    rw [SyncDb.order] at h
    rw [h]
    split <;> rfl
  have hsame : ∀ (own : String) (change : StoredOrder → StoredOrder),
      (∀ order, (change order).data = order.data ∧ (change order).lines = order.lines) →
      ∃ row', (db.changeOrder own change).order id = some row' ∧ row'.data = row.data ∧
        row'.lines = row.lines := by
    intro own change hkeeps
    refine ⟨_, hchange own change fun order => (hkeeps order).1, ?_⟩
    split
    · exact hkeeps row
    · exact ⟨rfl, rfl⟩
  cases statement with
  | writeLines own write =>
    refine ⟨_, hchange own _ fun _ => rfl, ?_⟩
    rw [LateStatement.linesOf]
    by_cases hid : id = own
    · rw [if_pos hid, if_pos hid.symm]
      exact ⟨rfl, rfl⟩
    · rw [if_neg hid, if_neg fun h => hid h.symm]
      exact ⟨rfl, rfl⟩
  | storeEvents own events => exact hsame own _ fun _ => ⟨rfl, rfl⟩
  | refreshCodStatus own => exact hsame own _ fun _ => ⟨rfl, rfl⟩
  | countOrder phone => exact ⟨row, h, rfl, rfl⟩
  | countCancellation phone => exact ⟨row, h, rfl, rfl⟩
  | blacklist phone => exact ⟨row, h, rfl, rfl⟩

theorem order_writes (env : SyncEnvironment) (h : db.order id = some row)
    (statements : List LateStatement) :
    ∃ row', (statements.foldl (SyncDb.write env) db).order id = some row' ∧ row'.data = row.data ∧
      row'.lines =
        statements.foldl (fun rows statement => statement.linesOf id rows) row.lines := by
  induction statements generalizing db row with
  | nil => exact ⟨row, h, rfl, rfl⟩
  | cons statement statements ih =>
    obtain ⟨next, hnext, hdata, hlines⟩ := order_write env h statement
    obtain ⟨last, hlast, hdata', hlines'⟩ := ih hnext
    exact ⟨last, hlast, hdata'.trans hdata, by rw [hlines', hlines, List.foldl_cons]⟩

theorem foldl_linesOf {statements : List LateStatement}
    (h : ∀ statement ∈ statements, ∀ rows, statement.linesOf id rows = rows)
    (rows : List OrderLineRow) :
    statements.foldl (fun rows statement => statement.linesOf id rows) rows = rows := by
  induction statements with
  | nil => rfl
  | cons statement statements ih =>
    rw [List.foldl_cons, h statement (List.mem_cons_self ..)]
    exact ih fun other hother => h other (List.mem_cons_of_mem _ hother)

variable {customers : List (String × Option OrderCustomer)} {statement : LateStatement}

theorem linesOf_later (h : statement ∈ (page.orders.map (fun incoming =>
        env.timelineCall page incoming (db.order incoming.externalOrderId)) ++
      page.orders.map (fun incoming =>
        SyncEnvironment.codCall incoming (db.order incoming.externalOrderId)) ++
      page.orders.map (fun incoming =>
        env.customerCall db incoming (db.order incoming.externalOrderId)
          (customerByOrder customers incoming.externalOrderId))).flatMap LateCall.statements)
    (rows : List OrderLineRow) : statement.linesOf id rows = rows := by
  obtain ⟨call, hcall, hstatement⟩ := List.mem_flatMap.1 h
  rw [List.mem_append, List.mem_append] at hcall
  rcases hcall with (hcall | hcall) | hcall
  all_goals obtain ⟨incoming, -, rfl⟩ := List.mem_map.1 hcall
  · rw [SyncEnvironment.timelineCall.eq_def] at hstatement
    dsimp only at hstatement
    split at hstatement
    · split at hstatement
      · cases hstatement
      · obtain rfl := List.mem_singleton.1 hstatement
        rfl
    · cases hstatement
  · rw [SyncEnvironment.codCall.eq_def] at hstatement
    dsimp only at hstatement
    split at hstatement
    · cases hstatement
    · split at hstatement
      · cases hstatement
      · obtain rfl := List.mem_singleton.1 hstatement
        rfl
  · rw [SyncEnvironment.customerCall.eq_def] at hstatement
    dsimp only at hstatement
    split at hstatement
    · cases hstatement
    · rw [SyncEnvironment.newOrderStatements] at hstatement
      rcases List.mem_cons.1 hstatement with rfl | hstatement
      · rfl
      · split at hstatement
        · obtain rfl := List.mem_singleton.1 hstatement
          rfl
        · cases hstatement
    · split at hstatement
      · rw [SyncEnvironment.cancellationStatements] at hstatement
        split at hstatement
        · cases hstatement
        · rcases List.mem_cons.1 hstatement with rfl | hstatement
          · rfl
          · obtain rfl := List.mem_singleton.1 hstatement
            rfl
      · cases hstatement

theorem linesOf_lineCall {other : NormalizedEcommerceOrder} (hne : other.externalOrderId ≠ id)
    (h : statement ∈ (env.lineCall page other).statements) (rows : List OrderLineRow) :
    statement.linesOf id rows = rows := by
  rw [SyncEnvironment.lineCall] at h
  dsimp only at h
  split at h
  · cases h
  · obtain ⟨write, -, rfl⟩ := List.mem_map.1 h
    exact if_neg hne

theorem foldl_lineCall (own : NormalizedEcommerceOrder) (rows : List OrderLineRow) :
    (env.lineCall page own).statements.foldl
        (fun rows statement => statement.linesOf own.externalOrderId rows) rows =
      syncOrderLines env.toLowerCase (env.created own.externalOrderId) env.catalogue
        (page.orders.map NormalizedEcommerceOrder.lines) own.lines rows := by
  rw [SyncEnvironment.lineCall, syncOrderLines]
  dsimp only
  split
  · rfl
  · rw [List.foldl_map, ← lineStatements_replace]
    refine congrArg (fun f => List.foldl f rows _) ?_
    exact funext fun rows => funext fun write => if_pos rfl

theorem order_upsertOrders {others : List NormalizedEcommerceOrder}
    (hapart : ∀ other ∈ others, other.externalOrderId ≠ id) (orders : List StoredOrder) :
    KeyedRows.lookup StoredOrder.externalOrderId id (others.foldl env.upsertOrder orders) =
      KeyedRows.lookup StoredOrder.externalOrderId id orders := by
  induction others generalizing orders with
  | nil => rfl
  | cons other others ih =>
    obtain ⟨_, _, _, hlookup⟩ := lookup_upsertOrder env orders other
    rw [List.foldl_cons, ih fun own hown => hapart own (List.mem_cons_of_mem _ hown), hlookup,
      if_neg fun h => hapart other (List.mem_cons_self ..) h.symm]

theorem linesOf_others {orders : List NormalizedEcommerceOrder}
    (hapart : ∀ other ∈ orders, other.externalOrderId ≠ id)
    (h : statement ∈ (orders.map (env.lineCall page)).flatMap LateCall.statements)
    (rows : List OrderLineRow) : statement.linesOf id rows = rows := by
  obtain ⟨call, hcall, hstatement⟩ := List.mem_flatMap.1 h
  obtain ⟨other, hother, rfl⟩ := List.mem_map.1 hcall
  exact linesOf_lineCall (hapart other hother) hstatement rows

variable {own : NormalizedEcommerceOrder}

theorem foldl_pageStatements {before after : List NormalizedEcommerceOrder}
    (horders : page.orders = before ++ own :: after)
    (hapart : ∀ other ∈ before ++ after, other.externalOrderId ≠ own.externalOrderId)
    (customers : List (String × Option OrderCustomer)) (rows : List OrderLineRow) :
    (pageStatements env page db customers).foldl
        (fun rows statement => statement.linesOf own.externalOrderId rows) rows =
      syncOrderLines env.toLowerCase (env.created own.externalOrderId) env.catalogue
        (page.orders.map NormalizedEcommerceOrder.lines) own.lines rows := by
  rw [pageStatements, SyncEnvironment.lateCalls, List.append_assoc, List.append_assoc,
    List.flatMap_append, List.foldl_append, ← List.append_assoc,
    foldl_linesOf fun _ => linesOf_later]
  nth_rewrite 1 [horders]
  rw [List.map_append, List.map_cons, List.flatMap_append, List.flatMap_cons, List.foldl_append,
    List.foldl_append, foldl_linesOf fun _ => linesOf_others fun other hother =>
      hapart other (List.mem_append_left _ hother), foldl_lineCall,
    foldl_linesOf fun _ => linesOf_others fun other hother =>
      hapart other (List.mem_append_right _ hother)]

theorem persistOrders_nil (env : SyncEnvironment) (page : SyncPage) (db : SyncDb) :
    persistOrders env page {} db =
      match env.resolveCustomers page.orders db.book with
      | (.error error, book) => (.error (.customer error), { db with book })
      | (.ok customers, book) => (.ok (), (pageStatements env page db customers).foldl
          (SyncDb.write env) (db.started env page book)) := by
  rw [persistOrders]
  cases horders : page.orders with
  | nil =>
    have hnone : pageStatements env page db [] = [] := by
      rw [pageStatements, SyncEnvironment.lateCalls, horders]
      rfl
    have hrows : db.started env page db.book = db := by
      rw [SyncDb.started, SyncEnvironment.upsertOrders, horders]
      rfl
    change (Except.ok (), db) = (Except.ok (), (pageStatements env page db []).foldl _
      (db.started env page db.book))
    rw [hnone, hrows]
    rfl
  | cons incoming orders =>
    rw [List.isEmpty_cons, if_neg Bool.false_ne_true]
    dsimp only
    rcases env.resolveCustomers (incoming :: orders) db.book with ⟨error | customers, book⟩
    · rfl
    · dsimp only
      rw [finishPage_nil]
      rfl

variable {s : LinkedDb}

variable {book : CustomerBook}

/-- **What persisting a page leaves of an order in it.** -/
theorem synced_persistLinked {before after : List NormalizedEcommerceOrder}
    (horders : page.orders = before ++ own :: after)
    (hapart : ∀ other ∈ before ++ after, other.externalOrderId ≠ own.externalOrderId)
    (hresolved : env.resolveCustomers page.orders s.db.book = (.ok customers, book)) :
    (persistLinked env page s).synced own.externalOrderId = some
      { data := own.undated
        customer := (customerByOrder customers own.externalOrderId).map fun customer =>
          env.place book customer.phone
        lines := syncOrderLines env.toLowerCase (env.created own.externalOrderId) env.catalogue
          (page.orders.map NormalizedEcommerceOrder.lines) own.lines
          (((s.db.order own.externalOrderId).map StoredOrder.lines).getD []) } := by
  obtain ⟨row, hdata, hlines, hlookup⟩ :=
    lookup_upsertOrder env (before.foldl env.upsertOrder s.db.orders) own
  have hstarted : (s.db.started env page book).order own.externalOrderId = some row := by
    rw [SyncDb.started, SyncDb.order, SyncEnvironment.upsertOrders, horders, List.foldl_append,
      List.foldl_cons, order_upsertOrders fun other hother =>
        hapart other (List.mem_append_right _ hother), hlookup, if_pos rfl]
  rw [order_upsertOrders fun other hother => hapart other (List.mem_append_left _ hother)] at hlines
  obtain ⟨row', horder, hdata', hlines'⟩ := order_writes env hstarted
    (pageStatements env page s.db customers)
  rw [foldl_pageStatements horders hapart, hlines] at hlines'
  have hmem : own.externalOrderId ∈ page.orders.map fun order => order.externalOrderId := by
    rw [horders]
    exact List.mem_map.2 ⟨own, List.mem_append_right _ (List.mem_cons_self ..), rfl⟩
  rw [LinkedDb.synced, persistLinked, persistOrders_nil, hresolved]
  dsimp only
  rw [horder, if_pos hmem, Option.map_some, hdata', hdata, hlines']
  rfl

theorem synced_others (hapart : ∀ other ∈ page.orders, other.externalOrderId ≠ id)
    (hfound : (s.db.order id).isSome) : (persistLinked env page s).synced id = s.synced id := by
  obtain ⟨row, hrow⟩ := Option.isSome_iff_exists.1 hfound
  rw [LinkedDb.synced, LinkedDb.synced, persistLinked, persistOrders_nil]
  rcases env.resolveCustomers page.orders s.db.book with ⟨error | customers, book⟩
  · rfl
  · have hstarted : (s.db.started env page book).order id = some row :=
      (order_upsertOrders hapart s.db.orders).trans hrow
    obtain ⟨row', horder, hdata, hlines⟩ := order_writes env hstarted
      (pageStatements env page s.db customers)
    have hquiet : ∀ statement ∈ pageStatements env page s.db customers, ∀ rows,
        statement.linesOf id rows = rows := by
      intro statement hstatement rows
      rw [pageStatements, SyncEnvironment.lateCalls, List.append_assoc, List.append_assoc,
        List.flatMap_append, ← List.append_assoc] at hstatement
      rcases List.mem_append.1 hstatement with h | h
      · exact linesOf_others hapart h rows
      · exact linesOf_later h rows
    have hmem : id ∉ page.orders.map fun order => order.externalOrderId := by
      intro h
      obtain ⟨other, hother, hid⟩ := List.mem_map.1 h
      exact hapart other hother hid
    rw [foldl_linesOf hquiet] at hlines
    dsimp only
    rw [horder, hrow, if_neg hmem, Option.map_some, Option.map_some, hdata, hlines]

theorem synced_error {error : CustomerError}
    (h : env.resolveCustomers page.orders s.db.book = (.error error, book)) :
    (persistLinked env page s).synced id = s.synced id := by
  rw [LinkedDb.synced, LinkedDb.synced, persistLinked, persistOrders_nil, h]
  rfl

theorem customerAt_late {link : Option ℕ}
    (hresolved : env.resolveCustomers page.orders s.db.book = (.ok customers, book))
    (h : env.CustomerAt own link book) :
    env.CustomerAt own link (persistLinked env page s).db.book := by
  have hkeys : ((pageStatements env page s.db customers).foldl (SyncDb.write env)
      (s.db.started env page book)).book.keys = book.keys := keys_writes env _ _
  rw [persistLinked, persistOrders_nil, hresolved]
  rw [SyncEnvironment.CustomerAt, SyncEnvironment.Known] at h ⊢
  simp only [SyncEnvironment.place] at h ⊢
  rw [hkeys]
  exact h

theorem customerAt_persist (hlawful : env.directory.Lawful) {link : Option ℕ}
    (h : env.CustomerAt own link s.db.book) :
    env.CustomerAt own link (persistLinked env page s).db.book := by
  have hleft := customerAt_keeps hlawful page.orders s.db.book h
  rw [Command.final] at hleft
  rcases hresolved : env.resolveCustomers page.orders s.db.book with ⟨error | customers, book⟩
  · rw [hresolved] at hleft
    rw [persistLinked, persistOrders_nil, hresolved]
    exact hleft
  · rw [hresolved] at hleft
    exact customerAt_late hresolved hleft

theorem eq_of_apart {other : NormalizedEcommerceOrder}
    {before after : List NormalizedEcommerceOrder}
    (hapart : ∀ other ∈ before ++ after, other.externalOrderId ≠ own.externalOrderId)
    (hother : other ∈ before ++ own :: after) (hid : other.externalOrderId = own.externalOrderId) :
    other = own := by
  rcases List.mem_append.1 hother with hother | hother
  · exact absurd hid (hapart other (List.mem_append_left _ hother))
  · rcases List.mem_cons.1 hother with rfl | hother
    · rfl
    · exact absurd hid (hapart other (List.mem_append_right _ hother))

end Rows

/-! ### When no later sync moves an order -/

section Resyncs

variable {env : SyncEnvironment} {first : NormalizedEcommerceOrder}
  {page later : List NormalizedEcommerceOrder}

def SyncEnvironment.linkedLines (env : SyncEnvironment) (page : List NormalizedEcommerceOrder)
    (lines : List NormalizedOrderLine) : List OrderLineWrite :=
  lines.map (NormalizedOrderLine.linked env.toLowerCase
    (syncVariants env.catalogue (page.map NormalizedEcommerceOrder.lines)))

theorem syncOrderLines_first (created : CreatedRows) (lines : List NormalizedOrderLine) :
    syncOrderLines env.toLowerCase created env.catalogue (page.map NormalizedEcommerceOrder.lines)
      lines [] = createMany created (env.linkedLines page lines) := by
  rw [syncOrderLines]
  split
  · rename_i hempty
    obtain rfl := List.isEmpty_iff.1 hempty
    rfl
  · exact replaceOrderLines_nil created _

theorem syncOrderLines_again {created created' : CreatedRows} {lines : List NormalizedOrderLine}
    (hlast : LastAsFirst lines)
    (hmatched : ∀ line ∈ lines, env.matched later line = env.matched page line) :
    syncOrderLines env.toLowerCase created' env.catalogue (later.map NormalizedEcommerceOrder.lines)
        lines (createMany created (env.linkedLines page lines)) =
      createMany created (env.linkedLines page lines) := by
  rw [syncOrderLines]
  split
  · rfl
  · refine replaceOrderLines_again fun id => ?_
    have hids : ∀ page : List NormalizedEcommerceOrder,
        (fun line : OrderLineWrite => decide (line.externalLineId = id)) ∘
          NormalizedOrderLine.linked env.toLowerCase
            (syncVariants env.catalogue (page.map NormalizedEcommerceOrder.lines)) =
          fun line : NormalizedOrderLine => decide (line.externalLineId = id) := fun _ => rfl
    have hsame := hlast id
    rw [List.findRev?_eq_find?_reverse] at hsame
    rw [SyncEnvironment.linkedLines, List.findRev?_eq_find?_reverse, ← List.map_reverse,
      List.find?_map, List.find?_map, hids, hids, hsame]
    cases hfound : lines.find? fun line => line.externalLineId = id with
    | none => rfl
    | some line =>
      have hvariant := hmatched line (List.mem_of_find?_eq_some hfound)
      exact congrArg (fun variant => some ({ line with warehouseVariant := variant } :
        OrderLineWrite)) hvariant

/-- The order is stored as it was, and its customer is where it was. -/
structure StoredAs (env : SyncEnvironment) (first : NormalizedEcommerceOrder)
    (stored : ResyncSnapshot) (s : LinkedDb) : Prop where
  synced : s.synced first.externalOrderId = some stored
  customer : env.CustomerAt first stored.customer s.db.book

section Stored

variable {syncPage : SyncPage} {stored : ResyncSnapshot} {s : LinkedDb}

theorem StoredAs.others (hlawful : env.directory.Lawful) (h : StoredAs env first stored s)
    (hapart : ∀ other ∈ syncPage.orders, other.externalOrderId ≠ first.externalOrderId) :
    StoredAs env first stored (persistLinked env syncPage s) := by
  obtain ⟨row, hrow, -⟩ := Option.map_eq_some_iff.1 h.synced
  refine ⟨?_, customerAt_persist hlawful h.customer⟩
  rw [synced_others hapart (by rw [hrow]; rfl), h.synced]

theorem StoredAs.own (hlawful : env.directory.Lawful) (h : StoredAs env first stored s)
    {again : NormalizedEcommerceOrder} {before after : List NormalizedEcommerceOrder}
    (horders : syncPage.orders = before ++ again :: after)
    (hapart : ∀ other ∈ before ++ after, other.externalOrderId ≠ again.externalOrderId)
    (hid : again.externalOrderId = first.externalOrderId)
    (hphone : again.customerPhone = first.customerPhone) (hdata : again.undated = stored.data)
    (hlines : syncOrderLines env.toLowerCase (env.created again.externalOrderId) env.catalogue
      (syncPage.orders.map NormalizedEcommerceOrder.lines) again.lines stored.lines =
        stored.lines) :
    StoredAs env first stored (persistLinked env syncPage s) := by
  obtain ⟨row, hrow, rfl⟩ := Option.map_eq_some_iff.1 h.synced
  refine ⟨?_, customerAt_persist hlawful h.customer⟩
  rcases hresolved : env.resolveCustomers syncPage.orders s.db.book with ⟨error | customers, book⟩
  · exact (synced_error hresolved).trans h.synced
  · have hmem : again ∈ syncPage.orders := by
      rw [horders]
      exact List.mem_append_right _ (List.mem_cons_self ..)
    have hlink := (customerByOrder_own hlawful hresolved hmem fun other hother =>
      eq_of_apart hapart (horders ▸ hother)).2
    have hstill := customerAt_keeps hlawful syncPage.orders s.db.book h.customer
    rw [Command.final, hresolved] at hstill
    rw [SyncEnvironment.identify, hphone] at hlink
    rw [← hid, synced_persistLinked horders hapart hresolved, ← hlink]
    rw [hid] at hlines ⊢
    have hplace : (env.directory.identify env.storeId first.customerPhone).map (fun identity =>
        env.place book identity.phone) = s.customerLinks first.externalOrderId := hstill.2
    rw [hrow, Option.map_some, Option.getD_some, hlines, hdata, hplace]

theorem storedAs_first (hlawful : env.directory.Lawful)
    {before after : List NormalizedEcommerceOrder}
    (horders : syncPage.orders = before ++ first :: after)
    (hapart : ∀ other ∈ before ++ after, other.externalOrderId ≠ first.externalOrderId)
    (hnew : s.db.order first.externalOrderId = none)
    (hpersisted : (persistOrders env syncPage {} s.db).1 = .ok ()) :
    ∃ stored, StoredAs env first stored (persistLinked env syncPage s) ∧
      stored.data = first.undated ∧ stored.lines =
        createMany (env.created first.externalOrderId)
          (env.linkedLines syncPage.orders first.lines) := by
  rw [persistOrders_nil] at hpersisted
  rcases hresolved : env.resolveCustomers syncPage.orders s.db.book with ⟨error | customers, book⟩
  · rw [hresolved] at hpersisted
    cases hpersisted
  · have hmem : first ∈ syncPage.orders := by
      rw [horders]
      exact List.mem_append_right _ (List.mem_cons_self ..)
    have hcustomer := customerByOrder_own hlawful hresolved hmem fun other hother =>
      eq_of_apart hapart (horders ▸ hother)
    have hsynced := synced_persistLinked horders hapart hresolved
    rw [hnew, Option.map_none, Option.getD_none, syncOrderLines_first] at hsynced
    exact ⟨_, ⟨hsynced, customerAt_late hresolved hcustomer⟩, rfl, rfl⟩

end Stored

section Runs

variable {reader : PayloadReader} {texts : AgeTexts reader} {order : PlatformOrder reader} {now : ℤ}
  {stored : ResyncSnapshot} {s : LinkedDb}

theorem StoredAs.step (hlawful : env.directory.Lawful)
    (hfirst : order.normalizeAt texts now = .ok first) (hlast : LastAsFirst first.lines)
    (hdata : stored.data = first.undated) {created : CreatedRows}
    (hlines : stored.lines = createMany created (env.linkedLines page first.lines))
    (h : StoredAs env first stored s) {fetch : Fetch} (hapart : fetch.Apart first.externalOrderId)
    (hsteady : fetch.Steady env texts order first now page) :
    StoredAs env first stored (fetchStep env texts order s fetch) := by
  have hcreating : ∀ time, StoredAs (env.creating time) first stored s := fun _ =>
    ⟨h.synced, h.customer⟩
  have hback : ∀ {time : ℤ} {s : LinkedDb}, StoredAs (env.creating time) first stored s →
      StoredAs env first stored s := fun h => ⟨h.synced, h.customer⟩
  cases fetch with
  | others time orders => exact hback ((hcreating time).others hlawful hapart)
  | own time before after =>
    obtain ⟨hkeeps, hmatched⟩ := hsteady
    rw [fetchStep]
    cases hagain : order.normalizeAt texts time with
    | error message => exact h
    | ok again =>
      obtain ⟨hid, hphone, hsame, hundated⟩ := PlatformOrder.normalizeAt_same hfirst hagain
      have hpage : (before ++ again :: after).map NormalizedEcommerceOrder.lines =
          (before ++ first :: after).map NormalizedEcommerceOrder.lines := by
        rw [List.map_append, List.map_append, List.map_cons, List.map_cons, hsame]
      refine hback ((hcreating time).own hlawful rfl (hid ▸ hapart) hid hphone
        ((hundated.2 hkeeps).trans hdata.symm) ?_)
      dsimp only
      rw [hpage, hsame, hlines]
      exact syncOrderLines_again hlast hmatched

/-- **When no later sync moves an order**: its dates say the same instants, every page matches its
line items with the same variants, and of its line items that have one identifier, the last is as
the first. -/
theorem orderResyncs (hlawful : env.directory.Lawful)
    {before after : List NormalizedEcommerceOrder}
    (hfirst : order.normalizeAt texts now = .ok first)
    (hnew : s.db.order first.externalOrderId = none)
    (hpersisted : (persistOrders (env.creating now)
      { platform := order.platform, orders := before ++ first :: after } {} s.db).1 = .ok ())
    {fetches : List Fetch}
    (hapart : ∀ fetch ∈ .own now before after :: fetches, fetch.Apart first.externalOrderId)
    (hlast : LastAsFirst first.lines)
    (hsteady : ∀ fetch ∈ fetches,
      fetch.Steady env texts order first now (before ++ first :: after)) :
    Unmoved env texts order first.externalOrderId s (.own now before after) fetches := by
  obtain ⟨stored, hstored, hdata, hlines⟩ := @storedAs_first (env.creating now) first _ s hlawful
    before after rfl (hapart _ (List.mem_cons_self ..)) hnew hpersisted
  have hstart : StoredAs env first stored
      (fetchStep env texts order s (.own now before after)) := by
    rw [fetchStep, hfirst]
    exact ⟨hstored.synced, hstored.customer⟩
  have hsteps : ∀ (fetches : List Fetch) (rows : LinkedDb), StoredAs env first stored rows →
      (∀ fetch ∈ fetches, fetch.Apart first.externalOrderId ∧
        fetch.Steady env texts order first now (before ++ first :: after)) →
      Machine.Along (fetchStep env texts order) (fun rows fetch =>
        (fetchStep env texts order rows fetch).synced first.externalOrderId = some stored)
        rows fetches := by
    intro fetches
    induction fetches with
    | nil => exact fun _ _ _ => trivial
    | cons fetch fetches ih =>
      intro rows hrows hall
      obtain ⟨hown, hkeeps⟩ := hall fetch (List.mem_cons_self ..)
      have hnext := hrows.step hlawful hfirst hlast hdata hlines hown hkeeps
      exact ⟨hnext.synced, ih _ hnext fun other hother =>
        hall other (List.mem_cons_of_mem _ hother)⟩
  rw [Unmoved, hstart.synced]
  exact hsteps fetches _ hstart fun fetch hfetch =>
    ⟨hapart fetch (List.mem_cons_of_mem _ hfetch), hsteady fetch hfetch⟩

end Runs

end Resyncs

/-! ### An order that is told by its age -/

def souqReader : PayloadReader where
  decimal_empty := rfl
  decimal := fun text => [("0", 0), ("250", 250)].lookup text
  date := fun text => if text = "1970-01-01T12:00:00Z" then some 43200000 else none
  toLowerCase := id
  toUpperCase := id

def daysTold : List String :=
  ["just now", "a day ago", "2 days ago", "3 days ago", "4 days ago", "5 days ago", "6 days ago"]

/-- A platform that tells whole days, and after a week tells one. -/
def souqTexts : AgeTexts souqReader where
  text := fun now instant => daysTold.getD ((now - instant) / 86400000).toNat "a week ago"
  relative := by
    intro now instant
    have hall : ∀ text ∈ "a week ago" :: daysTold, isRelative souqReader (.string text) = true := by
      decide +kernel
    refine hall _ ?_
    rw [List.getD_eq_getElem?_getD]
    cases hday : daysTold[((now - instant) / 86400000).toNat]? with
    | none => exact List.mem_cons_self ..
    | some text => exact List.mem_cons_of_mem _ (List.mem_of_getElem? hday)

def souqOrder (createdAt : ToldDate souqReader) : PlatformOrder souqReader :=
  .lightfunnels
    { createdAt
      updatedAt := createdAt
      fields := [("id", .string "o1"), ("currency", .string "MAD"), ("subtotal", .number "250"),
        ("discount_value", .number "0"), ("refunded_amount", .number "0"),
        ("shipping", .number "0"), ("total", .number "250"),
        ("financial_status", .string "pending"),
        ("items", .array [.object [("id", .string "l1"), ("price", .number "250")]])] }

def writtenNoon : ToldDate souqReader :=
  .absolute (.string "1970-01-01 12:00:00") (by decide +kernel)

def souqNormalized (createdAt : ℤ) : NormalizedEcommerceOrder where
  externalOrderId := "o1"
  fulfillmentStatus := some ""
  itemCount := 1
  grossSales := 250
  netSales := 250
  providerCreatedAt := createdAt
  processedAt := createdAt
  providerUpdatedAt := createdAt
  lines := [{ externalLineId := "l1", name := "Unknown Product", quantity := 1,
              quantity_pos := Int.one_pos, unitPrice := 250, totalPrice := 250 }]

/-- The date is written out, and the order is synced again an hour later. -/
theorem orderResyncs_written :
    Unmoved sook souqTexts (souqOrder writtenNoon) "o1" {} (.own 343800000 [] [])
      [.own 347400000 [] []] := by
  have hlawful : sook.directory.Lawful := ⟨fun _ _ _ _ => rfl, fun _ raw _ h => by
    obtain rfl := Option.some.inj h
    exact ⟨_, rfl, rfl⟩⟩
  have hfirst : (souqOrder writtenNoon).normalizeAt souqTexts 343800000 =
      .ok (souqNormalized 43200000) := by
    decide +kernel
  refine orderResyncs hlawful hfirst rfl ?_ ?_ ?_ ?_
  · rfl
  · intro fetch hfetch
    rcases List.mem_cons.1 hfetch with rfl | hfetch
    · exact fun other hother => nomatch hother
    · obtain rfl := List.mem_singleton.1 hfetch
      exact fun other hother => nomatch hother
  · intro id
    rw [List.findRev?_eq_find?_reverse]
    rfl
  · intro fetch hfetch
    obtain rfl := List.mem_singleton.1 hfetch
    exact ⟨⟨trivial, fun date hdate => nomatch hdate⟩, fun line hline => rfl⟩

/-- The order was placed at noon, three days ago; an hour later it still was, and it has moved to
the next day. -/
theorem orderResyncs_told :
    ∃ first, (souqOrder (.relative 43200000)).normalizeAt souqTexts 343800000 = .ok first ∧
      (persistOrders (sook.creating 343800000)
        { platform := .lightfunnels, orders := [first] } {} {}).1 = .ok () ∧
      ¬ Unmoved sook souqTexts (souqOrder (.relative 43200000)) first.externalOrderId {}
        (.own 343800000 [] []) [.own 347400000 [] []] := by
  refine ⟨souqNormalized 84600000, by decide +kernel, rfl, fun h => ?_⟩
  have hmoved := h.1
  revert hmoved
  decide +kernel

end Zomaal
