/-
**The windows of the sync.**

A sync asks the platform for the orders that were updated from where the last sync that came to its
end had started, to where this one started.  It goes through the pages of the window, and stops
after a few; the window and the cursor are kept in the row of the connection.  Runs of two servers
do not wait for each other.  This module embeds `runSync` as a machine of any number of runs; a run
may fail, and its process die, at any point.  What the platform may return for a cursor, and when it
updated which order, are parameters.

Main results:

* `syncWindows` — **when the incremental sync loses no order**.
-/

import Zomaal.Paging
import Zomaal.SyncRetries

set_option autoImplicit false

namespace Zomaal

open JsText

/-! ### Windows and pages -/

structure SyncWindow where
  syncFrom : Option ℤ
  syncStartedAt : ℤ

def SyncWindow.contains (window : SyncWindow) (time : ℤ) : Bool :=
  window.syncFrom.all (fun start => start ≤ time) && time < window.syncStartedAt

structure EcommerceOrderPage where
  orders : List NormalizedEcommerceOrder
  hasNextPage : Bool
  endCursor : Option String

def EcommerceOrderPage.next (page : EcommerceOrderPage) : Option String :=
  if page.hasNextPage then truthy page.endCursor else none

/-- The platform: the page it may return for a window and a cursor, and when it updated which
order. -/
structure SyncedPlatform where
  platform : EcommercePlatform
  returns : SyncWindow → Option String → EcommerceOrderPage → Prop
  updated : String → ℤ → Prop

/-- **The pages of a window together contain every order that was updated in it.** -/
def SyncedPlatform.Complete (source : SyncedPlatform) : Prop :=
  ∀ window pages, Paging.Whole source.returns EcommerceOrderPage.next
      (fun page => page.hasNextPage = false) window pages →
    ∀ externalOrderId time, source.updated externalOrderId time → window.contains time →
      ∃ page ∈ pages, ∃ order ∈ page.orders, order.externalOrderId = externalOrderId

/-! ### The row of the connection -/

structure SyncConnection where
  syncCursor : Option String := none
  syncFrom : Option ℤ := none
  syncStartedAt : Option ℤ := none
  lastSyncedAt : Option ℤ := none
  lastSyncError : Option String := none
  includeInRevenue : Bool := false

namespace SyncConnection

variable (row : SyncConnection)

def window : Option SyncWindow :=
  row.syncStartedAt.map fun syncStartedAt => { syncFrom := row.syncFrom, syncStartedAt }

def nextWindow (now : ℤ) : SyncWindow where
  syncFrom := if row.syncStartedAt.isSome then row.syncFrom else row.lastSyncedAt
  syncStartedAt := row.syncStartedAt.getD now

def start (window : SyncWindow) : SyncConnection :=
  { row with
    syncFrom := window.syncFrom
    syncStartedAt := some window.syncStartedAt
    lastSyncError := none }

end SyncConnection

def SyncWindow.finish (window : SyncWindow) : SyncConnection where
  syncCursor := none
  syncFrom := none
  syncStartedAt := none
  lastSyncedAt := some window.syncStartedAt
  lastSyncError := none
  includeInRevenue := true

/-! ### Runs -/

def maxPagesPerRequest : ℕ := 5

/-- How far a run got: the connection was loaded; its window is written; a page was fetched, and
persisted; something failed. -/
inductive RunPhase
  | waiting
  | loaded (row : SyncConnection)
  | running (window : SyncWindow) (cursor : Option String) (pageNumber : ℕ)
  | fetched (window : SyncWindow) (cursor : Option String) (pageNumber : ℕ)
      (page : EcommerceOrderPage)
  | persisted (window : SyncWindow) (cursor : Option String) (pageNumber : ℕ)
      (page : EcommerceOrderPage)
  | failed (message : String)
  | returned (hasMore : Bool)
  | threw

/-- The row of the connection, the rows of its orders, the runs, and the pages that were
persisted, each with its window. -/
structure SyncRuns where
  row : SyncConnection := {}
  db : SyncDb := {}
  phases : ℕ → RunPhase := fun _ => .waiting
  pages : List (SyncWindow × EcommerceOrderPage) := []

inductive RunAction
  | load (run : ℕ)
  | start (run : ℕ) (now : ℤ)
  | fetch (run : ℕ) (page : EcommerceOrderPage)
  | persist (run : ℕ) (faults : SyncFaults)
  | advance (run : ℕ)
  | fail (run : ℕ) (message : String)
  | storeError (run : ℕ)
  | die (run : ℕ)

def safeMessage (message : String) : String :=
  String.ofList ((trim (collapseSpaces message)).toList.take 500)

def EcommercePlatform.text : EcommercePlatform → String
  | .shopify => "SHOPIFY"
  | .youcan => "YOUCAN"
  | .lightfunnels => "LIGHTFUNNELS"
  | .manual => "MANUAL"

def SyncError.message : SyncError → String
  | .customer (.conflict message) => message
  | .customer .uniqueConstraint => "Unique constraint failed on the fields: (storeId,phone)"
  | .stopped => "Order synchronization failed"

namespace SyncRuns

variable (env : SyncEnvironment) (platform : EcommercePlatform) (s : SyncRuns)

def setPhase (run : ℕ) (phase : RunPhase) : SyncRuns :=
  { s with phases := Function.update s.phases run phase }

def setRow (row : SyncConnection) : SyncRuns := { s with row }

def persistPage (run : ℕ) (faults : SyncFaults) (window : SyncWindow) (cursor : Option String)
    (pageNumber : ℕ) (page : EcommerceOrderPage) : SyncRuns :=
  match persistOrders env { platform, orders := page.orders } faults s.db with
  | (.error error, db) => { s with db }.setPhase run (.failed error.message)
  | (.ok (), db) =>
    { s with db, pages := (window, page) :: s.pages }.setPhase run
      (.persisted window cursor pageNumber page)

/-- After a page was persisted: the window is done, or the cursor of the next page is kept. -/
def advance (run : ℕ) (window : SyncWindow) (pageNumber : ℕ) (page : EcommerceOrderPage) :
    SyncRuns :=
  if page.hasNextPage then
    match truthy page.endCursor with
    | none =>
      s.setPhase run (.failed (platform.text ++ " returned an invalid pagination cursor"))
    | some cursor =>
      (s.setRow { s.row with syncCursor := some cursor }).setPhase run
        (.running window (some cursor) (pageNumber + 1))
  else (s.setRow window.finish).setPhase run (.returned false)

/-- **A step of `runSync`.** -/
def step : RunAction → SyncRuns
  | .load run =>
    match s.phases run with
    | .waiting => s.setPhase run (.loaded s.row)
    | _ => s
  | .start run now =>
    match s.phases run with
    | .loaded row =>
      (s.setRow (s.row.start (row.nextWindow now))).setPhase run
        (.running (row.nextWindow now) row.syncCursor 0)
    | _ => s
  | .fetch run page =>
    match s.phases run with
    | .running window cursor pageNumber =>
      if pageNumber < maxPagesPerRequest then
        s.setPhase run (.fetched window cursor pageNumber page)
      else s.setPhase run (.returned true)
    | _ => s
  | .persist run faults =>
    match s.phases run with
    | .fetched window cursor pageNumber page =>
      s.persistPage env platform run faults window cursor pageNumber page
    | _ => s
  | .advance run =>
    match s.phases run with
    | .persisted window _ pageNumber page => s.advance platform run window pageNumber page
    | _ => s
  | .fail run message =>
    match s.phases run with
    | .running _ _ _ | .fetched _ _ _ _ | .persisted _ _ _ _ => s.setPhase run (.failed message)
    | .waiting | .loaded _ => s.setPhase run .threw
    | _ => s
  | .storeError run =>
    match s.phases run with
    | .failed message =>
      (s.setRow { s.row with lastSyncError := some (safeMessage message) }).setPhase run .threw
    | _ => s
  | .die run =>
    match s.phases run with
    | .returned _ => s
    | _ => s.setPhase run .threw

end SyncRuns

/-! ### What the sync promises -/

/-- An update is persisted: the order is in a page of a window in which the update lies. -/
def Persisted (pages : List (SyncWindow × EcommerceOrderPage)) (externalOrderId : String)
    (time : ℤ) : Prop :=
  ∃ entry ∈ pages, entry.1.contains time ∧
    ∃ order ∈ entry.2.orders, order.externalOrderId = externalOrderId

instance (pages : List (SyncWindow × EcommerceOrderPage)) (externalOrderId : String) (time : ℤ) :
    Decidable (Persisted pages externalOrderId time) :=
  inferInstanceAs (Decidable (∃ entry ∈ pages, _ ∧ ∃ order ∈ entry.2.orders, _))

def PersistedBefore (source : SyncedPlatform) (pages : List (SyncWindow × EcommerceOrderPage))
    (time : Option ℤ) : Prop :=
  ∀ externalOrderId updatedAt, source.updated externalOrderId updatedAt →
    (∃ limit, time = some limit ∧ updatedAt < limit) → Persisted pages externalOrderId updatedAt

def SyncedPlatform.Reached (source : SyncedPlatform)
    (pages : List (SyncWindow × EcommerceOrderPage)) (window : SyncWindow)
    (cursor : Option String) : Prop :=
  Paging.Reached source.returns EcommerceOrderPage.next pages window cursor

/-- **The sync loses no order**: what was updated before `lastSyncedAt`, and before the window, is
persisted; the cursor belongs to the window; and what was persisted has its row. -/
structure SyncRuns.Lossless (source : SyncedPlatform) (s : SyncRuns) : Prop where
  synced : PersistedBefore source s.pages s.row.lastSyncedAt
  begun : ∀ window, s.row.window = some window → PersistedBefore source s.pages window.syncFrom
  cursor : ∀ cursor, s.row.syncCursor = some cursor →
    ∃ window, s.row.window = some window ∧ source.Reached s.pages window (some cursor)
  rows : ∀ entry ∈ s.pages, ∀ order ∈ entry.2.orders, (s.db.order order.externalOrderId).isSome

def SyncRuns.Answered (source : SyncedPlatform) (s : SyncRuns) : RunAction → Prop
  | .fetch run page =>
    match s.phases run with
    | .running window cursor _ => source.returns window cursor page
    | _ => True
  | _ => True

/-- **A run finds the row as it left it**: when it writes its window, the cursor is the one it has
read, or the row has this window already; and when it writes a cursor, the row has its window. -/
def SyncRuns.Undisturbed (s : SyncRuns) : RunAction → Prop
  | .start run now =>
    match s.phases run with
    | .loaded row => s.row.syncCursor = none ∨ s.row.syncCursor = row.syncCursor ∨
        s.row.window = some (row.nextWindow now)
    | _ => True
  | .advance run =>
    match s.phases run with
    | .persisted window _ _ page => page.next.isSome → s.row.window = some window
    | _ => True
  | _ => True

structure SyncRuns.Start (s : SyncRuns) : Prop where
  row : s.row.syncCursor = none ∧ s.row.syncStartedAt = none ∧ s.row.lastSyncedAt = none
  phases : ∀ run, s.phases run = .waiting
  pages : s.pages = []

/-! ### The rows of persisted orders -/

section Rows

variable {env : SyncEnvironment} {db : SyncDb} {externalOrderId : String}

theorem order_isSome_write (statement : LateStatement) :
    ((db.write env statement).order externalOrderId).isSome =
      (db.order externalOrderId).isSome := by
  obtain ⟨grow, horders, hgrown⟩ := write_orders env db statement
  have hkey : ∀ order, (grow order).externalOrderId = order.externalOrderId := fun order =>
    congrArg OrderData.externalOrderId (hgrown order).data
  rw [SyncDb.order, horders, KeyedRows.lookup_map StoredOrder.externalOrderId hkey,
    Option.isSome_map, SyncDb.order]

theorem order_isSome_writes (statements : List LateStatement) :
    ((statements.foldl (SyncDb.write env) db).order externalOrderId).isSome =
      (db.order externalOrderId).isSome := by
  induction statements generalizing db with
  | nil => rfl
  | cons statement statements ih => rw [List.foldl_cons, ih, order_isSome_write]

theorem order_isSome_upsertOrders (incomings : List NormalizedEcommerceOrder)
    {orders : List StoredOrder}
    (h : (KeyedRows.lookup StoredOrder.externalOrderId externalOrderId orders).isSome) :
    (KeyedRows.lookup StoredOrder.externalOrderId externalOrderId
      (incomings.foldl env.upsertOrder orders)).isSome := by
  induction incomings generalizing orders with
  | nil => exact h
  | cons incoming incomings ih =>
    refine ih ?_
    obtain ⟨row, -, -, hlookup⟩ := lookup_upsertOrder env orders incoming
    rw [hlookup]
    split
    · rfl
    · exact h

/-- **What an attempt to persist a page leaves**: the orders that had a row have one, and if it
succeeds those of the page, too. -/
theorem order_isSome_persistOrders (env : SyncEnvironment) (page : SyncPage) (faults : SyncFaults)
    (db : SyncDb) :
    (∀ externalOrderId, (db.order externalOrderId).isSome →
      ((persistOrders env page faults db).2.order externalOrderId).isSome) ∧
      ((persistOrders env page faults db).1 = .ok () → ∀ order ∈ page.orders,
        ((persistOrders env page faults db).2.order order.externalOrderId).isSome) := by
  rw [persistOrders]
  split
  · rename_i hnil
    refine ⟨fun _ hrow => hrow, fun _ order horder => ?_⟩
    rw [List.isEmpty_iff.1 hnil] at horder
    cases horder
  · split
    · exact ⟨fun _ hrow => hrow, fun hok => by cases hok⟩
    · split
      · exact ⟨fun _ hrow => hrow, fun hok => by cases hok⟩
      · rename_i customers book hresolved
        obtain ⟨statements, hleft⟩ := finishPage_writes env (env.lateCalls page db customers)
          faults.late { db with book, orders := env.upsertOrders page db.orders }
        rw [hleft]
        constructor
        · intro externalOrderId hrow
          rw [order_isSome_writes]
          exact order_isSome_upsertOrders page.orders hrow
        · intro _ order horder
          rw [order_isSome_writes]
          obtain ⟨-, -, -, row, hrow, -⟩ := stored_upsertOrders env page db.orders horder
          exact Option.isSome_iff_exists.2 ⟨row, hrow⟩

end Rows

/-! ### The invariant -/

theorem Persisted.mono {pages pages' : List (SyncWindow × EcommerceOrderPage)}
    (hpages : pages ⊆ pages') {externalOrderId : String} {time : ℤ}
    (h : Persisted pages externalOrderId time) : Persisted pages' externalOrderId time := by
  obtain ⟨entry, hentry, hin⟩ := h
  exact ⟨entry, hpages hentry, hin⟩

theorem PersistedBefore.mono {source : SyncedPlatform}
    {pages pages' : List (SyncWindow × EcommerceOrderPage)} (hpages : pages ⊆ pages')
    {time : Option ℤ} (h : PersistedBefore source pages time) :
    PersistedBefore source pages' time :=
  fun externalOrderId updatedAt hupdated hlimit =>
    (h externalOrderId updatedAt hupdated hlimit).mono hpages

structure SyncConnection.Sound (source : SyncedPlatform)
    (pages : List (SyncWindow × EcommerceOrderPage)) (row : SyncConnection) : Prop where
  synced : PersistedBefore source pages row.lastSyncedAt
  begun : ∀ window, row.window = some window → PersistedBefore source pages window.syncFrom
  cursor : ∀ cursor, row.syncCursor = some cursor →
    ∃ window, row.window = some window ∧ source.Reached pages window (some cursor)

def RunPhase.Knows (source : SyncedPlatform) (pages : List (SyncWindow × EcommerceOrderPage)) :
    RunPhase → Prop
  | .loaded row => row.Sound source pages
  | .running window cursor _ =>
    PersistedBefore source pages window.syncFrom ∧ source.Reached pages window cursor
  | .fetched window cursor _ page =>
    PersistedBefore source pages window.syncFrom ∧ source.Reached pages window cursor ∧
      source.returns window cursor page
  | .persisted window cursor _ page =>
    PersistedBefore source pages window.syncFrom ∧ source.Reached pages window cursor ∧
      source.returns window cursor page ∧ (window, page) ∈ pages
  | .waiting => True
  | .failed _ => True
  | .returned _ => True
  | .threw => True

structure SyncRuns.Inv (source : SyncedPlatform) (s : SyncRuns) : Prop where
  row : s.row.Sound source s.pages
  rows : ∀ entry ∈ s.pages, ∀ order ∈ entry.2.orders, (s.db.order order.externalOrderId).isSome
  phases : ∀ run, (s.phases run).Knows source s.pages

section Invariant

variable {source : SyncedPlatform} {pages pages' : List (SyncWindow × EcommerceOrderPage)}

variable {row : SyncConnection}

theorem SyncConnection.Sound.mono (h : row.Sound source pages) (hpages : pages ⊆ pages') :
    row.Sound source pages' where
  synced := h.synced.mono hpages
  begun window hwindow := (h.begun window hwindow).mono hpages
  cursor cursor hcursor := by
    obtain ⟨window, hwindow, hreached⟩ := h.cursor cursor hcursor
    exact ⟨window, hwindow, hreached.mono hpages⟩

theorem RunPhase.Knows.mono {phase : RunPhase} (h : phase.Knows source pages)
    (hpages : pages ⊆ pages') : phase.Knows source pages' := by
  cases phase with
  | loaded row => exact SyncConnection.Sound.mono h hpages
  | running window cursor pageNumber => exact ⟨h.1.mono hpages, h.2.mono hpages⟩
  | fetched window cursor pageNumber page =>
    exact ⟨h.1.mono hpages, h.2.1.mono hpages, h.2.2⟩
  | persisted window cursor pageNumber page =>
    exact ⟨h.1.mono hpages, h.2.1.mono hpages, h.2.2.1, hpages h.2.2.2⟩
  | waiting | failed | returned | threw => trivial

theorem SyncConnection.Sound.nextWindow (h : row.Sound source pages) (now : ℤ) :
    PersistedBefore source pages (row.nextWindow now).syncFrom := by
  rw [SyncConnection.nextWindow]
  cases hstarted : row.syncStartedAt with
  | none => exact h.synced
  | some syncStartedAt =>
    exact h.begun { syncFrom := row.syncFrom, syncStartedAt }
      (by rw [SyncConnection.window, hstarted]; rfl)

theorem SyncConnection.Sound.reached (h : row.Sound source pages) (now : ℤ) :
    source.Reached pages (row.nextWindow now) row.syncCursor := by
  cases hcursor : row.syncCursor with
  | none => exact Paging.Reached.start
  | some cursor =>
    obtain ⟨window, hwindow, hreached⟩ := h.cursor cursor hcursor
    obtain ⟨syncStartedAt, hstarted, rfl⟩ := Option.map_eq_some_iff.1 hwindow
    rw [SyncConnection.nextWindow, hstarted]
    exact hreached

theorem SyncConnection.window_start (row : SyncConnection) (window : SyncWindow) :
    (row.start window).window = some window := rfl

end Invariant

namespace SyncRuns

variable {env : SyncEnvironment} {source : SyncedPlatform} {s : SyncRuns}

theorem Inv.lossless (h : s.Inv source) : s.Lossless source :=
  ⟨h.row.synced, h.row.begun, h.row.cursor, h.rows⟩

theorem Start.inv (h : s.Start) : s.Inv source := by
  obtain ⟨hcursor, hstarted, hsynced⟩ := h.row
  refine ⟨⟨?_, ?_, ?_⟩, ?_, fun run => ?_⟩
  · rintro externalOrderId updatedAt - ⟨limit, hlimit, -⟩
    rw [hsynced] at hlimit
    cases hlimit
  · intro window hwindow
    rw [SyncConnection.window, hstarted] at hwindow
    cases hwindow
  · intro cursor hsome
    rw [hcursor] at hsome
    cases hsome
  · intro entry hentry
    rw [h.pages] at hentry
    cases hentry
  · rw [h.phases run]
    trivial

variable {run : ℕ}

theorem Inv.setPhase (h : s.Inv source) (phase : RunPhase) (hknows : phase.Knows source s.pages) :
    (s.setPhase run phase).Inv source where
  row := h.row
  rows := h.rows
  phases other := by
    change (Function.update s.phases run phase other).Knows source s.pages
    rcases eq_or_ne other run with rfl | hne
    · rw [Function.update_self]
      exact hknows
    · rw [Function.update_of_ne hne]
      exact h.phases other

theorem Inv.setRow (h : s.Inv source) {row : SyncConnection} (hrow : row.Sound source s.pages) :
    (s.setRow row).Inv source :=
  ⟨hrow, h.rows, h.phases⟩

theorem Inv.start (h : s.Inv source) {row : SyncConnection} (hrow : row.Sound source s.pages)
    (now : ℤ) (hundisturbed : s.row.syncCursor = none ∨ s.row.syncCursor = row.syncCursor ∨
      s.row.window = some (row.nextWindow now)) :
    (s.row.start (row.nextWindow now)).Sound source s.pages where
  synced := h.row.synced
  begun window hwindow := by
    obtain rfl := Option.some.inj hwindow
    exact hrow.nextWindow now
  cursor cursor hcursor := by
    refine ⟨row.nextWindow now, SyncConnection.window_start .., ?_⟩
    have hcursor : s.row.syncCursor = some cursor := hcursor
    rcases hundisturbed with hnone | hsame | hwindow
    · cases hnone.symm.trans hcursor
    · have hreached := hrow.reached now
      rw [← hsame, hcursor] at hreached
      exact hreached
    · obtain ⟨window, hown, hreached⟩ := h.row.cursor cursor hcursor
      obtain rfl := Option.some.inj (hwindow.symm.trans hown)
      exact hreached

variable {page : EcommerceOrderPage} {cursor : Option String} {window : SyncWindow}

theorem Inv.finish (hcomplete : source.Complete)
    (hbegun : PersistedBefore source s.pages window.syncFrom)
    (hreached : source.Reached s.pages window cursor) (hreturns : source.returns window cursor page)
    (hkept : (window, page) ∈ s.pages) (hlast : page.hasNextPage = false) :
    window.finish.Sound source s.pages where
  synced := by
    rintro externalOrderId updatedAt hupdated ⟨limit, hlimit, hlt⟩
    obtain rfl := Option.some.inj hlimit
    by_cases hbefore : ∃ start, window.syncFrom = some start ∧ updatedAt < start
    · exact hbegun externalOrderId updatedAt hupdated hbefore
    · have hcontains : window.contains updatedAt := by
        rw [SyncWindow.contains, Bool.and_eq_true, decide_eq_true_eq]
        refine ⟨?_, hlt⟩
        cases hfrom : window.syncFrom with
        | none => rfl
        | some start => exact decide_eq_true (not_lt.1 fun hlt' => hbefore ⟨start, hfrom, hlt'⟩)
      obtain ⟨pages, hwhole, hpages⟩ := Paging.Reached.whole hreached hreturns hkept
        (fun page => page.hasNextPage = false) hlast
      obtain ⟨own, hown, order, horder, hid⟩ :=
        hcomplete window pages hwhole externalOrderId updatedAt hupdated hcontains
      exact ⟨(window, own), hpages own hown, hcontains, order, horder, hid⟩
  begun _ hwindow := nomatch hwindow
  cursor _ hcursor := nomatch hcursor

theorem Inv.advance (h : s.Inv source) (hcomplete : source.Complete) {pageNumber : ℕ}
    (hphase : s.phases run = .persisted window cursor pageNumber page)
    (hundisturbed : page.next.isSome → s.row.window = some window) :
    (s.advance source.platform run window pageNumber page).Inv source := by
  have hknows := h.phases run
  rw [hphase] at hknows
  obtain ⟨hbegun, hreached, hreturns, hkept⟩ := hknows
  rw [SyncRuns.advance]
  split
  · rename_i hmore
    cases hcursor : truthy page.endCursor with
    | none => exact h.setPhase (.failed _) trivial
    | some cursor' =>
      have hnext : page.next = some cursor' := by
        rw [EcommerceOrderPage.next, if_pos hmore, hcursor]
      have hwindow := hundisturbed (by rw [hnext]; rfl)
      have hfollow : source.Reached s.pages window (some cursor') :=
        Paging.Reached.follow hreached hreturns hkept hnext
      have hrow : ({ s.row with syncCursor := some cursor' } : SyncConnection).Sound source
          s.pages :=
        ⟨h.row.synced, h.row.begun, fun other hother => by
          obtain rfl := Option.some.inj hother
          exact ⟨window, hwindow, hfollow⟩⟩
      exact (h.setRow hrow).setPhase (.running window (some cursor') _) ⟨hbegun, hfollow⟩
  · rename_i hlast
    have hrow := Inv.finish hcomplete hbegun hreached hreturns hkept
      (Bool.eq_false_iff.2 hlast)
    exact (h.setRow hrow).setPhase (.returned false) trivial

theorem Inv.persistPage (h : s.Inv source) (faults : SyncFaults) {pageNumber : ℕ}
    (hphase : s.phases run = .fetched window cursor pageNumber page) :
    (s.persistPage env source.platform run faults window cursor pageNumber page).Inv source := by
  have hknows := h.phases run
  rw [hphase] at hknows
  obtain ⟨hbegun, hreached, hreturns⟩ := hknows
  obtain ⟨hkept, hnew⟩ := order_isSome_persistOrders env
    { platform := source.platform, orders := page.orders } faults s.db
  rw [SyncRuns.persistPage]
  rcases hpersist : persistOrders env { platform := source.platform, orders := page.orders } faults
    s.db with ⟨error | done, db⟩
  · rw [hpersist] at hkept
    have hleft : ({ s with db } : SyncRuns).Inv source :=
      ⟨h.row, fun entry hentry order horder => hkept _ (h.rows entry hentry order horder), h.phases⟩
    exact hleft.setPhase (.failed error.message) trivial
  · rw [hpersist] at hkept hnew
    have hsub : s.pages ⊆ (window, page) :: s.pages := List.subset_cons_self _ _
    have hleft : ({ s with db, pages := (window, page) :: s.pages } : SyncRuns).Inv source := by
      refine ⟨h.row.mono hsub, fun entry hentry order horder => ?_, fun other =>
        (h.phases other).mono hsub⟩
      rcases List.mem_cons.1 hentry with rfl | hold
      · exact hnew rfl order horder
      · exact hkept _ (h.rows entry hold order horder)
    exact hleft.setPhase (.persisted window cursor pageNumber page)
      ⟨hbegun.mono hsub, hreached.mono hsub, hreturns, List.mem_cons_self ..⟩

theorem Inv.step (h : s.Inv source) (hcomplete : source.Complete) (action : RunAction)
    (hanswered : s.Answered source action) (hundisturbed : s.Undisturbed action) :
    (s.step env source.platform action).Inv source := by
  cases action with
  | load run =>
    simp only [SyncRuns.step]
    split
    · exact h.setPhase (.loaded s.row) h.row
    · exact h
  | start run now =>
    simp only [SyncRuns.step]
    split
    · rename_i row hphase
      have hrow := h.phases run
      rw [hphase] at hrow
      rw [Undisturbed, hphase] at hundisturbed
      exact (h.setRow (h.start hrow now hundisturbed)).setPhase
        (.running (row.nextWindow now) row.syncCursor 0)
        ⟨hrow.nextWindow now, hrow.reached now⟩
    · exact h
  | fetch run page =>
    simp only [SyncRuns.step]
    split
    · rename_i window cursor pageNumber hphase
      have hknows := h.phases run
      rw [hphase] at hknows
      rw [Answered, hphase] at hanswered
      split
      · exact h.setPhase (.fetched window cursor pageNumber page)
          ⟨hknows.1, hknows.2, hanswered⟩
      · exact h.setPhase (.returned true) trivial
    · exact h
  | persist run faults =>
    simp only [SyncRuns.step]
    split
    · exact h.persistPage faults ‹_›
    · exact h
  | advance run =>
    simp only [SyncRuns.step]
    split
    · rename_i window cursor pageNumber page hphase
      rw [Undisturbed, hphase] at hundisturbed
      exact h.advance hcomplete hphase hundisturbed
    · exact h
  | fail run message =>
    simp only [SyncRuns.step]
    split
    · exact h.setPhase (.failed message) trivial
    · exact h.setPhase (.failed message) trivial
    · exact h.setPhase (.failed message) trivial
    · exact h.setPhase .threw trivial
    · exact h.setPhase .threw trivial
    · exact h
  | storeError run =>
    simp only [SyncRuns.step]
    split
    · rename_i message hphase
      have hrow : ({ s.row with lastSyncError := some (safeMessage message) } :
          SyncConnection).Sound source s.pages := ⟨h.row.synced, h.row.begun, h.row.cursor⟩
      exact (h.setRow hrow).setPhase .threw trivial
    · exact h
  | die run =>
    simp only [SyncRuns.step]
    split
    · exact h
    · exact h.setPhase .threw trivial

end SyncRuns

/-- **When the incremental sync loses no order**, in whatever order its runs go on. -/
theorem syncWindows (env : SyncEnvironment) {source : SyncedPlatform} (hcomplete : source.Complete)
    {s : SyncRuns} (hstart : s.Start) {actions : List RunAction}
    (hanswered : Machine.Along (SyncRuns.step env source.platform) (SyncRuns.Answered source) s
      actions)
    (hundisturbed : Machine.Along (SyncRuns.step env source.platform) SyncRuns.Undisturbed s
      actions) :
    Machine.Along (SyncRuns.step env source.platform)
      (fun s action => (s.step env source.platform action).Lossless source) s actions := by
  have hboth : Machine.Along (SyncRuns.step env source.platform)
      (fun s action => s.Answered source action ∧ s.Undisturbed action) s actions :=
    hanswered.and hundisturbed
  exact hboth.of_keeps (I := SyncRuns.Inv source)
    (fun _ action hs hstep => hs.step hcomplete action hstep.1 hstep.2)
    (fun _ action hs hstep => (hs.step hcomplete action hstep.1 hstep.2).lossless) hstart.inv

def lateOrder : NormalizedEcommerceOrder := { externalOrderId := "1003", providerUpdatedAt := 20 }

def twoPages (window : SyncWindow) : Option String → EcommerceOrderPage
  | none =>
    { orders := if window.contains 20 then [lateOrder] else []
      hasNextPage := true
      endCursor := some "2" }
  | some _ => { orders := [], hasNextPage := false, endCursor := none }

def twoPagePlatform : SyncedPlatform where
  platform := .shopify
  returns := fun window cursor page => page = twoPages window cursor
  updated := fun externalOrderId time => externalOrderId = "1003" ∧ time = 20

theorem twoPagePlatform_complete : twoPagePlatform.Complete := by
  rintro window pages ⟨before, cursor, page, rfl, hupto, rfl, hlast⟩ _ _ ⟨rfl, rfl⟩ hcontains
  refine ⟨twoPages window none, List.mem_append_left _ ?_, lateOrder, ?_, rfl⟩
  · cases hupto with
    | start => cases hlast
    | @follow pages cursor page cursor' _ hreturns hnext =>
      obtain rfl := hreturns
      cases cursor with
      | none => exact List.mem_append_right _ (List.mem_singleton_self _)
      | some _ => cases hnext
  · rw [twoPages, if_pos hcontains]
    exact List.mem_singleton_self _

def RunPhase.idle : RunPhase → Bool
  | .waiting | .returned _ | .threw => true
  | _ => false

/-- Two servers sync at the same time.  The second one keeps its cursor after the first one has
finished the window, and dies; the next run takes the cursor for one of a new window. -/
def replicaRuns : List RunAction :=
  [.load 0, .load 1, .start 0 10, .start 1 12, .fetch 0 (twoPages ⟨none, 10⟩ none), .persist 0 {},
    .advance 0, .fetch 0 (twoPages ⟨none, 10⟩ (some "2")), .persist 0 {}, .advance 0,
    .fetch 1 (twoPages ⟨none, 12⟩ none), .persist 1 {}, .advance 1, .die 1, .load 2, .start 2 30,
    .fetch 2 (twoPages ⟨some 10, 30⟩ (some "2")), .persist 2 {}, .advance 2]

/-- The order is not persisted, although everything is said to be synced. -/
theorem syncWindows_replicas :
    twoPagePlatform.Complete ∧ ({} : SyncRuns).Start ∧
      Machine.Along (SyncRuns.step sook .shopify) (SyncRuns.Answered twoPagePlatform) {}
        replicaRuns ∧
      (∀ run, ((Machine.run (SyncRuns.step sook .shopify) {} replicaRuns).phases run).idle) ∧
      ¬ (Machine.run (SyncRuns.step sook .shopify) {} replicaRuns).Lossless twoPagePlatform := by
  refine ⟨twoPagePlatform_complete, ⟨⟨rfl, rfl, rfl⟩, fun _ => rfl, rfl⟩, ?_, ?_, fun h => ?_⟩
  · exact ⟨trivial, trivial, trivial, trivial, rfl, trivial, trivial, rfl, trivial, trivial, rfl,
      trivial, trivial, trivial, trivial, trivial, rfl, trivial, trivial, trivial⟩
  · rintro (_ | _ | _ | run) <;> rfl
  · have hpersisted := h.synced "1003" 20 ⟨rfl, rfl⟩ ⟨30, rfl, by decide⟩
    revert hpersisted
    decide +kernel

/-- One run stops after a page, and the next one goes on. -/
theorem syncWindows_resumed :
    Machine.Along (SyncRuns.step sook twoPagePlatform.platform)
      (fun s action => (s.step sook twoPagePlatform.platform action).Lossless twoPagePlatform) {}
      [.load 0, .start 0 30, .fetch 0 (twoPages ⟨none, 30⟩ none), .persist 0 {}, .advance 0, .die 0,
        .load 1, .start 1 40, .fetch 1 (twoPages ⟨none, 30⟩ (some "2")), .persist 1 {},
        .advance 1] :=
  syncWindows sook twoPagePlatform_complete ⟨⟨rfl, rfl, rfl⟩, fun _ => rfl, rfl⟩
    ⟨trivial, trivial, rfl, trivial, trivial, trivial, trivial, trivial, rfl, trivial, trivial,
      trivial⟩
    ⟨trivial, Or.inl rfl, trivial, trivial, fun _ => rfl, trivial, trivial,
      Or.inr (Or.inl rfl), trivial, trivial, (fun hnext => nomatch hnext), trivial⟩

end Zomaal
